import HtmlTemplate.Proofs.Readback

/-!
# What the scanner reports

Whatever the source, the events that the scanner reports can be written so that they are read again
(`reports_of_scanConstruct`): tags and names of attributes are in small letters and hold nothing
that ends them, and comments, declarations, instructions and marked sections hold nothing that would
have ended them earlier. `scans_of_scan` says what the loop of the scanner does with a text, one
construct after another.
-/

namespace HtmlTemplate.Markup

open HtmlTemplate.Text

/-! ### Names -/

theorem isTagChar_of_mem_lowercase {s : String} (chars : ∀ c ∈ s.toList, isTagChar c = true)
    {d : Char} (mem : d ∈ (lowercase s).toList) : isTagChar d = true :=
  (mem_lowercase_cases mem).elim (chars d) isTagChar_of_not_isSeparator

/-- A tag in small letters is readable. -/
theorem readableTag_lowercase {name : List Char}
    (first : ∃ c cs, name = c :: cs ∧ c.isAlpha = true) (chars : ∀ c ∈ name, isTagChar c = true) :
    ReadableTag (lowercase (String.ofList name)) := by
  refine ⟨?_, fun d => isTagChar_of_mem_lowercase (by simpa using chars), lowercase_lowercase _⟩
  obtain ⟨c, cs, rfl, alpha⟩ := first
  have table : ∀ n : Fin 128, (Char.ofNat n).isAlpha = true →
      lowerForm (Char.ofNat n) = [(Char.ofNat n).toLower] ∧
        ((Char.ofNat n).toNat == 0x3a3) = false ∧ (Char.ofNat n).toLower.isAlpha = true := by
    decide +kernel
  obtain ⟨n, rfl⟩ := exists_fin_of_ascii (toNat_lt_of_isAlpha alpha)
  obtain ⟨form, sigma, alpha'⟩ := table n alpha
  refine ⟨(Char.ofNat n).toLower, lowercaseAfter [Char.ofNat n] cs, ?_, alpha'⟩
  rw [lowercase, String.toList_ofList, String.toList_ofList, lowercaseAfter, smallForm, sigma,
    if_neg Bool.false_ne_true, form, List.singleton_append]

/-- The name of an attribute in small letters is readable. -/
theorem readableName_lowercase {name : List Char}
    (first : ∃ c cs, name = c :: cs ∧ isAttrStart c = true ∧ ∀ d ∈ cs, isAttrChar d = true) :
    ReadableName (lowercase (String.ofList name)) := by
  refine ⟨?_, lowercase_lowercase _⟩
  obtain ⟨c, cs, rfl, start, chars⟩ := first
  obtain ⟨d, ds, small, marks⟩ := smallForm_eq_cons [] c cs
  refine ⟨d, ds ++ lowercaseAfter [c] cs, ?_, ?_, fun e he => ?_⟩
  · rw [lowercase, String.toList_ofList, String.toList_ofList, lowercaseAfter, small,
      List.cons_append]
  · have mem : d ∈ smallForm [] c cs := by
      rw [small]
      exact List.mem_cons_self
    rcases (settled_of_mem_smallForm mem).2 with rfl | apart
    · exact start
    · exact isAttrStart_of_isAttrChar (isAttrChar_of_not_isSeparator apart)
  · rcases List.mem_append.1 he with he | he
    · exact isAttrChar_of_not_isSeparator (marks e he)
    · exact (settled_of_mem_lowercaseAfter he).2.elim (chars e) isAttrChar_of_not_isSeparator

/-! ### Start tags -/

theorem name_of_attrAt {s : Spot} {found : (List Char × Option (List Char)) × Spot}
    (h : attrAt s = some found) :
    ∃ c cs, found.1.1 = c :: cs ∧ isAttrStart c = true ∧ ∀ d ∈ cs, isAttrChar d = true := by
  unfold attrAt at h
  split at h
  · cases h
  · rename_i c cs _
    split at h
    · rename_i opens
      have start := (Bool.and_eq_true_iff.1 opens).2
      dsimp only at h
      split at h
      all_goals
        cases h
        exact ⟨c, _, rfl, start, fun d hd => List.mem_takeWhile_imp hd⟩
    · cases h

theorem names_of_attrsFrom (s : Spot) : ∀ a ∈ (attrsFrom s).1,
    ∃ c cs, a.1 = c :: cs ∧ isAttrStart c = true ∧ ∀ d ∈ cs, isAttrChar d = true := by
  fun_induction attrsFrom s with
  | case1 s none => exact fun a ha => absurd ha List.not_mem_nil
  | case2 s attr after found shorter more ih =>
    intro a ha
    rcases List.mem_cons.1 ha with rfl | ha
    · exact name_of_attrAt found
    · exact ih a ha
  | case3 s attr after found noShorter =>
    intro a ha
    rw [List.mem_singleton.1 ha]
    exact name_of_attrAt found

/-! ### Events -/

/-- Events that can be written and are read again then. -/
def Sound : Event → Prop
  | .startTag tag attrs => ReadableTag tag ∧ ∀ a ∈ attrs, ReadableName a.1
  | .emptyTag tag attrs => ReadableTag tag ∧ ∀ a ∈ attrs, ReadableName a.1
  | .endTag _ => True
  | .data _ => True
  | .comment data => cutAt closeComment data.toList = none
  | .declaration data => Doctype data.toList
  | .instruction data => '>' ∉ data.toList
  | .markedSection data => ∃ close, SectionText data.toList close

/-- The raw text element that the scanner is in after an event outside raw text. -/
def modeAfter : Event → Option String
  | .startTag tag _ => if isRawText tag then some tag else none
  | _ => none

/-- What a construct outside raw text reports: a sound event, or nothing. -/
inductive Reports : Scanned → Prop
  | nothing (rest : List Char) : Reports ⟨[], none, rest⟩
  | event {e : Event} (sound : Sound e) (rest : List Char) : Reports ⟨[e], modeAfter e, rest⟩

theorem reports_of_scanStartTag {c : Char} {cs : List Char} (alpha : c.isAlpha = true) {s : Scanned}
    (h : scanStartTag (c :: cs) = some s) : Reports s := by
  have tagChar : isTagChar c = true := by
    have table : ∀ n : Fin 128, (Char.ofNat n).isAlpha = true →
        isTagChar (Char.ofNat n) = true := by
      decide +kernel
    obtain ⟨n, rfl⟩ := exists_fin_of_ascii (toNat_lt_of_isAlpha alpha)
    exact table n alpha
  unfold scanStartTag at h
  dsimp only at h
  split at h
  · cases h
  · rename_i rest _
    generalize hfound : attrsFrom _ = found at h
    have tag : ReadableTag (lowercase (String.ofList ((c :: cs).takeWhile isTagChar))) :=
      readableTag_lowercase ⟨c, _, List.takeWhile_cons_of_pos tagChar, alpha⟩
        fun d hd => List.mem_takeWhile_imp hd
    have names : ∀ a ∈ found.1.map reportAttr, ReadableName a.1 := by
      intro a ha
      obtain ⟨attr, mem, rfl⟩ := List.mem_map.1 ha
      exact readableName_lowercase (names_of_attrsFrom _ attr (hfound ▸ mem))
    split at h
    · cases h
      exact .event (e := .emptyTag _ _) ⟨tag, names⟩ rest
    · split at h
      · cases h
        exact .event (e := .startTag _ _) ⟨tag, names⟩ rest
      · cases h
        exact .event (e := .data _) trivial rest

theorem reports_of_scanToBracket {event : String → Event}
    (plain : ∀ data, modeAfter (event data) = none)
    (sound : ∀ data : String, '>' ∉ data.toList → Sound (event data)) {cs : List Char} {s : Scanned}
    (h : scanToBracket event cs = some s) : Reports s := by
  obtain ⟨⟨inside, from_, rest⟩, cut, rfl⟩ := Option.map_eq_some_iff.1 h
  obtain ⟨-, -, noBracket⟩ := cutAt_closeChar_eq_some cut
  have := Reports.event (sound (String.ofList inside) (by simpa using noBracket)) rest
  rwa [plain] at this

theorem sound_comment {data : String} (h : '>' ∉ data.toList) : Sound (.comment data) :=
  cutAt_closeComment_of_noBracket h

theorem reports_of_scanEndTag {cs : List Char} {s : Scanned} (h : scanEndTag none cs = some s) :
    Reports s := by
  unfold scanEndTag at h
  split at h
  · cases h
  · rename_i inside from_ rest cut
    obtain ⟨-, -, noBracket⟩ := cutAt_closeChar_eq_some cut
    dsimp only at h
    split at h
    · cases h
      exact .event (e := .endTag _) trivial _
    · cases cs with
      | nil => cases h
      | cons c cs =>
        dsimp only at h
        split at h
        · obtain ⟨cut', -, rfl⟩ := Option.map_eq_some_iff.1 h
          exact .event (e := .endTag _) trivial _
        · split at h
          · cases h
            exact .nothing rest
          · cases h
            exact .event (e := .comment _) (sound_comment (by simpa using noBracket)) rest

theorem closeSpaced_nil_eq_none {kind : String} {close : List Char → Option (List Char)}
    (h : closeSection? kind = some close) :
    close [] = none ∧ Extends close ∧ ∀ c cs after, close (c :: cs) = some after → c = ']' := by
  rcases closeSection?_cases h with ⟨-, rfl⟩ | ⟨-, rfl⟩
  all_goals
    refine ⟨rfl, extends_closeSpaced _, fun c cs after hit => ?_⟩
    by_contra other
    rw [closeSpaced_of_ne other] at hit
    cases hit

theorem reports_of_scanSection {cs : List Char} {s : Scanned}
    (h : scanSection cs = .ok (some s)) : Reports s := by
  unfold scanSection at h
  split at h
  · cases h
  · rename_i c cs
    split at h
    · rename_i alpha
      dsimp only at h
      split at h
      · cases h
      · split at h
        · cases h
        · rename_i close kind
          obtain ⟨⟨data, from_, rest⟩, cut, rfl⟩ := Option.map_eq_some_iff.1 (Except.ok.inj h)
          obtain ⟨empty, ext, bracket⟩ := closeSpaced_nil_eq_none kind
          have clear := ext.cutAt_before empty cut
          obtain ⟨split, hit, -⟩ := cutAt_eq_some cut
          obtain ⟨d, tail, rfl⟩ : ∃ d tail, from_ = d :: tail := by
            cases from_ with
            | nil => rw [empty] at hit; cases hit
            | cons d tail => exact ⟨d, tail, rfl⟩
          obtain rfl := bracket d tail rest hit
          refine .event (e := .markedSection _) ⟨close, ?_, ?_, by simpa using clear⟩ rest
          · cases data with
            | nil =>
              have bracketAlpha : ']'.isAlpha = true := (List.cons.inj split).1 ▸ alpha
              exact absurd bracketAlpha (by decide)
            | cons e data => exact ⟨e, data, by simp, (List.cons.inj split).1 ▸ alpha⟩
          · rw [String.toList_ofList, ← sectionKind_append_bracket data tail, ← split]
            exact kind
    · cases h

theorem reports_of_scanDeclaration {cs : List Char} {s : Scanned}
    (h : scanDeclaration cs = .ok (some s)) : Reports s := by
  unfold scanDeclaration at h
  split at h
  · obtain ⟨⟨data, from_, rest⟩, cut, rfl⟩ := Option.map_eq_some_iff.1 (Except.ok.inj h)
    have clear := extends_closeComment.cutAt_before rfl cut
    exact .event (e := .comment _) (by simpa [Sound] using clear) rest
  · exact reports_of_scanSection h
  · split at h
    · rename_i word
      obtain ⟨⟨data, from_, rest⟩, cut, rfl⟩ := Option.map_eq_some_iff.1 (Except.ok.inj h)
      obtain ⟨split, -, noBracket⟩ := cutAt_closeChar_eq_some cut
      have long : 7 ≤ cs.length := by
        by_contra short
        rw [List.drop_eq_nil_of_le (by omega)] at split
        simp at split
      have taken : (cs.take 7).length = 7 := by simp [long]
      refine .event (e := .declaration _) ⟨?_, ?_, ?_⟩ rest
      · rw [String.toList_ofList, List.take_left' taken]
        exact word
      · simp [taken]
      · rw [String.toList_ofList, List.mem_append, not_or]
        refine ⟨fun mem => ?_, noBracket⟩
        have settled : Settled '>' := ⟨by decide +kernel, by decide⟩
        have small : '>' ∈ lowercaseAfter [] (cs.take 7) := mem_lowercaseAfter settled mem
        rw [lowercase, String.toList_ofList] at word
        have letters := congrArg String.toList word
        rw [String.toList_ofList] at letters
        rw [letters] at small
        revert small
        decide
    · exact reports_of_scanToBracket (fun _ => rfl) (fun _ => sound_comment) (Except.ok.inj h)

/-- What a construct outside raw text reports is sound. -/
theorem reports_of_scanConstruct {cs : List Char} {s : Scanned}
    (h : scanConstruct none cs = .ok (some s)) : Reports s := by
  unfold scanConstruct at h
  split at h
  · cases h
  · exact reports_of_scanEndTag (Except.ok.inj h)
  · exact reports_of_scanDeclaration h
  · have sound (data : String) (noBracket : '>' ∉ data.toList) : Sound (.instruction data) :=
      noBracket
    exact reports_of_scanToBracket (fun _ => rfl) sound (Except.ok.inj h)
  · split at h
    · exact reports_of_scanStartTag ‹_› (Except.ok.inj h)
    · cases h
      exact .event (e := .data _) trivial _

/-! ### The loop -/

/-- What the loop of the scanner does with a text: it takes one construct after another, each with
the text before it, until it waits or the source ends. -/
inductive Scans (final : Bool) : Option String → List Char → List Event → Scanner → Prop
  /-- The text waits for more. -/
  | waits (raw? : Option String) (cs : List Char) : Scans final raw? cs [] ⟨cs, raw?⟩
  | data (cs : List Char) : Scans final none cs [dataEvent none cs] ⟨[], none⟩
  | construct {raw? : Option String} {cs before from_ : List Char} {s : Scanned} {more : List Event}
    {state : Scanner} : nextConstruct raw? cs = some (before, from_) →
      scanConstruct raw? (from_.drop 1) = .ok (some s) → Scans final s.raw? s.rest more state →
        Scans final raw? cs
          ((if before.isEmpty then [] else [dataEvent raw? before]) ++ s.events ++ more) state
  | last {raw? : Option String} {cs before from_ : List Char} {s : Scanned} :
    nextConstruct raw? cs = some (before, from_) →
      scanConstruct raw? (from_.drop 1) = .ok (some s) →
        Scans final raw? cs
          ((if before.isEmpty then [] else [dataEvent raw? before]) ++ s.events) ⟨[], s.raw?⟩
  | broken {raw? : Option String} {cs before from_ data rest : List Char} {more : List Event}
    {state : Scanner} : nextConstruct raw? cs = some (before, from_) →
      scanConstruct raw? (from_.drop 1) = .ok none → Scans final raw? rest more state →
        Scans final raw? cs
          ((if before.isEmpty then [] else [dataEvent raw? before]) ++ dataEvent raw? data :: more)
          state
  | breaksOff {raw? : Option String} {cs before from_ pending : List Char} :
    nextConstruct raw? cs = some (before, from_) →
      scanConstruct raw? (from_.drop 1) = .ok none →
        Scans final raw? cs (if before.isEmpty then [] else [dataEvent raw? before])
          ⟨pending, raw?⟩

theorem scans_of_scan {final : Bool} {raw? : Option String} {cs : List Char} :
    ∀ {es : List Event} {state : Scanner}, scan final raw? cs = .ok (es, state) →
      Scans final raw? cs es state := by
  fun_induction scan final raw? cs with
  | case1 raw? cs empty =>
    rintro _ _ ⟨⟩
    rw [List.isEmpty_iff.1 empty]
    exact .waits raw? []
  | case2 raw? cs | case3 raw? cs =>
    rintro _ _ ⟨⟩
    exact .waits raw? cs
  | case4 raw? cs _ _ noRaw =>
    rintro _ _ ⟨⟩
    obtain rfl : raw? = none := by simpa using noRaw
    exact .data cs
  | case5 | case6 | case9 => nofun
  | case7 =>
    rename_i next _ _ _ reads _ _ _ rest ih
    rintro _ _ ⟨⟩
    exact .construct next reads (ih rest)
  | case8 =>
    rename_i next _ _ _ reads _
    rintro _ _ ⟨⟩
    exact .last next reads
  | case10 =>
    rename_i next _ _ reads _ _ _ _ _ _ rest ih
    rintro _ _ ⟨⟩
    exact .broken next reads (ih rest)
  | case11 =>
    rename_i next _ _ reads _ _ _ _
    rintro _ _ ⟨⟩
    exact .breaksOff next reads
  | case12 =>
    rename_i next _ _ reads _
    rintro _ _ ⟨⟩
    exact .breaksOff next reads

end HtmlTemplate.Markup
