import HtmlTemplate.Proofs.BuiltNodes
import HtmlTemplate.Proofs.SecondReading

/-!
# What the scanner leaves

What a construct leaves to read is the end of the text that it was read from
(`rest_suffix_of_scanConstruct`). So a marked section is reported only where its opening stands in
the source (`noSection_of_scan`), and without one no conditional section is in the tree
(`plain_of_parse`).
-/

namespace HtmlTemplate.Markup

open HtmlTemplate.Text Node

/-! ### Ends of constructs -/

/-- What is left after a match is the end of the text. -/
def Consumes (close : List Char → Option (List Char)) : Prop :=
  ∀ cs after, close cs = some after → after <:+ cs

theorem consumes_closeChar (c : Char) : Consumes (closeChar c) := by
  intro cs after h
  obtain rfl := closeChar_eq_some h
  exact List.suffix_cons c after

theorem consumes_closeComment : Consumes closeComment := by
  intro cs after h
  unfold closeComment at h
  split at h
  · rename_i cs
    have marks : cs <:+ '-' :: '-' :: cs := ⟨['-', '-'], rfl⟩
    exact ((consumes_closeChar '>' _ after h).trans (List.dropWhile_suffix isBlank)).trans marks
  · cases h

theorem Consumes.cutAt {close : List Char → Option (List Char)} (h : Consumes close)
    {cs before from_ after : List Char} (cut : cutAt close cs = some (before, from_, after)) :
    from_ <:+ cs ∧ after <:+ cs := by
  obtain ⟨rfl, hit, -⟩ := cutAt_eq_some cut
  have front : from_ <:+ before ++ from_ := List.suffix_append before from_
  exact ⟨front, (h from_ after hit).trans front⟩

/-! ### Attributes -/

theorem rest_skipGap_suffix (last : Char) (cs : List Char) : (skipGap last cs).rest <:+ cs := by
  fun_induction skipGap last cs with
  | case1 => exact List.suffix_rfl
  | case2 last c cs _ ih => exact ih.trans (List.suffix_cons c cs)
  | case3 => exact List.suffix_rfl

theorem rest_suffix_of_quotedValue {mark : Char} {cs value : List Char} {after : Spot}
    (h : quotedValue mark cs = some (value, after)) : after.rest <:+ cs := by
  obtain ⟨⟨before, from_, rest⟩, cut, same⟩ := Option.map_eq_some_iff.1 h
  cases same
  exact ((consumes_closeChar mark).cutAt cut).2

theorem rest_bareValue_suffix (last : Char) (cs : List Char) : (bareValue last cs).2.rest <:+ cs :=
  List.dropWhile_suffix isBareChar

/-- The last character of a run and the text behind the run are the end of a text. -/
theorem cons_dropWhile_suffix {p : Char → Bool} {c : Char} {cs : List Char}
    (h : (cs.takeWhile p).getLast? = some c) : c :: cs.dropWhile p <:+ cs := by
  obtain ⟨run, split⟩ := List.getLast?_eq_some_iff.1 h
  refine ⟨run, ?_⟩
  rw [← List.singleton_append, ← List.append_assoc, ← split, List.takeWhile_append_dropWhile]

/-- The value behind equals signs when a quotation mark there has no partner. -/
def loneValue? (visible : List Char) : Option (List Char × Spot) :=
  let tail := visible.dropWhile (· == '=')
  let gap := tail.takeWhile isBlank
  match gap.getLast? with
  | some g => some ([], ⟨gap.dropLast.getLastD '=', g :: tail.dropWhile isBlank⟩)
  | none =>
    if (visible.takeWhile (· == '=')).length = 1 then none
    else some (bareValue '=' ('=' :: tail.dropWhile isBlank))

theorem attrValue?_eq (cs : List Char) :
    attrValue? cs =
      let visible := cs.dropWhile isBlank
      let tail := visible.dropWhile (· == '=')
      if (visible.takeWhile (· == '=')).isEmpty then none
      else match tail.dropWhile isBlank with
        | '\'' :: cs' => (quotedValue '\'' cs').orElse fun _ => loneValue? visible
        | '"' :: cs' => (quotedValue '"' cs').orElse fun _ => loneValue? visible
        | _ => some (bareValue ((tail.takeWhile isBlank).getLastD '=') (tail.dropWhile isBlank)) :=
  rfl

theorem rest_suffix_of_loneValue? {visible value : List Char} {after : Spot}
    (signs : visible.takeWhile (· == '=') ≠ []) (h : loneValue? visible = some (value, after)) :
    after.rest <:+ visible := by
  unfold loneValue? at h
  dsimp only at h
  have tail_suffix : visible.dropWhile (· == '=') <:+ visible := List.dropWhile_suffix _
  split at h
  · rename_i g last
    cases h
    exact (cons_dropWhile_suffix last).trans tail_suffix
  · rename_i noGap
    split at h
    · cases h
    · cases h
      refine (rest_bareValue_suffix '=' _).trans ?_
      -- Without a gap the last of the signs stands right before the value.
      have bare := List.takeWhile_append_dropWhile (p := isBlank)
        (l := visible.dropWhile (· == '='))
      rw [List.getLast?_eq_none_iff.1 noGap, List.nil_append] at bare
      rw [bare]
      have sign := List.mem_takeWhile_imp (List.getLast_mem signs)
      refine cons_dropWhile_suffix ?_
      rw [List.getLast?_eq_some_getLast signs, eq_of_beq sign]

theorem rest_suffix_of_attrValue? {cs value : List Char} {after : Spot}
    (h : attrValue? cs = some (value, after)) : after.rest <:+ cs := by
  rw [attrValue?_eq] at h
  dsimp only at h
  have visible : cs.dropWhile isBlank <:+ cs := List.dropWhile_suffix isBlank
  have body : ((cs.dropWhile isBlank).dropWhile (· == '=')).dropWhile isBlank <:+ cs :=
    (List.dropWhile_suffix isBlank).trans ((List.dropWhile_suffix _).trans visible)
  split at h
  · cases h
  · rename_i signs
    have quoted {mark : Char} {cs' : List Char} (inside : mark :: cs' <:+ cs)
        (h : (quotedValue mark cs').orElse (fun _ => loneValue? (cs.dropWhile isBlank)) =
          some (value, after)) : after.rest <:+ cs := by
      cases partner : quotedValue mark cs' with
      | some found =>
        rw [partner] at h
        obtain rfl := Option.some.inj h
        exact (rest_suffix_of_quotedValue partner).trans ((List.suffix_cons mark cs').trans inside)
      | none =>
        rw [partner] at h
        exact (rest_suffix_of_loneValue? (by simpa using signs) h).trans visible
    split at h
    · rename_i shown
      exact quoted (shown ▸ body) h
    · rename_i shown
      exact quoted (shown ▸ body) h
    · cases h
      exact (rest_bareValue_suffix _ _).trans body

theorem rest_suffix_of_attrAt {s : Spot} {found : (List Char × Option (List Char)) × Spot}
    (h : attrAt s = some found) : found.2.rest <:+ s.rest := by
  unfold attrAt at h
  split at h
  · cases h
  · rename_i c cs shown
    have tail : cs.dropWhile isAttrChar <:+ s.rest :=
      shown ▸ (List.dropWhile_suffix isAttrChar).trans (List.suffix_cons c cs)
    split at h
    · dsimp only at h
      split at h
      · rename_i value after valued
        cases h
        exact ((rest_skipGap_suffix _ _).trans (rest_suffix_of_attrValue? valued)).trans tail
      · cases h
        exact (rest_skipGap_suffix _ _).trans tail
    · cases h

theorem rest_attrsFrom_suffix (s : Spot) : (attrsFrom s).2.rest <:+ s.rest := by
  fun_induction attrsFrom s with
  | case1 s none => exact List.suffix_rfl
  | case2 s attr after found shorter more ih => exact ih.trans (rest_suffix_of_attrAt found)
  | case3 s attr after found noShorter => exact rest_suffix_of_attrAt found

/-! ### Constructs -/

theorem suffix_of_tagEnd {cs rest : List Char} (h : tagEnd cs = .at rest) : rest <:+ cs := by
  unfold tagEnd at h
  split at h
  · cases h
  · cases h
    exact List.suffix_cons '>' _
  · cases h
    exact ⟨['/', '>'], rfl⟩
  · split at h
    · cases h
    · cases h
      exact List.suffix_rfl

/-- Whether an event puts no conditional section into a tree. -/
def Unconditional (e : Event) : Prop := e.Directs fun data => isConditional data = false

theorem unconditional_of_none {e : Event} (h : e.directive? = none) : Unconditional e := by
  intro data shown
  rw [h] at shown
  cases shown

/-- A construct that is no conditional section leaves the end of its text to read. -/
structure Leaves (cs : List Char) (s : Scanned) : Prop where
  rest : s.rest <:+ cs
  plain : ∀ e ∈ s.events, Unconditional e

theorem leaves_single {cs : List Char} {e : Event} {raw? : Option String} {rest : List Char}
    (suffix : rest <:+ cs) (plain : Unconditional e) : Leaves cs ⟨[e], raw?, rest⟩ :=
  ⟨suffix, fun _ he => List.mem_singleton.1 he ▸ plain⟩

theorem Leaves.trans {cs ds : List Char} {s : Scanned} (h : Leaves cs s) (suffix : cs <:+ ds) :
    Leaves ds s := ⟨h.rest.trans suffix, h.plain⟩

theorem leaves_of_scanStartTag {cs : List Char} {s : Scanned} (h : scanStartTag cs = some s) :
    Leaves cs s := by
  unfold scanStartTag at h
  dsimp only at h
  split at h
  · cases h
  · rename_i rest ended
    have back : rest <:+ cs := by
      refine (suffix_of_tagEnd ended).trans ((List.dropWhile_suffix isBlank).trans ?_)
      refine (rest_attrsFrom_suffix _).trans ?_
      exact (List.dropWhile_suffix _).trans (List.dropWhile_suffix isTagChar)
    split at h
    · cases h
      exact leaves_single back (unconditional_of_none rfl)
    · split at h
      all_goals
        cases h
        exact leaves_single back (unconditional_of_none rfl)

theorem suffix_of_plainEndTag? {cs name rest : List Char}
    (h : plainEndTag? cs = some (name, rest)) : rest <:+ cs := by
  unfold plainEndTag? at h
  dsimp only at h
  split at h
  · split at h
    · obtain ⟨rest', closed, same⟩ := Option.map_eq_some_iff.1 h
      cases same
      refine (consumes_closeChar '>' _ _ closed).trans ((List.dropWhile_suffix isBlank).trans ?_)
      exact (List.dropWhile_suffix _).trans (List.dropWhile_suffix isBlank)
    · cases h
  · cases h

theorem leaves_of_scanEndTag {raw? : Option String} {cs : List Char} {s : Scanned}
    (h : scanEndTag raw? cs = some s) : Leaves cs s := by
  unfold scanEndTag at h
  split at h
  · cases h
  · rename_i inside from_ rest cut
    have behind := ((consumes_closeChar '>').cutAt cut).2
    dsimp only at h
    split at h
    · rename_i name rest' plain
      have after := suffix_of_plainEndTag? plain
      split at h
      · split at h
        · cases h
          exact leaves_single after (unconditional_of_none rfl)
        · cases h
          exact leaves_single behind (unconditional_of_none rfl)
      · cases h
        exact leaves_single after (unconditional_of_none rfl)
    · split at h
      · cases h
        exact leaves_single behind (unconditional_of_none rfl)
      · split at h
        · obtain ⟨⟨_, _, after⟩, cut', rfl⟩ := Option.map_eq_some_iff.1 h
          refine leaves_single (((consumes_closeChar '>').cutAt cut').2.trans ?_)
            (unconditional_of_none rfl)
          exact (rest_skipGap_suffix _ _).trans (List.dropWhile_suffix _)
        · split at h
          · cases h
            exact ⟨behind, fun _ he => absurd he List.not_mem_nil⟩
          · cases h
            exact leaves_single behind (unconditional_of_none rfl)
      · cases h

theorem leaves_of_scanToBracket {event : String → Event} {cs : List Char} {s : Scanned}
    (plain : ∀ data, Unconditional (event data))
    (h : scanToBracket event cs = some s) : Leaves cs s := by
  obtain ⟨⟨_, _, rest⟩, cut, rfl⟩ := Option.map_eq_some_iff.1 h
  exact leaves_single ((consumes_closeChar '>').cutAt cut).2 (plain _)

theorem leaves_of_scanDeclaration {cs : List Char} {s : Scanned}
    (h : scanDeclaration cs = .ok (some s)) (noSection : cs.head? ≠ some '[') : Leaves cs s := by
  have sound := reports_of_scanDeclaration h
  unfold scanDeclaration at h
  split at h
  · rename_i body
    obtain ⟨⟨_, _, rest⟩, cut, rfl⟩ := Option.map_eq_some_iff.1 (Except.ok.inj h)
    exact leaves_single ((consumes_closeComment.cutAt cut).2.trans ⟨['-', '-'], rfl⟩)
      (unconditional_of_none rfl)
  · exact absurd rfl noSection
  · split at h
    · obtain ⟨⟨_, _, rest⟩, cut, rfl⟩ := Option.map_eq_some_iff.1 (Except.ok.inj h)
      obtain - | ⟨doctype, -⟩ := sound
      refine leaves_single (((consumes_closeChar '>').cutAt cut).2.trans (List.drop_suffix 7 cs))
        fun data shown => ?_
      obtain rfl := Option.some.inj shown
      exact isConditional_declaration doctype
    · exact leaves_of_scanToBracket (fun _ => unconditional_of_none rfl) (Except.ok.inj h)

/-- What a construct leaves to read is the end of the text it was read from. -/
theorem leaves_of_scanConstruct {raw? : Option String} {cs : List Char} {s : Scanned}
    (h : scanConstruct raw? cs = .ok (some s)) (noSection : ¬ ['!', '['] <+: cs) : Leaves cs s := by
  unfold scanConstruct at h
  split at h
  · cases h
  · exact (leaves_of_scanEndTag (Except.ok.inj h)).trans (List.suffix_cons '/' _)
  · rename_i body
    refine (leaves_of_scanDeclaration h fun first => noSection ?_).trans (List.suffix_cons '!' _)
    obtain ⟨tail, rfl⟩ := List.head?_eq_some_iff.1 first
    exact ⟨tail, rfl⟩
  · refine (leaves_of_scanToBracket (fun data => ?_) (Except.ok.inj h)).trans
      (List.suffix_cons '?' _)
    intro _ shown
    obtain rfl := Option.some.inj shown
    simp [isConditional, String.toList_append]
  · split at h
    · exact leaves_of_scanStartTag (Except.ok.inj h)
    · cases h
      exact leaves_single List.suffix_rfl (unconditional_of_none rfl)

/-! ### Sources -/

/-- Whether a marked section opens in a text. -/
def OpensSection (cs : List Char) : Prop := ['<', '!', '['] <:+: cs

theorem OpensSection.of_suffix {cs ds : List Char} (h : OpensSection cs) (suffix : cs <:+ ds) :
    OpensSection ds := List.IsInfix.trans h suffix.isInfix

theorem unconditional_dataEvent (raw? : Option String) (cs : List Char) :
    Unconditional (dataEvent raw? cs) := unconditional_of_none rfl

/-- The text before a construct. -/
theorem unconditional_lead (raw? : Option String) (before : List Char) :
    ∀ e ∈ (if before.isEmpty then [] else [dataEvent raw? before]), Unconditional e := by
  split
  · exact fun _ he => absurd he List.not_mem_nil
  · exact fun _ he => List.mem_singleton.1 he ▸ unconditional_dataEvent raw? before

/-- The next construct begins with a bracket, at the end of the text. -/
theorem exists_nextConstruct {raw? : Option String} {cs before from_ : List Char}
    (h : nextConstruct raw? cs = some (before, from_)) :
    ∃ body, from_ = '<' :: body ∧ from_ <:+ cs := by
  unfold nextConstruct at h
  split at h
  · rename_i tag
    obtain ⟨⟨before, from_, after⟩, cut, same⟩ := Option.map_eq_some_iff.1 h
    cases same
    obtain ⟨rfl, hit, -⟩ := cutAt_eq_some cut
    unfold closeRaw at hit
    split at hit
    · exact ⟨_, rfl, List.suffix_append _ _⟩
    · cases hit
  · obtain ⟨⟨before, from_, after⟩, cut, same⟩ := Option.map_eq_some_iff.1 h
    cases same
    obtain ⟨rfl, hit, -⟩ := cutAt_eq_some cut
    exact ⟨after, closeChar_eq_some hit, List.suffix_append _ _⟩

theorem leaves_of_nextConstruct {raw? raw?' : Option String} {cs before from_ : List Char}
    (next : nextConstruct raw? cs = some (before, from_)) {s : Scanned}
    (reads : scanConstruct raw?' (from_.drop 1) = .ok (some s)) (closed : ¬ OpensSection cs) :
    Leaves cs s := by
  obtain ⟨body, rfl, suffix⟩ := exists_nextConstruct next
  have inside : body <:+ cs := (List.suffix_cons '<' body).trans suffix
  refine (leaves_of_scanConstruct reads fun opens => closed ?_).trans inside
  obtain ⟨tail, rfl⟩ := opens
  exact OpensSection.of_suffix ⟨[], tail, rfl⟩ suffix

/-- Where no marked section opens, none is reported and none is left. -/
theorem unconditional_of_scan {final : Bool} {raw? : Option String} {cs : List Char} :
    ∀ {es : List Event} {state : Scanner}, scan final raw? cs = .ok (es, state) →
      ¬ OpensSection cs → (∀ e ∈ es, Unconditional e) ∧ ¬ OpensSection state.pending := by
  have nothing : ¬ OpensSection [] := by simp [OpensSection]
  fun_induction scan final raw? cs with
  | case1 =>
    rintro _ _ ⟨⟩ closed
    exact ⟨fun _ he => absurd he List.not_mem_nil, nothing⟩
  | case2 | case3 =>
    rintro _ _ ⟨⟩ closed
    exact ⟨fun _ he => absurd he List.not_mem_nil, closed⟩
  | case4 =>
    rintro _ _ ⟨⟩ closed
    exact ⟨fun _ he => List.mem_singleton.1 he ▸ unconditional_dataEvent _ _, nothing⟩
  | case5 | case6 | case9 =>
    intro _ _ h
    cases h
  | case7 =>
    rename_i next _ _ _ reads _ _ _ rest ih
    rintro _ _ ⟨⟩ closed
    have leaves := leaves_of_nextConstruct next reads closed
    obtain ⟨more, left⟩ := ih rest fun opens => closed (OpensSection.of_suffix opens leaves.rest)
    refine ⟨List.forall_mem_append.2 ⟨List.forall_mem_append.2 ⟨?_, leaves.plain⟩, more⟩, left⟩
    exact unconditional_lead _ _
  | case8 =>
    rename_i next _ _ _ reads _
    rintro _ _ ⟨⟩ closed
    have leaves := leaves_of_nextConstruct next reads closed
    exact ⟨List.forall_mem_append.2 ⟨unconditional_lead _ _, leaves.plain⟩, nothing⟩
  | case10 =>
    rename_i next _ _ reads _ _ _ _ _ _ rest ih
    rintro _ _ ⟨⟩ closed
    obtain ⟨body, rfl, suffix⟩ := exists_nextConstruct next
    have inside : body <:+ _ := (List.suffix_cons '<' body).trans suffix
    obtain ⟨more, left⟩ := ih rest fun opens =>
      closed (OpensSection.of_suffix opens ((List.drop_suffix _ body).trans inside))
    refine ⟨List.forall_mem_append.2 ⟨unconditional_lead _ _, ?_⟩, left⟩
    exact List.forall_mem_cons.2 ⟨unconditional_dataEvent _ _, more⟩
  | case11 =>
    rintro _ _ ⟨⟩ closed
    exact ⟨unconditional_lead _ _, nothing⟩
  | case12 =>
    rename_i next _ _ _ _
    rintro _ _ ⟨⟩ closed
    obtain ⟨body, rfl, suffix⟩ := exists_nextConstruct next
    exact ⟨unconditional_lead _ _, fun opens => closed (OpensSection.of_suffix opens suffix)⟩

theorem unconditional_of_readAll {cs : List Char} {es : List Event}
    (h : readAll none cs = .ok es) (closed : ¬ OpensSection cs) : ∀ e ∈ es, Unconditional e := by
  rw [readAll] at h
  cases first : scan false none cs with
  | error e => simp [first] at h
  | ok out =>
    obtain ⟨reported, state⟩ := out
    obtain ⟨plain, closed'⟩ := unconditional_of_scan first closed
    simp only [first] at h
    cases second : scan true state.raw? state.pending with
    | error e => simp [second] at h
    | ok out =>
      obtain ⟨more, state'⟩ := out
      simp only [second, Except.ok.injEq] at h
      exact h ▸ List.forall_mem_append.2 ⟨plain, (unconditional_of_scan second closed').1⟩

theorem built_plain :
    Built (fun data => isConditional data = false) (Every fun n => isConditionalNode n = false) where
  nil := every_nil
  reverse h := h.subset fun _ => List.mem_reverse.1
  element _ _ inside h := every_cons_iff.2 ⟨every_element_iff.2 ⟨rfl, inside⟩, h⟩
  comment _ h := every_cons_iff.2 ⟨every_leaf rfl rfl, h⟩
  directive plain h := every_cons_iff.2 ⟨every_leaf rfl plain, h⟩
  text _ _ h := every_cons_iff.2 ⟨every_leaf rfl rfl, h⟩
  longer _ h := every_cons_iff.2 ⟨every_leaf rfl rfl, (every_cons_iff.1 h).2⟩

/-- In the tree of a source in which no marked section opens there is no conditional one. -/
theorem plain_of_parse {source : String} {t : List Node} (h : parse source = .ok t)
    (closed : ¬ OpensSection source.toList) : Every (fun n => isConditionalNode n = false) t := by
  rw [parse_eq_readAll] at h
  cases reads : readAll none source.toList with
  | error e => simp [reads, Except.map] at h
  | ok events =>
    simp only [reads, Except.map, Except.ok.injEq] at h
    exact h ▸ built_plain.tree (unconditional_of_readAll reads closed)

end HtmlTemplate.Markup
