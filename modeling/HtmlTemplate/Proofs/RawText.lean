import HtmlTemplate.Proofs.WrittenTags

/-!
# Text of raw text elements

Inside `script` and `style` only the end tag of the element counts (`isEndOf`). The scanner looks
for it up to letter case in the widest sense and then reads its name by a narrower one, so that some
of the places it stops at are text after all (`scanEndTag_raw`). A text that holds no end
tag of its element is text throughout, and then the end tag that is written behind it is the first
one (`holdsEnd`, `cutAt_closeRaw_append`).
-/

namespace HtmlTemplate.Markup

open HtmlTemplate.Text

/-! ### The tags -/

theorem isRawText_cases {tag : String} (raw : isRawText tag = true) :
    tag = "script" ∨ tag = "style" := by
  simpa [isRawText, rawTextTags] using raw

theorem isTagName_of_isRawText {tag : String} (raw : isRawText tag = true) :
    isTagName tag = true := by
  rcases isRawText_cases raw with rfl | rfl <;> decide

theorem isRawText_of_isVoid {tag : String} (h : isVoid tag = true) : isRawText tag = false := by
  have : ∀ tag ∈ voidTags, isRawText tag = false := by decide
  exact this tag (List.contains_iff_mem.1 h)

theorem sameLetter_bracket {tag : String} (raw : isRawText tag = true) :
    ∀ w ∈ tag.toList, sameLetter w '<' = false ∧ sameLetter w '>' = false := by
  have apart : (tag.toList.all fun w => !sameLetter w '<' && !sameLetter w '>') = true := by
    rcases isRawText_cases raw with rfl | rfl <;> decide +kernel
  simpa using apart

/-! ### End tags inside raw text -/

/-- Whether a text begins with the end tag of a raw text element. -/
def isEndOf (tag : String) : List Char → Bool
  | '<' :: '/' :: cs =>
    match plainEndTag? cs with
    | some (name, _) => lowercase (String.ofList name) == tag
    | none => false
  | _ => false

/-- Whether a text holds the end tag of a raw text element. -/
def holdsEnd (tag : String) (cs : List Char) : Bool := cs.tails.any (isEndOf tag)

theorem holdsEnd_eq_false_iff {tag : String} {cs : List Char} :
    holdsEnd tag cs = false ↔ ∀ left, left <:+ cs → isEndOf tag left = false := by
  simp [holdsEnd]

/-- The name in an end tag, and the text after it, in the order in which they are looked for. -/
theorem plainEndTag?_eq_some_iff {cs name after : List Char} :
    plainEndTag? cs = some (name, after) ↔
      (∃ c rest, cs.dropWhile isBlank = c :: rest ∧ c.isAlpha = true) ∧
        (cs.dropWhile isBlank).takeWhile isEndTagChar = name ∧
        closeChar '>' (((cs.dropWhile isBlank).dropWhile isEndTagChar).dropWhile isBlank) =
          some after := by
  unfold plainEndTag?
  dsimp only
  split
  · rename_i c rest first
    rw [first]
    split
    · rename_i alpha
      simp only [Option.map_eq_some_iff, Prod.mk.injEq]
      constructor
      · rintro ⟨_, close, rfl, rfl⟩
        exact ⟨⟨c, rest, rfl, alpha⟩, rfl, close⟩
      · rintro ⟨-, taken, close⟩
        exact ⟨after, close, taken, rfl⟩
    · rename_i noAlpha
      simp only [reduceCtorEq, List.cons.injEq, false_iff, not_and]
      rintro ⟨_, _, ⟨rfl, rfl⟩, alpha⟩
      exact absurd alpha noAlpha
  · rename_i none
    simp [none]

theorem plainEndTag?_append {cs name after : List Char} (h : plainEndTag? cs = some (name, after))
    (rest : List Char) : plainEndTag? (cs ++ rest) = some (name, after ++ rest) := by
  obtain ⟨⟨c, body, first, alpha⟩, taken, close⟩ := plainEndTag?_eq_some_iff.1 h
  have goesOn : (cs ++ rest).dropWhile isBlank = cs.dropWhile isBlank ++ rest := by
    rw [List.dropWhile_append, if_neg (by simp [first])]
  have stops : (cs.dropWhile isBlank).dropWhile isEndTagChar ≠ [] := by
    intro none
    rw [none] at close
    cases close
  refine plainEndTag?_eq_some_iff.2 ⟨⟨c, body ++ rest, by rw [goesOn, first]; rfl, alpha⟩, ?_, ?_⟩
  · rw [goesOn, List.takeWhile_append, if_neg, taken]
    intro whole
    have front : (cs.dropWhile isBlank).takeWhile isEndTagChar <+: cs.dropWhile isBlank :=
      List.takeWhile_prefix isEndTagChar
    exact stops (List.dropWhile_eq_nil_iff.2
      (List.takeWhile_eq_self_iff.1 (front.eq_of_length whole)))
  · rw [goesOn, List.dropWhile_append, if_neg (by simpa using stops)]
    exact ((extends_closeChar '>').skip rfl isBlank).append rest close

/-- The name in an end tag depends on nothing from the next opening bracket on. -/
theorem plainEndTag?_bracket {cs : List Char} (h : plainEndTag? cs = none) (rest : List Char) :
    plainEndTag? (cs ++ '<' :: rest) = none := by
  cases found : plainEndTag? (cs ++ '<' :: rest) with
  | none => rfl
  | some end_ =>
    obtain ⟨name, after⟩ := end_
    obtain ⟨⟨c, body, first, alpha⟩, taken, close⟩ := plainEndTag?_eq_some_iff.1 found
    have noBlank : isBlank '<' = false := by decide
    have noEndChar : isEndTagChar '<' = false := by decide
    have goesOn := dropWhile_append_cons noBlank cs rest
    have named := dropWhile_append_cons noEndChar (cs.dropWhile isBlank) rest
    have ends := (endsBefore_closeChar (show '<' ≠ '>' by decide)).skip noBlank
    rw [goesOn, named, ends.append] at close
    obtain ⟨after', close', -⟩ := Option.map_eq_some_iff.1 close
    have nonempty : cs.dropWhile isBlank ≠ [] := by
      intro none
      rw [goesOn, none, List.nil_append, List.cons.injEq] at first
      rw [← first.1] at alpha
      revert alpha
      decide
    obtain ⟨d, ds, first'⟩ := List.exists_cons_of_ne_nil nonempty
    rw [goesOn, first', List.cons_append, List.cons.injEq] at first
    have : plainEndTag? cs = some (_, after') :=
      plainEndTag?_eq_some_iff.2 ⟨⟨d, ds, first', first.1 ▸ alpha⟩, rfl, close'⟩
    rw [h] at this
    cases this

theorem isEndOf_of_ne {tag : String} {c d : Char} (h : ¬ (c = '<' ∧ d = '/')) (cs : List Char) :
    isEndOf tag (c :: d :: cs) = false := by
  unfold isEndOf
  split
  · rename_i same
    simp only [List.cons.injEq] at same
    exact absurd ⟨same.1, same.2.1⟩ h
  · rfl

theorem isEndOf_of_first_ne {tag : String} {c : Char} (h : c ≠ '<') (cs : List Char) :
    isEndOf tag (c :: cs) = false := by
  cases cs with
  | nil => simp [isEndOf]
  | cons d cs => exact isEndOf_of_ne (fun opens => h opens.1) cs

theorem isEndOf_append {tag : String} {cs : List Char} (h : isEndOf tag cs = true)
    (rest : List Char) : isEndOf tag (cs ++ rest) = true := by
  unfold isEndOf at h
  split at h
  · rename_i body
    split at h
    · rename_i name after named
      simp only [List.cons_append, isEndOf, plainEndTag?_append named rest]
      exact h
    · cases h
  · cases h

/-- What begins with no end tag does not come to begin with one when a bracket follows. -/
theorem isEndOf_bracket {tag : String} {cs : List Char} (nonempty : cs ≠ [])
    (h : isEndOf tag cs = false) (rest : List Char) : isEndOf tag (cs ++ '<' :: rest) = false := by
  match cs, h with
  | [c], _ => exact isEndOf_of_ne (by simp) rest
  | c :: d :: cs, h =>
    by_cases opens : c = '<' ∧ d = '/'
    · obtain ⟨rfl, rfl⟩ := opens
      simp only [List.cons_append, isEndOf] at h ⊢
      cases named : plainEndTag? cs with
      | none => rw [plainEndTag?_bracket named]
      | some end_ =>
        rw [named] at h
        rw [plainEndTag?_append named]
        exact h
    · exact isEndOf_of_ne opens _

/-! ### Places where raw text may end -/

/-- An end tag with a plain name ends at the first bracket. -/
theorem plainEndTag?_eq_some {cs name after : List Char}
    (h : plainEndTag? cs = some (name, after)) :
    ∃ inside, cs = inside ++ '>' :: after ∧ '>' ∉ inside := by
  obtain ⟨-, -, close⟩ := plainEndTag?_eq_some_iff.1 h
  have ends : isEndTagChar '>' = false := by decide
  generalize hbody : cs.dropWhile isBlank = body at close
  generalize htail : body.dropWhile isEndTagChar = tail at close
  refine ⟨cs.takeWhile isBlank ++ (body.takeWhile isEndTagChar ++ tail.takeWhile isBlank), ?_, ?_⟩
  · rw [← closeChar_eq_some close, List.append_assoc, List.append_assoc,
      List.takeWhile_append_dropWhile, ← htail, List.takeWhile_append_dropWhile, ← hbody,
      List.takeWhile_append_dropWhile]
  · simp only [List.mem_append, not_or]
    exact ⟨not_mem_takeWhile isBlank_bracket cs, not_mem_takeWhile ends body,
      not_mem_takeWhile isBlank_bracket tail⟩

theorem closeWord_eq_some {word : List Char} : ∀ {cs after : List Char},
    closeWord word cs = some after →
      ∃ shown, cs = shown ++ after ∧ ∀ c ∈ shown, ∃ w ∈ word, sameLetter w c = true := by
  induction word with
  | nil =>
    intro cs after h
    cases h
    exact ⟨[], rfl, fun c hc => absurd hc List.not_mem_nil⟩
  | cons w ws ih =>
    intro cs after h
    cases cs with
    | nil => cases h
    | cons c cs =>
      rw [closeWord] at h
      split at h
      · rename_i same
        obtain ⟨shown, rfl, letters⟩ := ih h
        refine ⟨c :: shown, rfl, fun d hd => ?_⟩
        rcases List.mem_cons.1 hd with rfl | hd
        · exact ⟨w, List.mem_cons_self, same⟩
        · obtain ⟨v, hv, same'⟩ := letters d hd
          exact ⟨v, List.mem_cons_of_mem w hv, same'⟩
      · cases h

/-- A place where the scanner stops in raw text is the end tag, or text up to its bracket. -/
theorem scanEndTag_raw {tag : String} {inside after : List Char} (h : '>' ∉ inside) :
    scanEndTag (some tag) (inside ++ '>' :: after) = some
      (if isEndOf tag ('<' :: '/' :: (inside ++ '>' :: after)) then ⟨[.endTag tag], none, after⟩
        else ⟨[.data (String.ofList ('<' :: '/' :: inside ++ ['>']))], some tag, after⟩) := by
  unfold scanEndTag
  simp only [cutAt_closeChar h, isEndOf]
  cases named : plainEndTag? (inside ++ '>' :: after) with
  | none => simp
  | some end_ =>
    obtain ⟨name, after'⟩ := end_
    obtain ⟨inside', split, apart⟩ := plainEndTag?_eq_some named
    have same : after' = after := by
      have cut := cutAt_closeChar apart after'
      rw [← split, cutAt_closeChar h] at cut
      cases cut
      rfl
    subst same
    dsimp only
    by_cases closes : lowercase (String.ofList name) = tag
    · simp [closes]
    · simp [closes]

theorem closeRaw_of_ne {tag : String} {c d : Char} (h : ¬ (c = '<' ∧ d = '/')) (cs : List Char) :
    closeRaw tag (c :: d :: cs) = none := by
  unfold closeRaw
  split
  · rename_i same
    simp only [List.cons.injEq] at same
    exact absurd ⟨same.1, same.2.1⟩ h
  · rfl

theorem closeWord_append (word rest : List Char) : closeWord word (word ++ rest) = some rest := by
  induction word with
  | nil => rfl
  | cons w ws ih => simp [closeWord, sameLetter, ih]

section RawTags

variable {tag : String} (raw : isRawText tag = true)

include raw

theorem extends_closeRaw_of_isRawText : Extends (closeRaw tag) :=
  extends_closeRaw fun h => by
    subst h
    revert raw
    decide

/-- Where the scanner stops in raw text there are brackets at both ends and none between them. -/
theorem closeRaw_eq_some {cs after : List Char} (h : closeRaw tag cs = some after) :
    ∃ inside, cs = '<' :: '/' :: (inside ++ '>' :: after) ∧ '<' ∉ inside ∧ '>' ∉ inside := by
  unfold closeRaw at h
  split at h
  · rename_i body
    obtain ⟨mid, word, close⟩ := Option.bind_eq_some_iff.1 h
    obtain ⟨shown, split, letters⟩ := closeWord_eq_some word
    have opens : isBlank '<' = false := by decide
    have apart (c : Char) (hc : ∀ w ∈ tag.toList, sameLetter w c = false) : c ∉ shown := by
      intro mem
      obtain ⟨w, hw, same⟩ := letters c mem
      rw [hc w hw] at same
      cases same
    refine ⟨body.takeWhile isBlank ++ (shown ++ mid.takeWhile isBlank), ?_, ?_, ?_⟩
    · rw [← closeChar_eq_some close, List.append_assoc, List.append_assoc,
        List.takeWhile_append_dropWhile, ← split, List.takeWhile_append_dropWhile]
    · simp only [List.mem_append, not_or]
      exact ⟨not_mem_takeWhile opens body, apart '<' fun w hw => (sameLetter_bracket raw w hw).1,
        not_mem_takeWhile opens mid⟩
    · simp only [List.mem_append, not_or]
      exact ⟨not_mem_takeWhile isBlank_bracket body,
        apart '>' fun w hw => (sameLetter_bracket raw w hw).2,
        not_mem_takeWhile isBlank_bracket mid⟩
  · cases h

theorem closeRaw_bracket {cs : List Char} (nonempty : cs ≠ []) (h : closeRaw tag cs = none)
    (rest : List Char) : closeRaw tag (cs ++ '<' :: rest) = none := by
  have ends : EndsBefore (fun cs => (closeWord tag.toList (cs.dropWhile isBlank)).bind fun cs' =>
      closeChar '>' (cs'.dropWhile isBlank)) '<' := by
    have word := endsBefore_closeWord fun w hw => (sameLetter_bracket raw w hw).1
    exact (word.skip (by decide)).bind ((endsBefore_closeChar (by decide)).skip (by decide))
  match cs, h with
  | [c], _ => exact closeRaw_of_ne (by simp) rest
  | c :: d :: cs, h =>
    by_cases opens : c = '<' ∧ d = '/'
    · obtain ⟨rfl, rfl⟩ := opens
      calc closeRaw tag ('<' :: '/' :: (cs ++ '<' :: rest))
        _ = (closeRaw tag ('<' :: '/' :: cs)).map (· ++ '<' :: rest) := ends.append cs rest
        _ = none := by rw [h, Option.map_none]
    · exact closeRaw_of_ne opens _

theorem closeRaw_endTag (rest : List Char) :
    closeRaw tag ((endTag tag).toList ++ rest) = some rest := by
  have htag := readableTag_of_isTagName (isTagName_of_isRawText raw)
  rw [toList_endTag]
  simp only [List.cons_append, List.append_assoc, List.nil_append, closeRaw,
    htag.dropWhile_isBlank, closeWord_append]
  simp [closeChar]

end RawTags

theorem toNat_lt_of_isEndTagChar {c : Char} (h : isEndTagChar c = true) : c.toNat < 128 := by
  simp only [isEndTagChar, Char.isAlphanum, Bool.or_eq_true, beq_iff_eq] at h
  rcases h with ((((alpha | digit) | rfl) | rfl) | rfl) | rfl
  · exact toNat_lt_of_isAlpha alpha
  · exact Nat.lt_of_le_of_lt (show c.toNat ≤ '9'.toNat from
      of_decide_eq_true (Bool.and_eq_true_iff.1 digit).2) (by decide)
  all_goals decide

theorem closeWord_lowercase {name : List Char} (h : ∀ c ∈ name, isEndTagChar c = true)
    (rest : List Char) :
    ∀ before, closeWord (lowercaseAfter before name) (name ++ rest) = some rest := by
  induction name with
  | nil => exact fun before => rfl
  | cons c cs ih =>
    intro before
    have table : ∀ n : Fin 128, lowerForm (Char.ofNat n) = [(Char.ofNat n).toLower] ∧
        ((Char.ofNat n).toNat == 0x3a3) = false ∧
        sameLetter (Char.ofNat n).toLower (Char.ofNat n) = true := by
      decide +kernel
    obtain ⟨n, shown⟩ := exists_fin_of_ascii (toNat_lt_of_isEndTagChar (h c List.mem_cons_self))
    obtain ⟨form, sigma, same⟩ := shown ▸ table n
    rw [lowercaseAfter, smallForm, sigma, if_neg Bool.false_ne_true, form, List.singleton_append,
      List.cons_append, closeWord, if_pos same]
    exact ih (fun d hd => h d (List.mem_cons_of_mem c hd)) _

/-- The end tag of a raw text element is one of the places where the scanner stops. -/
theorem closeRaw_of_isEndOf {tag : String} {cs : List Char} (h : isEndOf tag cs = true) :
    ∃ after, closeRaw tag cs = some after := by
  unfold isEndOf at h
  split at h
  · rename_i body
    split at h
    · rename_i name after named
      obtain ⟨-, taken, close⟩ := plainEndTag?_eq_some_iff.1 named
      have chars : ∀ c ∈ name, isEndTagChar c = true := fun c hc =>
        List.mem_takeWhile_imp (taken ▸ hc)
      have word := closeWord_lowercase chars ((body.dropWhile isBlank).dropWhile isEndTagChar) []
      rw [← taken, List.takeWhile_append_dropWhile, taken] at word
      have letters : tag.toList = lowercaseAfter [] name := by
        rw [← beq_iff_eq.1 h, lowercase, String.toList_ofList, String.toList_ofList]
      refine ⟨after, ?_⟩
      simp only [closeRaw, letters, word, Option.bind_some, close]
    · cases h
  · cases h

theorem isEndOf_of_closeRaw_eq_none {tag : String} {cs : List Char} (h : closeRaw tag cs = none) :
    isEndOf tag cs = false := by
  refine Bool.eq_false_iff.2 fun ends => ?_
  obtain ⟨after, found⟩ := closeRaw_of_isEndOf ends
  rw [h] at found
  cases found

/-! ### Cuts of raw text -/

section Cuts

variable {tag : String} (raw : isRawText tag = true)

include raw

/-- Behind a text in which the scanner does not stop, it stops at the end tag. -/
theorem cutAt_closeRaw_of_none {data : List Char} (clear : cutAt (closeRaw tag) data = none)
    (rest : List Char) :
    cutAt (closeRaw tag) (data ++ ((endTag tag).toList ++ rest)) =
      some (data, (endTag tag).toList ++ rest, rest) := by
  refine cutAt_of_none clear (fun left nonempty miss => ?_) (closeRaw_endTag raw rest)
  rw [toList_endTag]
  exact closeRaw_bracket raw nonempty miss _

/-- At the end tag that is written for the element the scanner leaves the raw text. -/
theorem isEndOf_endTag (rest : List Char) : isEndOf tag ((endTag tag).toList ++ rest) = true := by
  have name := isTagName_of_isRawText raw
  have htag := readableTag_of_isTagName name
  have plain := (plainChars_of_isAttrName (isAttrName_of_isTagName name)).1
  have all : tag.toList.dropWhile isEndTagChar = [] :=
    List.dropWhile_eq_nil_iff.2 fun c hc => (plain c hc).endTag
  have taken : tag.toList.takeWhile isEndTagChar = tag.toList :=
    List.takeWhile_eq_self_iff.2 fun c hc => (plain c hc).endTag
  simp [toList_endTag, isEndOf, plainEndTag?_written htag, all, taken, htag.small]

theorem scanEndTag_endTag (rest : List Char) :
    scanEndTag (some tag) (tag.toList ++ '>' :: rest) = some ⟨[.endTag tag], none, rest⟩ := by
  have ends := isEndOf_endTag raw rest
  rw [toList_endTag, List.cons_append, List.cons_append, List.append_assoc] at ends
  rw [scanEndTag_raw (readableTag_of_isTagName (isTagName_of_isRawText raw)).noBracket, if_pos]
  exact ends

/-- The first place where the scanner stops is the same when an end tag is written behind a text. -/
theorem cutAt_closeRaw_of_some {data before from_ after : List Char}
    (cut : cutAt (closeRaw tag) data = some (before, from_, after)) (rest : List Char) :
    cutAt (closeRaw tag) (data ++ ((endTag tag).toList ++ rest)) =
      some (before, from_ ++ ((endTag tag).toList ++ rest),
        after ++ ((endTag tag).toList ++ rest)) := by
  obtain ⟨split, hit, misses⟩ := cutAt_eq_some cut
  rw [split, List.append_assoc]
  refine cutAt_append (fun gone left parts nonempty => ?_)
    ((extends_closeRaw_of_isRawText raw).append _ hit)
  rw [← List.append_assoc, toList_endTag]
  exact closeRaw_bracket raw (by simp [nonempty]) (misses gone left parts nonempty) _

end Cuts

/-- The scanner does not stop where no end tag begins at all. -/
theorem cutAt_closeRaw_eq_none {tag : String} {data : List Char}
    (h : ¬ ['<', '/'] <:+: data) : cutAt (closeRaw tag) data = none := by
  refine cutAt_eq_none_iff.2 fun left ⟨gone, part⟩ => ?_
  match left with
  | [] => rfl
  | [c] => simp [closeRaw]
  | c :: d :: cs =>
    refine closeRaw_of_ne (fun opens => ?_) cs
    obtain ⟨rfl, rfl⟩ := opens
    exact h ⟨gone, cs, by simp [← part]⟩

end HtmlTemplate.Markup
