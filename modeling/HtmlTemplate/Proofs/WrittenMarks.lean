import HtmlTemplate.Proofs.Cuts
import HtmlTemplate.Proofs.WrittenText

/-!
# Written comments and directives

A comment is read back when nothing in its data ends a comment (`scanDeclaration_comment`), and so
are a document type (`scanDeclaration_doctype`) and an instruction (`scanToBracket_written`) whose
data hold no bracket. Marked sections are written with two closing brackets. That is how those with
character data end (`scanSection_plain`); a conditional section ends at one bracket, so that the
other one is read as the last character of its text (`scanSection_conditional`).
-/

namespace HtmlTemplate.Markup

open HtmlTemplate.Text

/-! ### Comments -/

theorem closeComment_of_ne {c d : Char} (h : ¬ (c = '-' ∧ d = '-')) (cs : List Char) :
    closeComment (c :: d :: cs) = none := by
  unfold closeComment
  split
  · rename_i same
    simp only [List.cons.injEq] at same
    exact absurd ⟨same.1, same.2.1⟩ h
  · rfl

/-- Two hyphens and a bracket end a comment; with something before them they do so no earlier. -/
theorem closeComment_append {cs : List Char} (nonempty : cs ≠ []) (h : closeComment cs = none)
    (rest : List Char) : closeComment (cs ++ '-' :: '-' :: '>' :: rest) = none := by
  have ends := (endsBefore_closeChar (show '-' ≠ '>' by decide)).skip (p := isBlank) (by decide)
  match cs, h with
  | [c], _ =>
    by_cases hyphen : c = '-'
    · subst hyphen
      exact ends.append [] ('>' :: rest)
    · exact closeComment_of_ne (by simp [hyphen]) _
  | c :: d :: cs, h =>
    by_cases hyphens : c = '-' ∧ d = '-'
    · obtain ⟨rfl, rfl⟩ := hyphens
      calc closeComment ('-' :: '-' :: (cs ++ '-' :: '-' :: '>' :: rest))
        _ = (closeComment ('-' :: '-' :: cs)).map (· ++ '-' :: '-' :: '>' :: rest) :=
          ends.append cs ('-' :: '>' :: rest)
        _ = none := by rw [h, Option.map_none]
    · exact closeComment_of_ne hyphens _

/-- Data that hold no bracket end no comment. -/
theorem cutAt_closeComment_of_noBracket {data : List Char} (h : '>' ∉ data) :
    cutAt closeComment data = none := by
  refine cutAt_eq_none_iff.2 fun left part => ?_
  unfold closeComment
  split
  · rename_i cs
    cases close : closeChar '>' (cs.dropWhile isBlank) with
    | none => rfl
    | some after =>
      have mem : '>' ∈ cs.dropWhile isBlank := by
        rw [closeChar_eq_some close]
        exact List.mem_cons_self
      have inside := (List.dropWhile_suffix isBlank).subset mem
      exact absurd (part.subset (by simp [inside])) h
  · rfl

/-- A written comment is read back when nothing in its data ends a comment. -/
theorem scanDeclaration_comment {data : List Char} (h : cutAt closeComment data = none)
    (rest : List Char) :
    scanDeclaration ('-' :: '-' :: (data ++ '-' :: '-' :: '>' :: rest)) =
      .ok (some ⟨[.comment (String.ofList data)], none, rest⟩) := by
  have hit : closeComment ('-' :: '-' :: '>' :: rest) = some rest := by
    simp [closeComment, closeChar]
  have cut := cutAt_of_none h (fun left nonempty miss => closeComment_append nonempty miss rest) hit
  simp [scanDeclaration, cut]

/-! ### Document types and instructions -/

/-- Texts of document types: the word in any letter case and what follows it, without a bracket. -/
structure Doctype (data : List Char) : Prop where
  word : lowercase (String.ofList (data.take 7)) = "doctype"
  long : 7 ≤ data.length
  noBracket : '>' ∉ data

theorem Doctype.first_eq {c : Char} {cs : List Char} (h : Doctype (c :: cs)) (settled : Settled c) :
    c = 'd' := by
  have letters : (lowercase (String.ofList ((c :: cs).take 7))).toList = "doctype".toList := by
    rw [h.word]
  rw [lowercase, String.toList_ofList, String.toList_ofList, List.take_succ_cons, lowercaseAfter,
    smallForm, settled.sigma, if_neg Bool.false_ne_true, settled.small] at letters
  exact (List.cons.inj letters).1

/-- A document type begins with no mark of another declaration. -/
theorem Doctype.append_ne {data : List Char} (h : Doctype data) {c : Char} (settled : Settled c)
    (other : c ≠ 'd') (tail rest : List Char) : data ++ tail ≠ c :: rest := by
  intro same
  cases data with
  | nil => exact absurd h.long (by decide)
  | cons d ds =>
    obtain rfl : d = c := (List.cons.inj same).1
    exact other (h.first_eq settled)

theorem scanDeclaration_doctype {data : List Char} (h : Doctype data) (rest : List Char) :
    scanDeclaration (data ++ '>' :: rest) =
      .ok (some ⟨[.declaration (String.ofList data)], none, rest⟩) := by
  have taken : (data ++ '>' :: rest).take 7 = data.take 7 := List.take_append_of_le_length h.long
  have dropped : (data ++ '>' :: rest).drop 7 = data.drop 7 ++ '>' :: rest :=
    List.drop_append_of_le_length h.long
  have apart : '>' ∉ data.drop 7 := fun mem => h.noBracket ((List.drop_suffix 7 data).subset mem)
  unfold scanDeclaration
  split
  · rename_i same
    exact absurd same (h.append_ne ⟨by decide +kernel, by decide⟩ (by decide) _ _)
  · rename_i same
    exact absurd same (h.append_ne ⟨by decide +kernel, by decide⟩ (by decide) _ _)
  · rw [taken, if_pos h.word, dropped, cutAt_closeChar apart]
    simp only [Option.map_some, List.take_append_drop]

theorem scanToBracket_written (event : String → Event) {data : List Char} (h : '>' ∉ data)
    (rest : List Char) :
    scanToBracket event (data ++ '>' :: rest) =
      some ⟨[event (String.ofList data)], none, rest⟩ := by
  simp [scanToBracket, cutAt_closeChar h]

/-! ### Marked sections -/

/-- The kind of a marked section: the word that its text begins with, in small letters. -/
def sectionKind (cs : List Char) : String := lowercase (String.ofList (cs.takeWhile isSectionChar))

/-- Texts of marked sections: they begin with a letter, and nothing in them ends their section. -/
structure SectionText (data : List Char) (close : List Char → Option (List Char)) : Prop where
  first : ∃ c cs, data = c :: cs ∧ c.isAlpha = true
  closes : closeSection? (sectionKind data) = some close
  clear : cutAt close data = none

theorem sectionKind_append_bracket (data rest : List Char) :
    sectionKind (data ++ ']' :: rest) = sectionKind data := by
  rw [sectionKind, takeWhile_append_cons (by decide)]
  rfl

/-- A written section is cut as the kind of its text tells. -/
theorem scanSection_written {data : List Char} {close : List Char → Option (List Char)}
    (h : SectionText data close) (rest : List Char) :
    scanSection (data ++ ']' :: rest) =
      .ok ((cutAt close (data ++ ']' :: rest)).map fun cut =>
        ⟨[.markedSection (String.ofList cut.1)], none, cut.2.2⟩) := by
  obtain ⟨c, cs, rfl, alpha⟩ := h.first
  have kind := h.closes
  rw [← sectionKind_append_bracket _ rest, sectionKind] at kind
  have named : ((c :: cs ++ ']' :: rest).takeWhile isSectionChar).length +
      (((c :: cs ++ ']' :: rest).dropWhile isSectionChar).takeWhile isBlank).length ≠
        (c :: cs ++ ']' :: rest).length := by
    rw [takeWhile_append_cons (by decide), dropWhile_append_cons (by decide),
      takeWhile_append_cons (by decide)]
    have whole := congrArg List.length
      (List.takeWhile_append_dropWhile (p := isSectionChar) (l := c :: cs))
    have blanks := congrArg List.length
      (List.takeWhile_append_dropWhile (p := isBlank) (l := (c :: cs).dropWhile isSectionChar))
    simp only [List.length_append, List.length_cons] at whole blanks ⊢
    omega
  unfold scanSection
  simp only [List.cons_append] at named kind ⊢
  rw [if_pos alpha, if_neg named, kind]

/-- Kinds of sections that end at a single bracket. -/
def isConditionalKind (kind : String) : Bool := ["if", "else", "endif"].contains kind

theorem closeSection?_cases {kind : String} {close : List Char → Option (List Char)}
    (h : closeSection? kind = some close) :
    (isConditionalKind kind = false ∧ close = closeSpaced [']', ']', '>']) ∨
      (isConditionalKind kind = true ∧ close = closeSpaced [']', '>']) := by
  unfold closeSection? at h
  split at h
  · rename_i plain
    have table : ∀ k ∈ ["temp", "cdata", "ignore", "include", "rcdata"],
        isConditionalKind k = false := by decide
    exact .inl ⟨table kind (List.contains_iff_mem.1 plain), (Option.some.inj h).symm⟩
  · split at h
    · exact .inr ⟨‹_›, (Option.some.inj h).symm⟩
    · cases h

@[simp]
theorem closeSpaced_single (c : Char) (cs : List Char) : closeSpaced [c] cs = closeChar c cs := by
  rw [closeSpaced]
  cases closeChar c cs <;> rfl

theorem closeSpaced_cons {c : Char} {marks : List Char} (more : marks ≠ []) (cs : List Char) :
    closeSpaced (c :: marks) (c :: cs) = closeSpaced marks (cs.dropWhile isBlank) := by
  cases marks with
  | nil => exact absurd rfl more
  | cons d marks => simp [closeSpaced, closeChar]

theorem closeSpaced_of_ne {c d : Char} (h : d ≠ c) (marks cs : List Char) :
    closeSpaced (c :: marks) (d :: cs) = none := by
  simp [closeSpaced, closeChar, h]

/-- Behind a closing bracket another one comes before the one that ends the section. -/
theorem closeBracket_append {cs : List Char} (h : closeChar '>' (cs.dropWhile isBlank) = none)
    (rest : List Char) : closeChar '>' ((cs ++ ']' :: rest).dropWhile isBlank) = none := by
  have ends := (endsBefore_closeChar (show ']' ≠ '>' by decide)).skip (p := isBlank) (by decide)
  rw [ends.append, h, Option.map_none]

/-- Texts that end at a single bracket do so no earlier when brackets come behind them. -/
theorem closeSpaced_pair_append {cs : List Char} (h : closeSpaced [']', '>'] cs = none)
    (rest : List Char) :
    closeSpaced [']', '>'] (cs ++ ']' :: ']' :: rest) = none := by
  have more : ['>'] ≠ [] := List.cons_ne_nil _ _
  have blank : isBlank ']' = false := by decide
  cases cs with
  | nil =>
    rw [List.nil_append, closeSpaced_cons more, List.dropWhile_cons_of_neg (by simp [blank]),
      closeSpaced_of_ne (by decide)]
  | cons c cs =>
    by_cases bracket : c = ']'
    · subst bracket
      rw [closeSpaced_cons more, closeSpaced_single] at h
      rw [List.cons_append, closeSpaced_cons more, closeSpaced_single,
        closeBracket_append h (']' :: rest)]
    · exact closeSpaced_of_ne bracket _ _

theorem closeSpaced_triple_append {cs : List Char} (nonempty : cs ≠ [])
    (h : closeSpaced [']', ']', '>'] cs = none) (rest : List Char) :
    closeSpaced [']', ']', '>'] (cs ++ ']' :: ']' :: rest) = none := by
  have more : [']', '>'] ≠ [] := List.cons_ne_nil _ _
  cases cs with
  | nil => exact absurd rfl nonempty
  | cons c cs =>
    by_cases bracket : c = ']'
    · subst bracket
      rw [closeSpaced_cons more] at h
      rw [List.cons_append, closeSpaced_cons more, dropWhile_append_cons (by decide)]
      exact closeSpaced_pair_append h rest
    · exact closeSpaced_of_ne bracket _ _

/-- A section with character data is read back. -/
theorem scanSection_plain {data : List Char}
    (h : SectionText data (closeSpaced [']', ']', '>'])) (rest : List Char) :
    scanSection (data ++ ']' :: ']' :: '>' :: rest) =
      .ok (some ⟨[.markedSection (String.ofList data)], none, rest⟩) := by
  have hit : closeSpaced [']', ']', '>'] (']' :: ']' :: '>' :: rest) = some rest := by
    simp [closeSpaced, closeChar, isBlank]
  have cut := cutAt_of_none h.clear
    (fun left nonempty miss => closeSpaced_triple_append nonempty miss ('>' :: rest)) hit
  rw [scanSection_written h, cut, Option.map_some]

/-- A conditional section is read with a closing bracket behind its text. -/
theorem scanSection_conditional {data : List Char} (h : SectionText data (closeSpaced [']', '>']))
    (rest : List Char) :
    scanSection (data ++ ']' :: ']' :: '>' :: rest) =
      .ok (some ⟨[.markedSection (String.ofList (data ++ [']']))], none, rest⟩) := by
  have hit : closeSpaced [']', '>'] (']' :: '>' :: rest) = some rest := by
    simp [closeSpaced, closeChar, isBlank]
  have cut : cutAt (closeSpaced [']', '>']) ((data ++ [']']) ++ ']' :: '>' :: rest) =
      some (data ++ [']'], ']' :: '>' :: rest, rest) := by
    refine cutAt_append (fun gone left split nonempty => ?_) hit
    -- What is left before the cut is a part of the text with a bracket behind it.
    obtain ⟨part, last, rfl⟩ := (List.eq_nil_or_concat left).resolve_left nonempty
    rw [List.concat_eq_append, ← List.append_assoc] at split
    obtain ⟨parts, same⟩ := List.append_inj' split rfl
    obtain rfl := List.singleton_inj.1 same
    rw [List.concat_eq_append, List.append_assoc]
    exact closeSpaced_pair_append (cutAt_eq_none_iff.1 h.clear part ⟨gone, parts.symm⟩) _
  rw [scanSection_written h]
  simp only [List.append_assoc, List.singleton_append] at cut
  rw [cut, Option.map_some]

end HtmlTemplate.Markup
