import HtmlTemplate.Proofs.Cuts
import HtmlTemplate.Proofs.WrittenText

/-!
# Written tags

The scanner reads back what the writer writes between angle brackets: start tags with their
attributes (`scanStartTag_written`), end tags (`scanEndTag_written`) and comments
(`scanDeclaration_written`). The text of a raw text element ends at its end tag
(`cutAt_closeRaw_written`).
-/

namespace HtmlTemplate.Markup

open HtmlTemplate.Text

/-! ### Attributes -/

theorem toList_renderAttrs_cons (name value : String) (rest : Attrs) :
    (renderAttrs ((name, value) :: rest)).toList =
      ' ' :: (name.toList ++ '=' :: '"' ::
        ((escapeAttr value).toList ++ '"' :: (renderAttrs rest).toList)) := by
  simp [renderAttrs, String.toList_append]

theorem attrValue?_quoted {value : List Char} (h : '"' ∉ value) (rest : List Char) :
    attrValue? ('=' :: '"' :: (value ++ '"' :: rest)) = some (value, ⟨'"', rest⟩) := by
  have equals : isBlank '=' = false := by decide
  have mark : isBlank '"' = false := by decide
  simp [attrValue?, equals, mark, quotedValue, cutAt_closeChar h]

/-- An attribute that follows a blank is read to the quotation mark that ends its value. -/
theorem attrAt_written {name : String} (hname : ReadableName name) {value : List Char}
    (h : '"' ∉ value) (rest : List Char) :
    attrAt ⟨' ', name.toList ++ '=' :: '"' :: (value ++ '"' :: rest)⟩ =
      some ((name.toList, some value), skipGap '"' rest) := by
  obtain ⟨c, cs, shown, start, chars⟩ := hname.first
  have ends : isAttrChar '=' = false := by decide
  have opens : opensAttr ' ' = true := by decide
  simp [shown, attrAt, opens, start, List.takeWhile_append_of_pos chars,
    List.dropWhile_append_of_pos chars, ends, attrValue?_quoted h]

/-- The gap before written attributes is the blank before the first of them, if there is one. -/
theorem skipGap_written_cons {name : String} (hname : ReadableName name) (last : Char)
    (rest : List Char) :
    skipGap last (' ' :: (name.toList ++ rest)) = ⟨' ', name.toList ++ rest⟩ := by
  obtain ⟨c, cs, shown, noGap⟩ := hname.noGap
  have blank : isBlank ' ' = true := by decide
  simp [shown, skipGap, blank, noGap]

theorem skipGap_bracket (last : Char) (rest : List Char) :
    skipGap last ('>' :: rest) = ⟨last, '>' :: rest⟩ := by
  simp [skipGap]

theorem length_rest_skipGap_le (cs : List Char) :
    ∀ last, (skipGap last cs).rest.length ≤ cs.length := by
  induction cs with
  | nil => exact fun last => Nat.le_refl 0
  | cons c cs ih =>
    intro last
    rw [skipGap]
    split
    · exact Nat.le_succ_of_le (ih c)
    · exact Nat.le_refl _

/-- Attributes as the scanner finds them in what is written. -/
def foundAttrs (attrs : Attrs) : List (List Char × Option (List Char)) :=
  attrs.map fun a => (a.1.toList, some (escapeAttr a.2).toList)

/-- Written attributes are found in their order, up to the bracket behind them. -/
theorem attrsFrom_written {attrs : Attrs} (names : ∀ a ∈ attrs, ReadableName a.1)
    (rest : List Char) : ∀ last, ∃ last',
      attrsFrom (skipGap last ((renderAttrs attrs).toList ++ '>' :: rest)) =
        (foundAttrs attrs, ⟨last', '>' :: rest⟩) := by
  induction attrs with
  | nil =>
    intro last
    have bracket : isAttrStart '>' = false := by decide
    refine ⟨last, ?_⟩
    change attrsFrom (skipGap last ('>' :: rest)) = _
    rw [skipGap_bracket, attrsFrom]
    simp [attrAt, bracket, foundAttrs]
  | cons a attrs ih =>
    intro last
    obtain ⟨name, value⟩ := a
    have hname := names (name, value) List.mem_cons_self
    obtain ⟨last', later⟩ := ih (fun b hb => names b (List.mem_cons_of_mem _ hb)) '"'
    refine ⟨last', ?_⟩
    rw [toList_renderAttrs_cons]
    simp only [List.cons_append, List.append_assoc]
    rw [skipGap_written_cons hname, attrsFrom, attrAt_written hname (not_mem_escapeAttr value)]
    have shorter := length_rest_skipGap_le ((renderAttrs attrs).toList ++ '>' :: rest) '"'
    dsimp only
    rw [dif_pos (by simp only [List.length_append, List.length_cons] at shorter ⊢; omega), later]
    rfl

/-- Before written attributes the scanner skips the same, slashes or not. -/
theorem spotSkip_written {attrs : Attrs} (names : ∀ a ∈ attrs, ReadableName a.1) (last : Char)
    (rest : List Char) :
    Spot.skip (fun c => isBlank c || c == '/') ⟨last, (renderAttrs attrs).toList ++ '>' :: rest⟩ =
      skipGap last ((renderAttrs attrs).toList ++ '>' :: rest) := by
  have blank : isBlank ' ' = true := by decide
  cases attrs with
  | nil =>
    change Spot.skip _ ⟨last, '>' :: rest⟩ = skipGap last ('>' :: rest)
    rw [skipGap_bracket]
    simp [Spot.skip]
  | cons a attrs =>
    obtain ⟨name, value⟩ := a
    have hname := names (name, value) List.mem_cons_self
    rw [toList_renderAttrs_cons]
    simp only [List.cons_append, List.append_assoc]
    rw [skipGap_written_cons hname]
    obtain ⟨c, cs, chars, noGap⟩ := hname.noGap
    rw [chars]
    simp [Spot.skip, blank, noGap]

/-- A name ends where attributes are written, or the bracket. -/
theorem isTagChar_written (attrs : Attrs) (rest : List Char) :
    ∃ c cs, (renderAttrs attrs).toList ++ '>' :: rest = c :: cs ∧ isTagChar c = false := by
  cases attrs with
  | nil => exact ⟨'>', rest, rfl, by decide⟩
  | cons a attrs =>
    obtain ⟨name, value⟩ := a
    rw [toList_renderAttrs_cons]
    exact ⟨' ', _, rfl, by decide⟩

/-- Attributes as a start tag reports them. -/
def reportedAttrs (attrs : Attrs) : List (String × Option String) :=
  attrs.map fun a => (a.1, some a.2)

theorem map_reportAttr_foundAttrs {attrs : Attrs} (names : ∀ a ∈ attrs, ReadableName a.1) :
    (foundAttrs attrs).map reportAttr = reportedAttrs attrs := by
  unfold foundAttrs reportedAttrs
  rw [List.map_map]
  refine List.map_congr_left fun a ha => ?_
  simp [reportAttr, (names a ha).small, decodeRefs_escapeAttr]

/-- A written start tag is read as a start tag, whatever follows it. -/
theorem scanStartTag_written {tag : String} (htag : ReadableTag tag) {attrs : Attrs}
    (names : ∀ a ∈ attrs, ReadableName a.1) (rest : List Char) :
    scanStartTag (tag.toList ++ ((renderAttrs attrs).toList ++ '>' :: rest)) =
      some ⟨[.startTag tag (reportedAttrs attrs)], if isRawText tag then some tag else none,
        rest⟩ := by
  -- The tag is looked at twice: for where it ends, and cut off there for its attributes.
  have split (more : List Char) :
      (tag.toList ++ ((renderAttrs attrs).toList ++ '>' :: more)).takeWhile isTagChar = tag.toList ∧
      (tag.toList ++ ((renderAttrs attrs).toList ++ '>' :: more)).dropWhile isTagChar =
        (renderAttrs attrs).toList ++ '>' :: more := by
    obtain ⟨c, cs, written, ends⟩ := isTagChar_written attrs more
    rw [List.takeWhile_append_of_pos htag.chars, List.dropWhile_append_of_pos htag.chars, written]
    simp [ends]
  have whole : (tag.toList ++ ((renderAttrs attrs).toList ++ '>' :: rest)).take
      ((tag.toList ++ ((renderAttrs attrs).toList ++ '>' :: rest)).length - rest.length) =
        tag.toList ++ ((renderAttrs attrs).toList ++ ['>']) := by
    have cut : tag.toList ++ ((renderAttrs attrs).toList ++ '>' :: rest) =
        (tag.toList ++ ((renderAttrs attrs).toList ++ ['>'])) ++ rest := by simp
    rw [cut, List.length_append, Nat.add_sub_cancel, List.take_left]
  obtain ⟨last₁, extent⟩ := attrsFrom_written names rest (tag.toList.getLastD '<')
  obtain ⟨last₂, found⟩ := attrsFrom_written names [] (tag.toList.getLastD '<')
  have ending : trim ['>'] = ['>'] := by decide
  unfold scanStartTag
  simp only [split, spotSkip_written names, extent]
  rw [List.dropWhile_cons_of_neg (by simp)]
  simp only [tagEnd, whole, split, found, ending, String.ofList_toList, htag.small,
    map_reportAttr_foundAttrs names]
  simp

/-! ### End tags -/

theorem toList_endTag (tag : String) :
    (endTag tag).toList = '<' :: '/' :: (tag.toList ++ ['>']) := by
  simp [endTag, String.toList_append]

/-- The name that the end tag written for a tag is read with. It is shorter than the tag when the
tag goes on with nothing but blanks after the characters that names in end tags are made of. -/
def endName (tag : String) : String :=
  match plainEndTag? (tag.toList ++ ['>']) with
  | some (name, _) => lowercase (String.ofList name)
  | none => tag

/-- Behind blanks the bracket is found, and behind nothing else. -/
theorem closeChar_dropWhile_isBlank {cs : List Char} (h : '>' ∉ cs) (rest : List Char) :
    closeChar '>' ((cs ++ '>' :: rest).dropWhile isBlank) =
      if cs.all isBlank then some rest else none := by
  induction cs with
  | nil => simp [closeChar]
  | cons c cs ih =>
    have other : c ≠ '>' := fun same => h (by simp [same])
    have later := ih fun mem => h (List.mem_cons_of_mem c mem)
    rw [List.cons_append, List.dropWhile_cons, List.all_cons]
    cases isBlank c with
    | true => simpa using later
    | false => simp [closeChar, other]

theorem plainEndTag?_written {tag : String} (htag : ReadableTag tag) (rest : List Char) :
    plainEndTag? (tag.toList ++ '>' :: rest) =
      if (tag.toList.dropWhile isEndTagChar).all isBlank then
        some (tag.toList.takeWhile isEndTagChar, rest) else none := by
  have ends : isEndTagChar '>' = false := by decide
  have noBracket : '>' ∉ tag.toList.dropWhile isEndTagChar := fun mem =>
    htag.noBracket ((List.dropWhile_suffix _).subset mem)
  unfold plainEndTag?
  simp only [htag.dropWhile_isBlank, takeWhile_append_cons ends, dropWhile_append_cons ends,
    closeChar_dropWhile_isBlank noBracket]
  obtain ⟨c, cs, chars, alpha⟩ := htag.first
  rw [chars]
  simp only [List.cons_append, alpha, if_true]
  split <;> rfl

/-- A written end tag is read as one, with the name that is read in it. -/
theorem scanEndTag_written {tag : String} (htag : ReadableTag tag) (rest : List Char) :
    scanEndTag none (tag.toList ++ '>' :: rest) = some ⟨[.endTag (endName tag)], none, rest⟩ := by
  unfold scanEndTag endName
  simp only [cutAt_closeChar htag.noBracket, plainEndTag?_written htag]
  cases (tag.toList.dropWhile isEndTagChar).all isBlank with
  | true => rfl
  | false =>
    obtain ⟨c, cs, chars, alpha⟩ := htag.first
    have taken : (tag.toList ++ '>' :: rest).takeWhile isTagChar = tag.toList := by
      rw [List.takeWhile_append_of_pos htag.chars]
      simp [isTagChar]
    have dropped : (tag.toList ++ '>' :: rest).dropWhile isTagChar = '>' :: rest := by
      rw [List.dropWhile_append_of_pos htag.chars]
      simp [isTagChar]
    have cut : cutAt (closeChar '>') ('>' :: rest) = some ([], '>' :: rest, rest) :=
      cutAt_closeChar List.not_mem_nil rest
    simp only [taken, dropped, skipGap_bracket, cut, String.ofList_toList, htag.small]
    rw [chars]
    simp [alpha]

/-- Tags made of the characters of names in end tags are read in them as they are. -/
theorem endName_of_chars {tag : String} (htag : ReadableTag tag)
    (plain : ∀ c ∈ tag.toList, isEndTagChar c = true) : endName tag = tag := by
  have all : tag.toList.dropWhile isEndTagChar = [] := List.dropWhile_eq_nil_iff.2 plain
  have taken : tag.toList.takeWhile isEndTagChar = tag.toList :=
    List.takeWhile_eq_self_iff.2 plain
  simp [endName, plainEndTag?_written htag, all, taken, htag.small]

theorem endName_of_isTagName {tag : String} (h : isTagName tag = true) : endName tag = tag :=
  endName_of_chars (readableTag_of_isTagName h) fun c hc =>
    ((plainChars_of_isAttrName (isAttrName_of_isTagName h)).1 c hc).endTag

end HtmlTemplate.Markup
