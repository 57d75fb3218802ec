import HtmlTemplate.Markup.Render
import HtmlTemplate.Markup.Scanner
import HtmlTemplate.Proofs.SmallLetters
import HtmlTemplate.Naming

/-!
# Written texts

What the writer does to a text is undone when the text is read: escaped texts and attribute values
hold no character that ends them, and their references stand for the characters that were escaped
(`decodeRefs_escapeText`, `decodeRefs_escapeAttr`). Names of tags and attributes are written as they
are, and those that consist of small letters, digits and a few other characters are read as they
are.
-/

namespace HtmlTemplate.Markup

open HtmlTemplate.Text

/-! ### Escaped texts -/

/-- A reference whose name a semicolon ends is replaced by what the name stands for. -/
theorem decodeRefs_named (name : List Char) {c : Char}
    (reads : ∀ cs, refAt (name ++ ';' :: cs) =
      some (charsOfName (name ++ [';']), name.length + 1))
    (stands : charsOfName (name ++ [';']) = [c]) (cs : List Char) :
    decodeRefs ('&' :: (name ++ ';' :: cs)) = c :: decodeRefs cs := by
  have after : (name ++ ';' :: cs).drop (name.length + 1) = cs := by
    rw [← List.drop_drop, List.drop_left]
    rfl
  rw [decodeRefs, if_pos rfl, reads]
  dsimp only
  rw [stands, after, List.singleton_append]

theorem decodeRefs_of_ne {c : Char} (h : c ≠ '&') (cs : List Char) :
    decodeRefs (c :: cs) = c :: decodeRefs cs := by
  rw [decodeRefs, if_neg h]

theorem decodeRefs_amp (cs : List Char) :
    decodeRefs ("&amp;".toList ++ cs) = '&' :: decodeRefs cs :=
  decodeRefs_named "amp".toList (fun _ => rfl) (by decide +kernel) cs

theorem decodeRefs_escapeTextChar (c : Char) (cs : List Char) :
    decodeRefs (escapeTextChar c ++ cs) = c :: decodeRefs cs := by
  unfold escapeTextChar
  split
  · subst c
    exact decodeRefs_amp cs
  · rename_i noAmp
    split
    · subst c
      exact decodeRefs_named "lt".toList (fun _ => rfl) (by decide +kernel) cs
    · split
      · subst c
        exact decodeRefs_named "gt".toList (fun _ => rfl) (by decide +kernel) cs
      · exact decodeRefs_of_ne noAmp cs

theorem decodeRefs_escapeAttrChar (c : Char) (cs : List Char) :
    decodeRefs (escapeAttrChar c ++ cs) = c :: decodeRefs cs := by
  unfold escapeAttrChar
  split
  · subst c
    exact decodeRefs_amp cs
  · rename_i noAmp
    split
    · subst c
      exact decodeRefs_named "quot".toList (fun _ => rfl) (by decide +kernel) cs
    · exact decodeRefs_of_ne noAmp cs

theorem decodeRefs_flatMap {escape : Char → List Char}
    (reads : ∀ c cs, decodeRefs (escape c ++ cs) = c :: decodeRefs cs) (cs : List Char) :
    decodeRefs (cs.flatMap escape) = cs := by
  induction cs with
  | nil => rw [List.flatMap_nil, decodeRefs]
  | cons c cs ih => rw [List.flatMap_cons, reads, ih]

/-- Reading an escaped text gives the text. -/
theorem decodeRefs_escapeText (data : String) :
    String.ofList (decodeRefs (escapeText data).toList) = data := by
  rw [escapeText, String.toList_ofList, decodeRefs_flatMap decodeRefs_escapeTextChar,
    String.ofList_toList]

/-- Reading an escaped attribute value gives the value. -/
theorem decodeRefs_escapeAttr (value : String) :
    String.ofList (decodeRefs (escapeAttr value).toList) = value := by
  rw [escapeAttr, String.toList_ofList, decodeRefs_flatMap decodeRefs_escapeAttrChar,
    String.ofList_toList]

theorem not_mem_escapeText (data : String) : '<' ∉ (escapeText data).toList := by
  rw [escapeText, String.toList_ofList, List.mem_flatMap]
  rintro ⟨c, -, mem⟩
  unfold escapeTextChar at mem
  split at mem
  · revert mem
    decide
  · split at mem
    · revert mem
      decide
    · rename_i noBracket
      split at mem
      · revert mem
        decide
      · exact noBracket (List.mem_singleton.1 mem).symm

theorem not_mem_escapeAttr (value : String) : '"' ∉ (escapeAttr value).toList := by
  rw [escapeAttr, String.toList_ofList, List.mem_flatMap]
  rintro ⟨c, -, mem⟩
  unfold escapeAttrChar at mem
  split at mem
  · revert mem
    decide
  · split at mem
    · revert mem
      decide
    · rename_i noMark
      exact noMark (List.mem_singleton.1 mem).symm

theorem escapeText_eq_nil_iff (data : String) : (escapeText data).toList = [] ↔ data = "" := by
  constructor
  · intro h
    rw [← decodeRefs_escapeText data, h]
    simp [decodeRefs]
  · rintro rfl
    rfl

/-! ### Names -/

/-- Characters that the names of tags and attributes may be written with. -/
def isPlainChar (c : Char) : Bool :=
  Naming.isSmall c || c.isDigit || c == '-' || c == '_' || c == ':' || c == '.'

/-- Names of attributes: a small letter, with small letters, digits, hyphens, underscores, colons
and dots after it. -/
def isAttrName (s : String) : Bool :=
  match s.toList with
  | [] => false
  | c :: cs => Naming.isSmall c && cs.all isPlainChar

/-- Names of tags: a small letter, with small letters, digits and hyphens after it. -/
def isTagName (s : String) : Bool :=
  match s.toList with
  | [] => false
  | c :: cs => Naming.isSmall c && cs.all fun c => Naming.isSmall c || c.isDigit || c == '-'

/-- What the scanner makes of a character of a name: it separates nothing and ends nothing. -/
structure PlainChar (c : Char) : Prop extends Settled c where
  endTag : isEndTagChar c = true
  apart : isSeparator c = false

theorem toNat_lt_of_isPlainChar {c : Char} (h : isPlainChar c = true) : c.toNat < 128 := by
  simp only [isPlainChar, Naming.isSmall, Char.isDigit, Bool.or_eq_true, Bool.and_eq_true,
    decide_eq_true_eq, beq_iff_eq] at h
  rcases h with ((((⟨-, h⟩ | ⟨-, h⟩) | rfl) | rfl) | rfl) | rfl
  · exact Nat.lt_of_le_of_lt (show c.toNat ≤ 'z'.toNat from h) (by decide)
  · exact Nat.lt_of_le_of_lt (show c.toNat ≤ '9'.toNat from h) (by decide)
  all_goals decide

theorem plainChar_of_isPlainChar {c : Char} (h : isPlainChar c = true) : PlainChar c := by
  have table : ∀ n : Fin 128, isPlainChar (Char.ofNat n) = true →
      lowerForm (Char.ofNat n) = [Char.ofNat n] ∧ ((Char.ofNat n).toNat == 0x3a3) = false ∧
        isEndTagChar (Char.ofNat n) = true ∧ isSeparator (Char.ofNat n) = false := by
    decide +kernel
  obtain ⟨n, rfl⟩ := exists_fin_of_ascii (toNat_lt_of_isPlainChar h)
  obtain ⟨small, sigma, endTag, apart⟩ := table n h
  exact ⟨⟨small, sigma⟩, endTag, apart⟩

/-! ### Names that are read as they are written -/

/-- Tags that the scanner reads in a start tag as they are written. -/
structure ReadableTag (tag : String) : Prop where
  first : ∃ c cs, tag.toList = c :: cs ∧ c.isAlpha = true
  chars : ∀ c ∈ tag.toList, isTagChar c = true
  small : lowercase tag = tag

/-- Names of attributes that the scanner reads as they are written. -/
structure ReadableName (name : String) : Prop where
  first : ∃ c cs, name.toList = c :: cs ∧ isAttrStart c = true ∧ ∀ d ∈ cs, isAttrChar d = true
  small : lowercase name = name

theorem isTagChar_of_not_isSeparator {c : Char} (h : isSeparator c = false) :
    isTagChar c = true := by
  simp only [isSeparator, Bool.or_eq_false_iff, beq_eq_false_iff_ne] at h
  obtain ⟨⟨⟨⟨noBlank, noSlash⟩, noBracket⟩, -⟩, noNull⟩ := h
  have blank {d : Char} (hd : isBlank d = true) : c ≠ d := by
    rintro rfl
    rw [noBlank] at hd
    cases hd
  simp [isTagChar, noSlash, noBracket, noNull, blank (d := '\t') (by decide),
    blank (d := '\n') (by decide), blank (d := '\r') (by decide),
    blank (d := '\x0c') (by decide), blank (d := ' ') (by decide)]

theorem isAttrChar_of_not_isSeparator {c : Char} (h : isSeparator c = false) :
    isAttrChar c = true := by
  simp only [isSeparator, Bool.or_eq_false_iff] at h
  simp [isAttrChar, h]

theorem isAttrStart_of_isAttrChar {c : Char} (h : isAttrChar c = true) : isAttrStart c = true := by
  simp only [isAttrChar, Bool.not_eq_true', Bool.or_eq_false_iff] at h
  simp [isAttrStart, h]

/-- A name is readable when its characters are settled and none of them separates anything. -/
theorem readableName_of_chars {name : String} (nonempty : name ≠ "")
    (settled : ∀ c ∈ name.toList, Settled c) (chars : ∀ c ∈ name.toList, isAttrChar c = true) :
    ReadableName name := by
  refine ⟨?_, lowercase_of_settled settled⟩
  cases shown : name.toList with
  | nil => exact absurd (String.toList_eq_nil_iff.1 shown) nonempty
  | cons c cs =>
    rw [shown] at chars
    exact ⟨c, cs, rfl, isAttrStart_of_isAttrChar (chars c List.mem_cons_self),
      fun d hd => chars d (List.mem_cons_of_mem c hd)⟩

/-- No bracket ends a readable tag. -/
theorem ReadableTag.noBracket {tag : String} (h : ReadableTag tag) : '>' ∉ tag.toList := by
  intro mem
  have := h.chars '>' mem
  revert this
  decide

/-- No gap is before a name. -/
theorem ReadableName.noGap {name : String} (h : ReadableName name) :
    ∃ c cs, name.toList = c :: cs ∧ isBlank c = false ∧ (c == '/') = false := by
  obtain ⟨c, cs, chars, start, -⟩ := h.first
  simp only [isAttrStart, Bool.not_eq_true', Bool.or_eq_false_iff] at start
  exact ⟨c, cs, chars, start.1⟩

theorem toNat_lt_of_isAlpha {c : Char} (h : c.isAlpha = true) : c.toNat < 128 := by
  change (c.isUpper || c.isLower) = true at h
  rcases Bool.or_eq_true_iff.1 h with upper | lower
  · have last : c.toNat ≤ 'Z'.toNat := (of_decide_eq_true upper).2
    exact Nat.lt_of_le_of_lt last (by decide)
  · have last : c.toNat ≤ 'z'.toNat := of_decide_eq_true (Bool.and_eq_true_iff.1 lower).2
    exact Nat.lt_of_le_of_lt last (by decide)

theorem not_isBlank_of_isAlpha {c : Char} (h : c.isAlpha = true) : isBlank c = false := by
  have table : ∀ n : Fin 128, (Char.ofNat n).isAlpha = true → isBlank (Char.ofNat n) = false := by
    decide +kernel
  obtain ⟨n, rfl⟩ := exists_fin_of_ascii (toNat_lt_of_isAlpha h)
  exact table n h

theorem ReadableTag.dropWhile_isBlank {tag : String} (h : ReadableTag tag) (rest : List Char) :
    (tag.toList ++ rest).dropWhile isBlank = tag.toList ++ rest := by
  obtain ⟨c, cs, chars, alpha⟩ := h.first
  rw [chars]
  exact List.dropWhile_cons_of_neg (by simp [not_isBlank_of_isAlpha alpha])

/-! ### Plain names -/

theorem isPlainChar_of_isSmall {c : Char} (h : Naming.isSmall c = true) : isPlainChar c = true := by
  simp [isPlainChar, h]

theorem isAlpha_of_isSmall {c : Char} (h : Naming.isSmall c = true) : c.isAlpha = true := by
  have lower : c.isLower = true := h
  change (c.isUpper || c.isLower) = true
  rw [lower, Bool.or_true]

/-- The characters of a plain name, each by itself and the first one by its kind. -/
theorem plainChars_of_isAttrName {s : String} (h : isAttrName s = true) :
    (∀ c ∈ s.toList, PlainChar c) ∧ ∃ c cs, s.toList = c :: cs ∧ c.isAlpha = true := by
  unfold isAttrName at h
  split at h
  · cases h
  · rename_i c cs chars
    obtain ⟨first, rest⟩ := Bool.and_eq_true_iff.1 h
    rw [chars]
    refine ⟨fun d hd => ?_, c, cs, rfl, isAlpha_of_isSmall first⟩
    rcases List.mem_cons.1 hd with rfl | hd
    · exact plainChar_of_isPlainChar (isPlainChar_of_isSmall first)
    · exact plainChar_of_isPlainChar (List.all_eq_true.1 rest d hd)

theorem readableName_of_isAttrName {s : String} (h : isAttrName s = true) : ReadableName s := by
  obtain ⟨plain, c, cs, chars, -⟩ := plainChars_of_isAttrName h
  refine readableName_of_chars ?_ (fun d hd => (plain d hd).toSettled)
    fun d hd => isAttrChar_of_not_isSeparator (plain d hd).apart
  rintro rfl
  cases chars

theorem isAttrName_of_isTagName {s : String} (h : isTagName s = true) : isAttrName s = true := by
  unfold isTagName at h
  unfold isAttrName
  split at h
  · cases h
  · rename_i c cs _
    obtain ⟨first, rest⟩ := Bool.and_eq_true_iff.1 h
    refine Bool.and_eq_true_iff.2 ⟨first, List.all_eq_true.2 fun d hd => ?_⟩
    have := List.all_eq_true.1 rest d hd
    simp only [Bool.or_eq_true] at this
    rcases this with (small | digit) | hyphen
    · simp [isPlainChar, small]
    · simp [isPlainChar, digit]
    · simp [isPlainChar, hyphen]

theorem readableTag_of_isTagName {s : String} (h : isTagName s = true) : ReadableTag s := by
  obtain ⟨plain, first⟩ := plainChars_of_isAttrName (isAttrName_of_isTagName h)
  exact ⟨first, fun d hd => isTagChar_of_not_isSeparator (plain d hd).apart,
    lowercase_of_settled fun d hd => (plain d hd).toSettled⟩

end HtmlTemplate.Markup
