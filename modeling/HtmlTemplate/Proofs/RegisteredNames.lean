import HtmlTemplate.Proofs.Segments
import HtmlTemplate.Proofs.SmallLetters
import Mathlib.Data.List.TakeWhile

/-!
# Names in registered form

A name in registered form is in small letters, and has as many segments as the name that it was made
of. Each segment with words comes to words of small letters or digits with hyphens between them,
which stay as they are (`kebabSegment_joined`); a segment without words is only made small. Two
characters are no letters of a word but have small forms that are: the dotted capital I and the
Kelvin sign. `kebabCase_stable_iff` says when they keep a registered name from staying as it is.
-/

namespace HtmlTemplate.Naming

open HtmlTemplate.Text

/-- The capital I with a dot, whose small form is an i and a mark. -/
def dottedI : Char := Char.ofNat 0x130

/-- The sign for degrees Kelvin, whose small form is the letter k. -/
def kelvin : Char := Char.ofNat 0x212a

/-! ### Characters of words -/

theorem isSmall_iff {c : Char} : isSmall c = true ↔ 97 ≤ c.toNat ∧ c.toNat ≤ 122 := by
  simp [isSmall, Char.le_def, UInt32.le_iff_toNat_le]

theorem isCapital_iff {c : Char} : isCapital c = true ↔ 65 ≤ c.toNat ∧ c.toNat ≤ 90 := by
  simp [isCapital, Char.le_def, UInt32.le_iff_toNat_le]

theorem isDecimal_iff {c : Char} :
    isDecimal c = true ↔ ∃ z ∈ decimalZeros, z ≤ c.toNat ∧ c.toNat < z + 10 := by
  simp [isDecimal, decimalDigit?]

/-- The digits of a script lie beyond ASCII or before its letters. -/
theorem ascii_decimalZeros :
    (decimalZeros.all fun z => Nat.ble 128 z || Nat.blt (z + 9) 65) = true := by
  decide

/-- No capital of the table is a digit, and no small letter is one. The small letters lie beyond ASCII,
those of the ASCII capitals and of the Kelvin sign apart. -/
theorem decimalZeros_lowercaseRuns :
    (lowercaseRuns.all fun r =>
      (Nat.ble r.last 127 || (r.first == 0x212a && r.last == 0x212a) || Nat.ble 128 r.least) &&
      decimalZeros.all fun z => (Nat.blt r.last z || Nat.blt (z + 9) r.first) &&
        (Nat.blt r.greatest z || Nat.blt (z + 9) r.least)) = true := by
  decide +kernel

theorem not_letter_of_isDecimal {c : Char} (h : isDecimal c = true) :
    isSmall c = false ∧ isCapital c = false := by
  obtain ⟨z, mem, above, below⟩ := isDecimal_iff.1 h
  have apart := List.all_eq_true.1 ascii_decimalZeros z mem
  simp only [Bool.or_eq_true, Nat.ble_eq, Nat.blt_eq] at apart
  rw [← Bool.not_eq_true, ← Bool.not_eq_true, isSmall_iff, isCapital_iff]
  omega

theorem partner?_of_isDecimal {c : Char} (h : isDecimal c = true) :
    partner? lowercaseRuns c.toNat = none := by
  obtain ⟨z, mem, above, below⟩ := isDecimal_iff.1 h
  refine List.findSome?_eq_none_iff.2 fun r hr => if_neg fun inside => ?_
  have apart := (Bool.and_eq_true_iff.1 (List.all_eq_true.1 decimalZeros_lowercaseRuns r hr)).2
  have beside := (Bool.and_eq_true_iff.1 (List.all_eq_true.1 apart z mem)).1
  simp only [Bool.or_eq_true, Nat.blt_eq] at beside
  omega

theorem toLower_of_not_isCapital {c : Char} (h : isCapital c = false) : c.toLower = c := by
  refine dif_neg fun letter => ?_
  rw [← Bool.not_eq_true, isCapital_iff] at h
  exact h ⟨UInt32.le_iff_toNat_le.1 letter.1, UInt32.le_iff_toNat_le.1 letter.2⟩

theorem isSmall_toLower {c : Char} (h : isCapital c = true) : isSmall c.toLower = true := by
  obtain ⟨above, below⟩ := isCapital_iff.1 h
  have letter : c.val ≥ 'A'.val ∧ c.val ≤ 'Z'.val :=
    ⟨UInt32.le_iff_toNat_le.2 above, UInt32.le_iff_toNat_le.2 below⟩
  have lower : c.toLower.val = c.val + 32 := congrArg Char.val (dif_pos letter)
  have code : c.toLower.toNat = c.toNat + 32 := by
    change c.toLower.val.toNat = c.val.toNat + 32
    change c.val.toNat ≤ 90 at below
    rw [lower, UInt32.toNat_add]
    exact Nat.mod_eq_of_lt (by change _ + 32 < _; omega)
  rw [isSmall_iff, code]
  omega

theorem lowerChar_of_isSmall {c : Char} (h : isSmall c = true) : lowerChar c = c := by
  have := isSmall_iff.1 h
  rw [lowerChar, if_pos (by omega)]
  refine toLower_of_not_isCapital ?_
  rw [← Bool.not_eq_true, isCapital_iff]
  omega

theorem lowerChar_of_isDecimal {c : Char} (h : isDecimal c = true) : lowerChar c = c := by
  rw [lowerChar, partner?_of_isDecimal h]
  split
  · exact toLower_of_not_isCapital (not_letter_of_isDecimal h).2
  · rfl

theorem isSmall_lowerChar {c : Char} (h : isCapital c = true) : isSmall (lowerChar c) = true := by
  have ascii : c.toNat < 128 := Nat.lt_of_le_of_lt (isCapital_iff.1 h).2 (by decide)
  rw [lowerChar, if_pos ascii]
  exact isSmall_toLower h

/-- The kind of a word that a character begins tells what it is. -/
theorem wordKind?_cases (c : Char) :
    (wordKind? c = some .small ∧ isSmall c = true) ∨
      (wordKind? c = some .capitals ∧ isCapital c = true) ∨
      (wordKind? c = some .digits ∧ isDecimal c = true) ∨ wordKind? c = none := by
  unfold wordKind?
  cases isSmall c <;> cases isCapital c <;> cases isDecimal c <;> simp

theorem wordKind?_eq_none_iff {c : Char} :
    wordKind? c = none ↔ isSmall c = false ∧ isCapital c = false ∧ isDecimal c = false := by
  unfold wordKind?
  cases isSmall c <;> cases isCapital c <;> cases isDecimal c <;> simp

theorem wordKind?_of_isSmall {c : Char} (h : isSmall c = true) : wordKind? c = some .small := by
  rw [wordKind?, if_pos h]

theorem wordKind?_of_isDecimal {c : Char} (h : isDecimal c = true) :
    wordKind? c = some .digits := by
  obtain ⟨notSmall, notCapital⟩ := not_letter_of_isDecimal h
  rw [wordKind?, if_neg (by simp [notSmall]), if_neg (by simp [notCapital]), if_pos h]

/-- A character of a word is neither the capital sigma nor the dotted capital I. -/
theorem plain_of_wordKind? {c : Char} (h : wordKind? c ≠ none) :
    c.toNat ≠ 0x3a3 ∧ c.toNat ≠ 0x130 := by
  have none : wordKind? (Char.ofNat 0x3a3) = none ∧ wordKind? (Char.ofNat 0x130) = none := ⟨rfl, rfl⟩
  refine ⟨fun same => h ?_, fun same => h ?_⟩
  · rw [← c.ofNat_toNat, same]
    exact none.1
  · rw [← c.ofNat_toNat, same]
    exact none.2

/-! ### Words of small letters -/

/-- A word of a name in registered form: small letters, or decimal digits. -/
def IsSmallWord (w : List Char) : Prop :=
  w ≠ [] ∧ ((∀ c ∈ w, isSmall c = true) ∨ ∀ c ∈ w, isDecimal c = true)

theorem lowerChar_of_mem {w : List Char} (word : IsSmallWord w) {c : Char} (mem : c ∈ w) :
    lowerChar c = c :=
  word.2.elim (fun small => lowerChar_of_isSmall (small c mem))
    fun digits => lowerChar_of_isDecimal (digits c mem)

theorem wordKind?_of_mem {w : List Char} (word : IsSmallWord w) {c : Char} (mem : c ∈ w) :
    wordKind? c ≠ none := by
  rcases word.2 with small | digits
  · rw [wordKind?_of_isSmall (small c mem)]
    exact Option.some_ne_none _
  · rw [wordKind?_of_isDecimal (digits c mem)]
    exact Option.some_ne_none _

/-- The word that is cut off has characters of words only, and its small form is a small word. -/
theorem spec_cutWord {c : Char} (cs : List Char) (h : wordKind? c ≠ none) :
    (∀ d ∈ (cutWord c cs).1, wordKind? d ≠ none) ∧ IsSmallWord ((cutWord c cs).1.map lowerChar) := by
  have all {p : Char → Bool} {d : Char} (hd : d ∈ c :: cs.takeWhile p) : d = c ∨ p d = true :=
    (List.mem_cons.1 hd).imp_right List.mem_takeWhile_imp
  have letter {d : Char} (hd : isSmall d = true ∨ isCapital d = true) :
      wordKind? d ≠ none ∧ isSmall (lowerChar d) = true := by
    refine ⟨fun none => ?_, ?_⟩
    · obtain ⟨notSmall, notCapital, -⟩ := wordKind?_eq_none_iff.1 none
      simp [notSmall, notCapital] at hd
    · rcases hd with small | capital
      · rwa [lowerChar_of_isSmall small]
      · exact isSmall_lowerChar capital
  have letters {w : List Char} (some : w ≠ [])
      (hw : ∀ d ∈ w, isSmall d = true ∨ isCapital d = true) :
      (∀ d ∈ w, wordKind? d ≠ none) ∧ IsSmallWord (w.map lowerChar) := by
    refine ⟨fun d hd => (letter (hw d hd)).1, by simpa using some, .inl fun e he => ?_⟩
    obtain ⟨d, hd, rfl⟩ := List.mem_map.1 he
    exact (letter (hw d hd)).2
  rcases wordKind?_cases c with ⟨kind, first⟩ | ⟨kind, first⟩ | ⟨kind, first⟩ | none
  · rw [cutWord, kind]
    exact letters (List.cons_ne_nil _ _) fun d hd =>
      .inl ((all hd).elim (fun same => same ▸ first) id)
  · rw [cutWord, kind]
    dsimp only
    split
    · exact letters (List.cons_ne_nil _ _) fun d hd =>
        .inr ((all hd).elim (fun same => same ▸ first) id)
    · exact letters (List.cons_ne_nil _ _) fun d hd =>
        (all hd).elim (fun same => .inr (same ▸ first)) .inl
  · rw [cutWord, kind]
    have decimals : ∀ d ∈ c :: cs.takeWhile isDecimal, isDecimal d = true := fun d hd =>
      (all hd).elim (fun same => same ▸ first) id
    refine ⟨fun d hd => ?_, by simp, .inr fun e he => ?_⟩
    · rw [wordKind?_of_isDecimal (decimals d hd)]
      exact Option.some_ne_none _
    · obtain ⟨d, hd, rfl⟩ := List.mem_map.1 he
      rw [lowerChar_of_isDecimal (decimals d hd)]
      exact decimals d hd
  · exact absurd none h

theorem spec_nameWords {cs w : List Char} (mem : w ∈ nameWords cs) :
    (∀ d ∈ w, wordKind? d ≠ none) ∧ IsSmallWord (w.map lowerChar) := by
  fun_induction nameWords cs with
  | case1 => exact absurd mem List.not_mem_nil
  | case2 c cs none ih => exact ih mem
  | case3 c cs kind found ih =>
    rcases List.mem_cons.1 mem with rfl | mem
    · exact spec_cutWord cs (by simp [found])
    · exact ih mem

theorem nameWords_eq_nil_iff {cs : List Char} :
    nameWords cs = [] ↔ ∀ c ∈ cs, wordKind? c = none := by
  induction cs with
  | nil => simp [nameWords]
  | cons c cs ih =>
    rw [nameWords, List.forall_mem_cons]
    cases found : wordKind? c with
    | none => simpa using ih
    | some kind => simp

/-- A small word comes first when no word goes on behind it. -/
theorem nameWords_append {w rest : List Char} (word : IsSmallWord w)
    (stop : ∀ d ∈ rest.head?, wordKind? d = none) :
    nameWords (w ++ rest) = w :: nameWords rest := by
  obtain ⟨c, cs, rfl⟩ := List.exists_cons_of_ne_nil word.1
  have ends {p : Char → Bool} (inside : ∀ d ∈ cs, p d = true)
      (apart : ∀ d, wordKind? d = none → p d = false) :
      (cs ++ rest).takeWhile p = cs ∧ (cs ++ rest).dropWhile p = rest := by
    rw [List.takeWhile_append_of_pos inside, List.dropWhile_append_of_pos inside]
    cases rest with
    | nil => simp
    | cons d rest =>
      have outside := apart d (stop d rfl)
      simp [outside]
  have cut : cutWord c (cs ++ rest) = (c :: cs, rest) := by
    rcases word.2 with small | digits
    · obtain ⟨first, later⟩ := List.forall_mem_cons.1 small
      obtain ⟨taken, left⟩ := ends later fun d none => (wordKind?_eq_none_iff.1 none).1
      rw [cutWord, wordKind?_of_isSmall first]
      simp only [taken, left]
    · obtain ⟨first, later⟩ := List.forall_mem_cons.1 digits
      obtain ⟨taken, left⟩ := ends later fun d none => (wordKind?_eq_none_iff.1 none).2.2
      rw [cutWord, wordKind?_of_isDecimal first]
      simp only [taken, left]
  obtain ⟨kind, found⟩ := Option.ne_none_iff_exists'.1 (wordKind?_of_mem word List.mem_cons_self)
  rw [List.cons_append, nameWords, found]
  simp only [cut]

theorem wordKind?_hyphen : wordKind? '-' = none := rfl

theorem lowerChar_hyphen : lowerChar '-' = '-' := rfl

theorem nameWords_intercalate {ws : List (List Char)} (words : ∀ w ∈ ws, IsSmallWord w) :
    nameWords (['-'].intercalate ws) = ws := by
  induction ws with
  | nil => simp [nameWords]
  | cons w ws ih =>
    obtain ⟨first, later⟩ := List.forall_mem_cons.1 words
    cases ws with
    | nil =>
      have alone : nameWords (w ++ []) = [w] := by
        rw [nameWords_append first (by simp), nameWords]
      simpa using alone
    | cons v ws =>
      rw [List.intercalate_cons_cons, List.append_assoc, List.singleton_append,
        nameWords_append first (by simp [wordKind?_hyphen]), nameWords, wordKind?_hyphen]
      exact congrArg (w :: ·) (ih later)

/-! ### Small forms of segments -/

/-- A text is made small character by character where no capital sigma and no dotted capital I
stand. -/
theorem lowercaseAfter_eq_map {cs : List Char} (h : ∀ c ∈ cs, c.toNat ≠ 0x3a3 ∧ c.toNat ≠ 0x130) :
    ∀ before, lowercaseAfter before cs = cs.map lowerChar := by
  induction cs with
  | nil => exact fun before => rfl
  | cons c cs ih =>
    intro before
    obtain ⟨⟨sigma, dotted⟩, later⟩ := List.forall_mem_cons.1 h
    rw [lowercaseAfter, ih later, smallForm, if_neg (by simpa using sigma), lowerForm,
      if_neg (by simpa using dotted)]
    rfl

/-- A segment with words comes to their small forms, with hyphens between them. -/
theorem toList_kebabSegment {segment : List Char} (some : nameWords segment ≠ []) :
    (kebabSegment segment).toList =
      ['-'].intercalate ((nameWords segment).map (·.map lowerChar)) := by
  have plain : ∀ c ∈ ['-'].intercalate (nameWords segment), c.toNat ≠ 0x3a3 ∧ c.toNat ≠ 0x130 := by
    intro c mem
    rcases mem_intercalate mem with rfl | mem
    · decide
    · obtain ⟨w, hw, inside⟩ := List.mem_flatten.1 mem
      exact plain_of_wordKind? ((spec_nameWords hw).1 c inside)
  have hyphen : "-".toList = ['-'] := by decide
  have texts : ((nameWords segment).map String.ofList).map String.toList = nameWords segment := by
    simp
  unfold kebabSegment
  split
  · rename_i none
    exact absurd none some
  · rw [lowercase, String.toList_ofList, String.toList_intercalate, hyphen, texts,
      lowercaseAfter_eq_map plain, map_intercalate, lowerChar_hyphen]

/-- Small words with hyphens between them stay as they are. -/
theorem kebabSegment_joined {ws : List (List Char)} (words : ∀ w ∈ ws, IsSmallWord w) :
    (kebabSegment (['-'].intercalate ws)).toList = ['-'].intercalate ws := by
  cases ws with
  | nil => simp [kebabSegment, nameWords, lowercase, lowercaseAfter]
  | cons w ws =>
    have found := nameWords_intercalate words
    have small : (w :: ws).map (·.map lowerChar) = w :: ws := by
      refine (List.map_congr_left fun v hv => ?_).trans (List.map_id _)
      exact (List.map_congr_left fun c mem => lowerChar_of_mem (words v hv) mem).trans
        (List.map_id v)
    rw [toList_kebabSegment (by simp [found]), found, small]

/-! ### Segments without words -/

theorem wordKind?_of_partner? {n m : Nat} (h : partner? lowercaseRuns n = some m) (ascii : 128 ≤ n) :
    n = 0x212a ∨ 128 ≤ (Char.ofNat m).toNat ∧ wordKind? (Char.ofNat m) = none := by
  obtain ⟨r, mem, paired⟩ := List.exists_of_findSome?_eq_some h
  have code := toNat_of_partner? h
  have inside : r.first ≤ n ∧ n ≤ r.last := by
    unfold CaseRun.partner? at paired
    split at paired
    · rename_i inside
      exact ⟨inside.1, inside.2.1⟩
    · cases paired
  obtain ⟨ends, digits⟩ :=
    Bool.and_eq_true_iff.1 (List.all_eq_true.1 decimalZeros_lowercaseRuns r mem)
  simp only [Bool.or_eq_true, Bool.and_eq_true, Nat.ble_eq, beq_iff_eq, List.all_eq_true,
    Nat.blt_eq] at ends digits
  rcases ends with (low | sign) | high
  · omega
  · left
    omega
  · right
    obtain ⟨above, below, -⟩ := CaseRun.partner?_spec paired (by omega)
    rw [code, wordKind?_eq_none_iff]
    refine ⟨by omega, ?_, ?_, ?_⟩
    · rw [← Bool.not_eq_true, isSmall_iff, code]
      omega
    · rw [← Bool.not_eq_true, isCapital_iff, code]
      omega
    · rw [← Bool.not_eq_true, isDecimal_iff, code]
      rintro ⟨z, hz, low, high⟩
      have := (digits z hz).2
      omega

theorem smallForm_dottedI (before after : List Char) :
    smallForm before dottedI after = ['i', Char.ofNat 0x307] := rfl

theorem smallForm_kelvin (before after : List Char) : smallForm before kelvin after = ['k'] := rfl

/-- A character that is in no word stays as it is in small letters, or leaves characters beyond
ASCII that are in no word either, unless it is a dotted capital I or a Kelvin sign. -/
theorem smallForm_cases {c : Char} (h : wordKind? c = none) (before after : List Char) :
    c = dottedI ∨ c = kelvin ∨
      ∀ d ∈ smallForm before c after, d = c ∨ 128 ≤ d.toNat ∧ wordKind? d = none := by
  have same {c d : Char} (h : c.toNat = d.toNat) : c = d := by
    rw [← c.ofNat_toNat, h, d.ofNat_toNat]
  by_cases dotted : c = dottedI
  · exact .inl dotted
  by_cases sign : c = kelvin
  · exact .inr (.inl sign)
  refine .inr (.inr fun d mem => ?_)
  unfold smallForm at mem
  split at mem
  · right
    rw [List.mem_singleton.1 mem]
    split
    · exact ⟨by decide, rfl⟩
    · exact ⟨by decide, rfl⟩
  · have code : (c.toNat == 0x130) = false := by
      rw [beq_eq_false_iff_ne]
      exact fun code => dotted (same code)
    rw [lowerForm, code, if_neg Bool.false_ne_true, List.mem_singleton, lowerChar] at mem
    split at mem
    · left
      rw [mem, toLower_of_not_isCapital (wordKind?_eq_none_iff.1 h).2.1]
    · rename_i ascii
      split at mem
      · rename_i m paired
        rcases wordKind?_of_partner? paired (by omega) with code | beyond
        · exact absurd (same code) sign
        · exact .inr (mem ▸ beyond)
      · exact .inl mem

/-- The characters of a text in small letters are those of the small forms of its characters. -/
theorem mem_lowercaseAfter_iff {d : Char} {cs : List Char} : ∀ {before : List Char},
    d ∈ lowercaseAfter before cs ↔
      ∃ front c after, cs = front ++ c :: after ∧ d ∈ smallForm (front.reverse ++ before) c after := by
  induction cs with
  | nil => simp [lowercaseAfter]
  | cons c cs ih =>
    intro before
    rw [lowercaseAfter, List.mem_append, ih]
    constructor
    · rintro (here | ⟨front, c', after, rfl, mem⟩)
      · exact ⟨[], c, cs, rfl, here⟩
      · exact ⟨c :: front, c', after, rfl, by simpa using mem⟩
    · rintro ⟨front, c', after, whole, mem⟩
      cases front with
      | nil =>
        obtain ⟨rfl, rfl⟩ := List.cons.inj whole
        exact .inl mem
      | cons _ front =>
        obtain ⟨rfl, rfl⟩ := List.cons.inj whole
        exact .inr ⟨front, c', after, rfl, by simpa using mem⟩

/-- Each character of a text leaves its small form in the small letters of the text. -/
theorem exists_smallForm_subset {c : Char} {cs : List Char} (mem : c ∈ cs) :
    ∃ before after, ∀ d ∈ smallForm before c after, d ∈ lowercaseAfter [] cs := by
  obtain ⟨front, after, rfl⟩ := List.append_of_mem mem
  exact ⟨front.reverse ++ [], after, fun d hd => mem_lowercaseAfter_iff.2 ⟨front, c, after, rfl, hd⟩⟩

theorem mem_lowercaseAfter_of_smallForm {c d : Char} {cs : List Char} (mem : c ∈ cs)
    (form : ∀ before after, d ∈ smallForm before c after) : d ∈ lowercaseAfter [] cs := by
  obtain ⟨before, after, subset⟩ := exists_smallForm_subset mem
  exact subset d (form before after)

theorem toList_kebabSegment_of_none {segment : List Char} (wordless : nameWords segment = []) :
    (kebabSegment segment).toList = lowercaseAfter [] segment := by
  rw [kebabSegment, wordless]
  simp [lowercase]

theorem kebabSegment_of_settled {text : String} (settled : ∀ c ∈ text.toList, Settled c)
    (wordless : nameWords text.toList = []) : kebabSegment text.toList = text := by
  rw [← String.toList_inj, toList_kebabSegment_of_none wordless, lowercaseAfter_of_settled settled]

/-- Kelvin signs with single hyphens between groups of them. -/
def IsKelvinRow (segment : List Char) : Prop :=
  ∃ groups : List (List Char), (∀ group ∈ groups, group ≠ [] ∧ ∀ c ∈ group, c = kelvin) ∧
    segment = ['-'].intercalate groups

/-- The small letters of a segment without words have none either, unless there is a dotted capital I
or a Kelvin sign among them. -/
theorem nameWords_lowercaseAfter_eq_nil_iff {segment : List Char}
    (wordless : nameWords segment = []) :
    nameWords (lowercaseAfter [] segment) = [] ↔ dottedI ∉ segment ∧ kelvin ∉ segment := by
  simp only [nameWords_eq_nil_iff] at wordless ⊢
  constructor
  · intro none
    have letters : wordKind? 'i' = some .small ∧ wordKind? 'k' = some .small := ⟨rfl, rfl⟩
    refine ⟨fun mem => absurd (none 'i' ?_) (by simp [letters]),
      fun mem => absurd (none 'k' ?_) (by simp [letters])⟩
    · exact mem_lowercaseAfter_of_smallForm mem (by simp [smallForm_dottedI])
    · exact mem_lowercaseAfter_of_smallForm mem (by simp [smallForm_kelvin])
  · rintro ⟨dotted, sign⟩ d mem
    obtain ⟨front, c, after, rfl, form⟩ := mem_lowercaseAfter_iff.1 mem
    have here : c ∈ front ++ c :: after := by simp
    rcases smallForm_cases (wordless c here) _ after with rfl | rfl | forms
    · exact absurd here dotted
    · exact absurd here sign
    · rcases forms d form with rfl | beyond
      · exact wordless d here
      · exact beyond.2

/-- When a segment without words has small words with hyphens between them for its small letters, it
is made of hyphens and Kelvin signs. -/
theorem eq_hyphen_or_kelvin {segment : List Char} (wordless : nameWords segment = [])
    (joined : ∀ d ∈ lowercaseAfter [] segment, d = '-' ∨ wordKind? d ≠ none) :
    ∀ c ∈ segment, c = '-' ∨ c = kelvin := by
  intro c mem
  have apart := nameWords_eq_nil_iff.1 wordless c mem
  obtain ⟨before, after, subset⟩ := exists_smallForm_subset mem
  rcases smallForm_cases apart before after with rfl | rfl | forms
  · -- The mark that the dotted capital I leaves behind is in no word.
    have mark : Char.ofNat 0x307 ∈ lowercaseAfter [] segment :=
      mem_lowercaseAfter_of_smallForm mem (by simp [smallForm_dottedI])
    have outside : Char.ofNat 0x307 ≠ '-' ∧ wordKind? (Char.ofNat 0x307) = none :=
      ⟨by decide, rfl⟩
    exact absurd (joined _ mark) (by simp [outside])
  · exact .inr rfl
  · obtain ⟨d, ds, form, -⟩ := smallForm_eq_cons before c after
    have first : d ∈ smallForm before c after := by simp [form]
    rcases forms d first with rfl | ⟨beyond, outside⟩
    · exact .inl ((joined d (subset d first)).resolve_right (by simp [apart]))
    · rcases joined d (subset d first) with rfl | inside
      · exact absurd beyond (by decide)
      · exact absurd outside inside

theorem isKelvinRow_of_joined {segment : List Char} {ws : List (List Char)}
    (wordless : nameWords segment = []) (words : ∀ w ∈ ws, IsSmallWord w)
    (joined : lowercaseAfter [] segment = ['-'].intercalate ws) : IsKelvinRow segment := by
  have only : ∀ c ∈ segment, c = '-' ∨ c = kelvin := by
    refine eq_hyphen_or_kelvin wordless fun d mem => ?_
    rw [joined] at mem
    refine (mem_intercalate mem).imp_right fun mem => ?_
    obtain ⟨w, hw, inside⟩ := List.mem_flatten.1 mem
    exact wordKind?_of_mem (words w hw) inside
  have plain : ∀ c ∈ segment, c.toNat ≠ 0x3a3 ∧ c.toNat ≠ 0x130 := fun c mem =>
    (only c mem).elim (fun same => same ▸ by decide) fun same => same ▸ by decide
  rw [lowercaseAfter_eq_map plain] at joined
  let back (d : Char) : Char := if d = 'k' then kelvin else d
  have forms : back (lowerChar '-') = '-' ∧ back (lowerChar kelvin) = kelvin ∧ back '-' = '-' :=
    ⟨rfl, rfl, rfl⟩
  have whole : segment = ['-'].intercalate (ws.map (·.map back)) := by
    have restored : segment.map (back ∘ lowerChar) = segment := by
      refine (List.map_congr_left fun c mem => ?_).trans (List.map_id segment)
      rcases only c mem with rfl | rfl
      · exact forms.1
      · exact forms.2.1
    rw [← restored, ← List.map_map, joined, map_intercalate, forms.2.2]
  refine ⟨ws.map (·.map back), fun group hgroup => ?_, whole⟩
  obtain ⟨w, hw, rfl⟩ := List.mem_map.1 hgroup
  refine ⟨by simpa using (words w hw).1, fun c mem => ?_⟩
  obtain ⟨d, hd, rfl⟩ := List.mem_map.1 mem
  -- The only character of words among the small forms of hyphens and Kelvin signs is the letter k.
  have small : d ∈ segment.map lowerChar := joined ▸ mem_intercalate_of_mem hw hd
  obtain ⟨c, hc, rfl⟩ := List.mem_map.1 small
  rcases only c hc with rfl | rfl
  · exact absurd wordKind?_hyphen (wordKind?_of_mem (words w hw) (lowerChar_hyphen ▸ hd))
  · exact forms.2.1

theorem lowercaseAfter_kelvinRow {groups : List (List Char)}
    (signs : ∀ group ∈ groups, group ≠ [] ∧ ∀ c ∈ group, c = kelvin) :
    ∃ ws, (∀ w ∈ ws, IsSmallWord w) ∧
      lowercaseAfter [] (['-'].intercalate groups) = ['-'].intercalate ws := by
  have plain : ∀ c ∈ ['-'].intercalate groups, c.toNat ≠ 0x3a3 ∧ c.toNat ≠ 0x130 := by
    intro c mem
    rcases mem_intercalate mem with rfl | mem
    · decide
    · obtain ⟨group, hgroup, inside⟩ := List.mem_flatten.1 mem
      rw [(signs group hgroup).2 c inside]
      decide
  have letter : isSmall (lowerChar kelvin) = true := rfl
  refine ⟨groups.map (·.map lowerChar), fun w hw => ?_, ?_⟩
  · obtain ⟨group, hgroup, rfl⟩ := List.mem_map.1 hw
    refine ⟨by simpa using (signs group hgroup).1, .inl fun d hd => ?_⟩
    obtain ⟨c, hc, rfl⟩ := List.mem_map.1 hd
    rw [(signs group hgroup).2 c hc]
    exact letter
  · rw [lowercaseAfter_eq_map plain, map_intercalate, lowerChar_hyphen]

/-! ### Registered form twice -/

/-- Whether the registered form of a segment stays as it is: the segment has words, or its small
letters bring none into it, or only words that stand between single hyphens. -/
def IsStable (segment : List Char) : Prop :=
  nameWords segment ≠ [] ∨ (dottedI ∉ segment ∧ kelvin ∉ segment) ∨ IsKelvinRow segment

theorem kebabSegment_small (segment : List Char) :
    ∃ text, kebabSegment segment = lowercase text := by
  unfold kebabSegment
  split
  · exact ⟨_, rfl⟩
  · exact ⟨_, rfl⟩

theorem settled_of_mem_kebabSegment {segment : List Char} {c : Char}
    (mem : c ∈ (kebabSegment segment).toList) : Settled c := by
  obtain ⟨text, small⟩ := kebabSegment_small segment
  rw [small] at mem
  exact settled_of_mem_lowercase mem

theorem kebabSegment_of_words {segment : List Char} (some : nameWords segment ≠ []) :
    kebabSegment (kebabSegment segment).toList = kebabSegment segment := by
  rw [← String.toList_inj, toList_kebabSegment some]
  refine kebabSegment_joined fun w hw => ?_
  obtain ⟨v, hv, rfl⟩ := List.mem_map.1 hw
  exact (spec_nameWords hv).2

theorem kebabSegment_again_iff (segment : List Char) :
    kebabSegment (kebabSegment segment).toList = kebabSegment segment ↔ IsStable segment := by
  by_cases wordless : nameWords segment = []
  · have small := toList_kebabSegment_of_none wordless
    by_cases later : nameWords (lowercaseAfter [] segment) = []
    · have bare := (nameWords_lowercaseAfter_eq_nil_iff wordless).1 later
      exact iff_of_true (kebabSegment_of_settled (fun c => settled_of_mem_kebabSegment)
        (small ▸ later)) (.inr (.inl bare))
    · constructor
      · intro same
        have joined := congrArg String.toList same
        rw [small, toList_kebabSegment later] at joined
        refine .inr (.inr (isKelvinRow_of_joined wordless (fun w hw => ?_) joined.symm))
        obtain ⟨v, hv, rfl⟩ := List.mem_map.1 hw
        exact (spec_nameWords hv).2
      · intro stable
        have bare := mt (nameWords_lowercaseAfter_eq_nil_iff wordless).2 later
        obtain ⟨groups, signs, rfl⟩ := (stable.resolve_left (by simp [wordless])).resolve_left bare
        obtain ⟨ws, words, joined⟩ := lowercaseAfter_kelvinRow signs
        rw [← String.toList_inj, small, joined]
        exact kebabSegment_joined words
  · exact iff_of_true (kebabSegment_of_words wordless) (.inl wordless)

/-- The second time registered form is made, it stays. -/
theorem kebabSegment_twice (segment : List Char) :
    kebabSegment (kebabSegment (kebabSegment segment).toList).toList =
      kebabSegment (kebabSegment segment).toList := by
  by_cases wordless : nameWords (kebabSegment segment).toList = []
  · have same := kebabSegment_of_settled (fun c => settled_of_mem_kebabSegment) wordless
    rw [same, same]
  · exact kebabSegment_of_words wordless

/-! ### Names -/

theorem dot_not_mem_kebabSegment {segment : List Char} (h : '.' ∉ segment) :
    '.' ∉ (kebabSegment segment).toList := by
  intro mem
  by_cases wordless : nameWords segment = []
  · rw [toList_kebabSegment_of_none wordless, mem_lowercaseAfter_iff] at mem
    obtain ⟨front, c, after, rfl, form⟩ := mem
    have here : c ∈ front ++ c :: after := by simp
    rcases smallForm_cases (nameWords_eq_nil_iff.1 wordless c here) _ after with rfl | rfl | forms
    · exact absurd (smallForm_dottedI _ after ▸ form) (by decide)
    · exact absurd (smallForm_kelvin _ after ▸ form) (by decide)
    · rcases forms '.' form with rfl | beyond
      · exact h here
      · exact absurd beyond.1 (by decide)
  · have outside : wordKind? '.' = none := rfl
    rw [toList_kebabSegment wordless] at mem
    rcases mem_intercalate mem with same | mem
    · exact absurd same (by decide)
    · obtain ⟨w, hw, inside⟩ := List.mem_flatten.1 mem
      obtain ⟨v, hv, rfl⟩ := List.mem_map.1 hw
      exact wordKind?_of_mem (spec_nameWords hv).2 inside outside

/-- A registered name has the registered forms of the segments for its segments. -/
theorem splitAt_kebabCase (name : String) :
    splitAt '.' (kebabCase name).toList =
      (splitAt '.' name.toList).map fun segment => (kebabSegment segment).toList := by
  have dot : ".".toList = ['.'] := by decide
  have nonempty : ((splitAt '.' name.toList).map kebabSegment).map String.toList ≠ [] := by
    simpa using splitAt_ne_nil '.' name.toList
  have alone : ∀ segment ∈ splitAt '.' name.toList,
      splitAt '.' (kebabSegment segment).toList = [(kebabSegment segment).toList] :=
    fun segment mem =>
      splitAt_of_not_mem (dot_not_mem_kebabSegment (not_mem_of_mem_splitAt mem))
  rw [kebabCase, String.toList_intercalate, dot, splitAt_intercalate '.' nonempty, List.map_map,
    List.flatMap_map]
  exact (List.flatMap_congr alone).trans List.map_eq_flatMap.symm

theorem kebabCase_kebabCase (name : String) :
    kebabCase (kebabCase name) = ".".intercalate ((splitAt '.' name.toList).map fun segment =>
      kebabSegment (kebabSegment segment).toList) := by
  rw [kebabCase, splitAt_kebabCase, List.map_map]
  rfl

theorem lowercase_kebabCase (name : String) : lowercase (kebabCase name) = kebabCase name := by
  refine lowercase_of_settled fun c mem => ?_
  have dot : ".".toList = ['.'] ∧ Settled '.' := ⟨by decide, rfl, rfl⟩
  rw [kebabCase, String.toList_intercalate, dot.1] at mem
  rcases mem_intercalate mem with rfl | mem
  · exact dot.2
  · obtain ⟨_, hw, inside⟩ := List.mem_flatten.1 mem
    obtain ⟨_, hu, rfl⟩ := List.mem_map.1 hw
    obtain ⟨segment, -, rfl⟩ := List.mem_map.1 hu
    exact settled_of_mem_kebabSegment inside

theorem kebabCase_again_iff (name : String) :
    kebabCase (kebabCase name) = kebabCase name ↔
      ∀ segment ∈ splitAt '.' name.toList, IsStable segment := by
  constructor
  · intro same segment mem
    have segments := congrArg (fun name : String => splitAt '.' name.toList) same
    simp only [splitAt_kebabCase, List.map_map] at segments
    exact (kebabSegment_again_iff segment).1
      (String.toList_inj.1 (List.map_inj_left.1 segments segment mem))
  · intro stable
    rw [kebabCase_kebabCase, kebabCase]
    exact congrArg _ (List.map_congr_left fun segment mem =>
      (kebabSegment_again_iff segment).2 (stable segment mem))

/-- A registered name is in small letters and has as many segments as the name it was made of. It
keeps its form when that is made again exactly when every segment of the name is stable: a segment
without words must not have a dotted capital I, and Kelvin signs only if it has nothing else but
single hyphens between them. The form that is made again always stays. -/
theorem kebabCase_stable_iff (name : String) :
    lowercase (kebabCase name) = kebabCase name ∧
      (splitAt '.' (kebabCase name).toList).length = (splitAt '.' name.toList).length ∧
      (kebabCase (kebabCase name) = kebabCase name ↔
        ∀ segment ∈ splitAt '.' name.toList, IsStable segment) ∧
      kebabCase (kebabCase (kebabCase name)) = kebabCase (kebabCase name) := by
  refine ⟨lowercase_kebabCase name, ?_, kebabCase_again_iff name, ?_⟩
  · rw [splitAt_kebabCase, List.length_map]
  · rw [kebabCase_kebabCase (kebabCase name), splitAt_kebabCase, List.map_map, kebabCase_kebabCase]
    exact congrArg _ (List.map_congr_left fun segment _ => kebabSegment_twice segment)

/-- A name with a segment of words, one of Kelvin signs and one without either. -/
theorem kebabCase_stable_iff_mixedName :
    let name := "layouts.PageHeader.\u212a-\u212a.\u00c9_"
    (∀ segment ∈ splitAt '.' name.toList, IsStable segment) ∧
      kebabCase name = "layouts.page-header.k-k.\u00e9_" ∧
      kebabCase (kebabCase name) = kebabCase name := by
  intro name
  have forms : splitAt '.' name.toList =
        ["layouts".toList, "PageHeader".toList, [kelvin, '-', kelvin], ['\u00c9', '_']] ∧
      nameWords "layouts".toList ≠ [] ∧ nameWords "PageHeader".toList ≠ [] ∧
      kebabCase name = "layouts.page-header.k-k.\u00e9_" := by
    decide +kernel
  obtain ⟨cut, layouts, header, form⟩ := forms
  have stable : ∀ segment ∈ splitAt '.' name.toList, IsStable segment := by
    rw [cut]
    simp only [List.forall_mem_cons, List.not_mem_nil, false_imp_iff, implies_true, and_true]
    refine ⟨.inl layouts, .inl header, .inr (.inr ?_), .inr (.inl (by decide))⟩
    exact ⟨[[kelvin], [kelvin]], by simp, rfl⟩
  exact ⟨stable, form, (kebabCase_stable_iff name).2.2.1.2 stable⟩

/-- The registered form of a dotted capital I is a small i and a mark, which are no registered form. -/
theorem dottedI_unstable :
    kebabCase "\u0130" = "i\u0307" ∧ kebabCase "i\u0307" = "i" ∧
      kebabCase (kebabCase "\u0130") ≠ kebabCase "\u0130" := by
  decide +kernel

end HtmlTemplate.Naming
