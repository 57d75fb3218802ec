import HtmlTemplate.Text.Blank
import HtmlTemplate.Text.Letter
import Mathlib.Data.List.Basic

/-!
# Small letters

A text in small letters stays as it is when it is put into small letters again
(`lowercase_lowercase`), since small forms are settled characters: each is its own small form
wherever it stands (`settled_of_mem_lowercase`). No character that separates words or delimits
markup is the small form of another one (`mem_lowercase_cases`). Both are facts about the table of
letter cases, read off the ends of its runs.
-/

namespace HtmlTemplate.Text

/-- A character that is its own small form wherever it stands. -/
structure Settled (c : Char) : Prop where
  small : lowerForm c = [c]
  sigma : (c.toNat == 0x3a3) = false

/-- An ASCII character is one of a table of 128. -/
theorem exists_fin_of_ascii {c : Char} (h : c.toNat < 128) : ∃ n : Fin 128, c = Char.ofNat n :=
  ⟨⟨c.toNat, h⟩, (Char.ofNat_toNat c).symm⟩

/-- Blanks and the characters that delimit tags and their parts. -/
def isSeparator (c : Char) : Bool :=
  isBlank c || c == '/' || c == '>' || c == '=' || c == '\x00'

/-! ### Runs of the table -/

/-- The least code point that a run pairs a capital with. -/
def CaseRun.least (r : CaseRun) : Nat := (r.first + r.shift).toNat

/-- The greatest code point that a run pairs a capital with. -/
def CaseRun.greatest (r : CaseRun) : Nat := (r.last + r.shift).toNat

/-- Whether no small letter of one run is a capital of another: the ranges are apart, or capitals
and small letters alternate. -/
def CaseRun.misses (r s : CaseRun) : Bool :=
  Nat.blt r.greatest s.first || Nat.blt s.last r.least ||
    (s.stride == 2 && (r.stride == 2 || r.first == r.last) && (r.least + s.first) % 2 == 1)

/-- Ranges of code points in which no small letter of the table lies: those of the blanks, of the
dotted capital I and of the surrogates among them. -/
def strayRanges : List (Nat × Nat) :=
  [(0, 0x60), (0x85, 0x85), (0xa0, 0xa0), (0x130, 0x130), (0x1680, 0x1680), (0x2000, 0x200a),
    (0x2028, 0x2029), (0x202f, 0x202f), (0x205f, 0x205f), (0x3000, 0x3000), (0xd800, 0xdfff)]

theorem flatMap_parts {α : Type} (l : List α) (k n : Nat) :
    ((List.range n).flatMap fun i => (l.drop (k * i)).take k) = l.take (k * n) := by
  induction n with
  | zero => simp
  | succ n ih => simp [List.range_succ, ih, Nat.mul_succ, List.take_add]

/-- A part of the table. -/
def runsOf (i : Nat) : List CaseRun := (lowercaseRuns.drop (14 * i)).take 14

/-- The range in which the capitals of a part of the table lie. -/
def capitalsOf (i : Nat) : Nat × Nat :=
  ((runsOf i).head?.elim 0 CaseRun.first, (runsOf i).getLast?.elim 0 CaseRun.last)

/-- The small letters of a run lie outside of the range of a part, or miss each run of the part. -/
theorem misses_runsOf :
    (Nat.ble lowercaseRuns.length (14 * 13) && (List.range 13).all fun i =>
      ((runsOf i).all fun s => Nat.ble (capitalsOf i).1 s.first && Nat.ble s.last (capitalsOf i).2) &&
      lowercaseRuns.all fun r => Nat.blt r.greatest (capitalsOf i).1 ||
        Nat.blt (capitalsOf i).2 r.least || (runsOf i).all r.misses) = true := by
  decide +kernel

theorem misses_lowercaseRuns :
    (lowercaseRuns.all fun r => lowercaseRuns.all fun s => r.misses s) = true := by
  obtain ⟨short, parts⟩ := Bool.and_eq_true_iff.1 misses_runsOf
  have whole := flatMap_parts lowercaseRuns 14 13
  rw [List.take_of_length_le (Nat.le_of_ble_eq_true short)] at whole
  refine List.all_eq_true.2 fun r hr => List.all_eq_true.2 fun s hs => ?_
  obtain ⟨i, hi, part⟩ := List.mem_flatMap.1 (whole ▸ hs)
  obtain ⟨inside, beside⟩ := Bool.and_eq_true_iff.1 (List.all_eq_true.1 parts i hi)
  have bounds := List.all_eq_true.1 inside s part
  have apart := List.all_eq_true.1 beside r hr
  simp only [Bool.and_eq_true, Bool.or_eq_true, Nat.ble_eq, Nat.blt_eq] at bounds apart
  rcases apart with apart | near
  · simp only [CaseRun.misses, Bool.or_eq_true, Nat.blt_eq]
    omega
  · exact List.all_eq_true.1 near s part

theorem strayRanges_lowercaseRuns :
    (lowercaseRuns.all fun r => Nat.blt r.greatest 0x110000 &&
      strayRanges.all fun s => Nat.blt r.greatest s.1 || Nat.blt s.2 r.least) = true := by
  decide +kernel

/-- The small letter of a run lies between its ends, at the distance of the capital. -/
theorem CaseRun.partner?_spec {r : CaseRun} {n m : Nat} (h : r.partner? n = some m)
    (positive : 0 < r.least) :
    r.least ≤ m ∧ m ≤ r.greatest ∧ (r.first = r.last → m = r.least) ∧
      (r.stride = 2 → m % 2 = r.least % 2) := by
  unfold CaseRun.partner? at h
  split at h
  · rename_i inside
    have shown := Option.some.inj h
    obtain ⟨above, below, step⟩ := inside
    unfold CaseRun.least at positive ⊢
    unfold CaseRun.greatest
    refine ⟨by omega, by omega, fun single => by omega, fun two => ?_⟩
    rw [two] at step
    omega
  · cases h

theorem CaseRun.partner?_eq_none {r s : CaseRun} {n m : Nat} (h : r.partner? n = some m)
    (positive : 0 < r.least) (apart : r.misses s = true) : s.partner? m = none := by
  obtain ⟨above, below, single, parity⟩ := CaseRun.partner?_spec h positive
  unfold CaseRun.partner?
  refine if_neg fun inside => ?_
  obtain ⟨first, last, step⟩ := inside
  simp only [CaseRun.misses, Bool.or_eq_true, Bool.and_eq_true, Nat.blt_eq, beq_iff_eq] at apart
  rcases apart with (apart | apart) | ⟨⟨two, width⟩, odd⟩
  · omega
  · omega
  · rw [two] at step
    rcases width with width | width
    · have := parity width
      omega
    · have := single width
      omega

/-- A small letter of the table is a character, is no capital of the table, and lies in none of
the other ranges. -/
theorem partner?_lowercaseRuns {n m : Nat} (h : partner? lowercaseRuns n = some m) :
    partner? lowercaseRuns m = none ∧ m < 0x110000 ∧
      ∀ s ∈ strayRanges, ¬ (s.1 ≤ m ∧ m ≤ s.2) := by
  obtain ⟨r, mem, paired⟩ := List.exists_of_findSome?_eq_some h
  obtain ⟨bound, strays⟩ :=
    Bool.and_eq_true_iff.1 (List.all_eq_true.1 strayRanges_lowercaseRuns r mem)
  rw [Nat.blt_eq] at bound
  rw [List.all_eq_true] at strays
  simp only [Bool.or_eq_true, Nat.blt_eq] at strays
  have positive : 0 < r.least := by
    have := strays (0, 0x60) (by decide)
    simp only [Nat.not_lt_zero, false_or] at this
    omega
  obtain ⟨above, below, -⟩ := CaseRun.partner?_spec paired positive
  refine ⟨List.findSome?_eq_none_iff.2 fun s hs => ?_, by omega, fun s hs inside => ?_⟩
  · exact CaseRun.partner?_eq_none paired positive
      (List.all_eq_true.1 (List.all_eq_true.1 misses_lowercaseRuns r mem) s hs)
  · have := strays s hs
    omega

theorem toNat_of_partner? {n m : Nat} (h : partner? lowercaseRuns n = some m) :
    (Char.ofNat m).toNat = m := by
  obtain ⟨-, bound, apart⟩ := partner?_lowercaseRuns h
  have surrogate := apart (0xd800, 0xdfff) (by decide)
  have valid : m.isValidChar := by
    unfold Nat.isValidChar
    omega
  rw [Char.ofNat, dif_pos valid]
  rfl

/-! ### Small forms of characters -/

theorem not_isSeparator_of_strayRanges {c : Char}
    (h : ∀ s ∈ strayRanges, ¬ (s.1 ≤ c.toNat ∧ c.toNat ≤ s.2)) : isSeparator c = false := by
  have mark (d : Char) (low : d.toNat ≤ 0x60) : (c == d) = false := by
    rw [beq_eq_false_iff_ne]
    rintro rfl
    exact h (0, 0x60) (by decide) ⟨Nat.zero_le _, low⟩
  simp only [strayRanges, List.forall_mem_cons] at h
  simp only [isSeparator, mark '/' (by decide), mark '>' (by decide), mark '=' (by decide),
    mark '\x00' (by decide), isBlank, Bool.or_false, Bool.or_eq_false_iff, Bool.and_eq_false_iff,
    decide_eq_false_iff_not, beq_eq_false_iff_ne]
  omega

theorem settled_of_partner? {c : Char} (ascii : c.toNat < 128 → c.toLower = c)
    (h : partner? lowercaseRuns c.toNat = none) (dotted : c.toNat ≠ 0x130) : Settled c := by
  have sigma : (c.toNat == 0x3a3) = false := by
    rw [beq_eq_false_iff_ne]
    intro same
    have paired : partner? lowercaseRuns 0x3a3 = some 0x3c3 := rfl
    rw [same, paired] at h
    cases h
  refine ⟨?_, sigma⟩
  unfold lowerForm lowerChar
  rw [if_neg (by simpa using dotted), h]
  split
  · rw [ascii ‹_›]
  · rfl

theorem settled_of_ascii {c : Char} (h : c.toNat < 128) {d : Char} (mem : d ∈ lowerForm c) :
    Settled d ∧ (d = c ∨ isSeparator d = false) := by
  have table : ∀ n : Fin 128, lowerForm (Char.ofNat n) = [(Char.ofNat n).toLower] ∧
      lowerForm (Char.ofNat n).toLower = [(Char.ofNat n).toLower] ∧
      ((Char.ofNat n).toLower.toNat == 0x3a3) = false ∧
      ((Char.ofNat n).toLower = Char.ofNat n ∨ isSeparator (Char.ofNat n).toLower = false) := by
    decide +kernel
  obtain ⟨n, rfl⟩ := exists_fin_of_ascii h
  obtain ⟨form, small, sigma, kept⟩ := table n
  rw [form, List.mem_singleton] at mem
  subst mem
  exact ⟨⟨small, sigma⟩, kept⟩

/-- The characters of a small form are settled, and none of them is a new separator. -/
theorem settled_of_mem_lowerForm {c d : Char} (mem : d ∈ lowerForm c) :
    Settled d ∧ (d = c ∨ isSeparator d = false) := by
  by_cases ascii : c.toNat < 128
  · exact settled_of_ascii ascii mem
  unfold lowerForm at mem
  split at mem
  · -- The dotted capital I leaves a small i and the dot above.
    have apart : d = 'i' ∨ d = Char.ofNat 0x307 := List.mem_pair.1 mem
    rcases apart with rfl | rfl
    · exact ⟨⟨rfl, rfl⟩, .inr rfl⟩
    · exact ⟨⟨rfl, rfl⟩, .inr rfl⟩
  · rename_i dotted
    rw [beq_iff_eq] at dotted
    rw [List.mem_singleton] at mem
    subst mem
    unfold lowerChar
    rw [if_neg ascii]
    cases paired : partner? lowercaseRuns c.toNat with
    | none => exact ⟨settled_of_partner? (absurd · ascii) paired dotted, .inl rfl⟩
    | some m =>
      obtain ⟨small, -, apart⟩ := partner?_lowercaseRuns paired
      dsimp only
      have code := toNat_of_partner? paired
      rw [← code] at small apart
      have dotted := apart (0x130, 0x130) (by decide)
      have lower (ascii : (Char.ofNat m).toNat < 128) : (Char.ofNat m).toLower = Char.ofNat m := by
        have table : ∀ n : Fin 128, 0x60 < n.val → (Char.ofNat n).toLower = Char.ofNat n := by
          decide +kernel
        have capitals := apart (0, 0x60) (by decide)
        exact table ⟨m, by omega⟩ (by change 0x60 < m; omega)
      exact ⟨settled_of_partner? lower small (by omega),
        .inr (not_isSeparator_of_strayRanges apart)⟩

/-! ### Texts in small letters -/

theorem settled_of_mem_smallForm {before after : List Char} {c d : Char}
    (mem : d ∈ smallForm before c after) : Settled d ∧ (d = c ∨ isSeparator d = false) := by
  unfold smallForm at mem
  split at mem
  · -- Either small sigma is settled.
    rw [List.mem_singleton.1 mem]
    split
    · exact ⟨⟨rfl, rfl⟩, .inr rfl⟩
    · exact ⟨⟨rfl, rfl⟩, .inr rfl⟩
  · exact settled_of_mem_lowerForm mem

/-- A small form begins with one character, and what may follow that is a mark. -/
theorem smallForm_eq_cons (before : List Char) (c : Char) (after : List Char) :
    ∃ d ds, smallForm before c after = d :: ds ∧ ∀ e ∈ ds, isSeparator e = false := by
  unfold smallForm lowerForm
  split
  · exact ⟨_, [], rfl, fun e he => absurd he List.not_mem_nil⟩
  · split
    · refine ⟨'i', [Char.ofNat 0x307], rfl, fun e he => ?_⟩
      rw [List.mem_singleton.1 he]
      rfl
    · exact ⟨_, [], rfl, fun e he => absurd he List.not_mem_nil⟩

theorem settled_of_mem_lowercaseAfter {cs : List Char} : ∀ {before : List Char} {d : Char},
    d ∈ lowercaseAfter before cs → Settled d ∧ (d ∈ cs ∨ isSeparator d = false) := by
  induction cs with
  | nil => exact fun mem => absurd mem List.not_mem_nil
  | cons c cs ih =>
    intro before d mem
    rw [lowercaseAfter, List.mem_append] at mem
    rcases mem with mem | mem
    · obtain ⟨settled, kept⟩ := settled_of_mem_smallForm mem
      exact ⟨settled, kept.imp_left fun same => List.mem_cons.2 (.inl same)⟩
    · obtain ⟨settled, kept⟩ := ih mem
      exact ⟨settled, kept.imp_left (List.mem_cons_of_mem c)⟩

/-- The characters of a text in small letters are settled. -/
theorem settled_of_mem_lowercase {s : String} {d : Char} (mem : d ∈ (lowercase s).toList) :
    Settled d := by
  rw [lowercase, String.toList_ofList] at mem
  exact (settled_of_mem_lowercaseAfter mem).1

/-- The small letters of a text bring no separator into it. -/
theorem mem_lowercase_cases {s : String} {d : Char} (mem : d ∈ (lowercase s).toList) :
    d ∈ s.toList ∨ isSeparator d = false := by
  rw [lowercase, String.toList_ofList] at mem
  exact (settled_of_mem_lowercaseAfter mem).2

/-- Settled characters of a text stay in its small letters. -/
theorem mem_lowercaseAfter {c : Char} (settled : Settled c) {cs : List Char} :
    ∀ {before : List Char}, c ∈ cs → c ∈ lowercaseAfter before cs := by
  induction cs with
  | nil => exact fun mem => absurd mem List.not_mem_nil
  | cons d ds ih =>
    intro before mem
    rw [lowercaseAfter, List.mem_append]
    rcases List.mem_cons.1 mem with rfl | mem
    · left
      rw [smallForm, settled.sigma, if_neg Bool.false_ne_true, settled.small]
      exact List.mem_singleton_self c
    · exact .inr (ih mem)

theorem lowercaseAfter_of_settled {cs : List Char} (settled : ∀ c ∈ cs, Settled c) :
    ∀ before, lowercaseAfter before cs = cs := by
  induction cs with
  | nil => exact fun before => rfl
  | cons c cs ih =>
    intro before
    have hc := settled c List.mem_cons_self
    rw [lowercaseAfter, smallForm, hc.sigma, if_neg Bool.false_ne_true, hc.small,
      ih fun d hd => settled d (List.mem_cons_of_mem c hd), List.singleton_append]

/-- A text of settled characters is in small letters. -/
theorem lowercase_of_settled {s : String} (settled : ∀ c ∈ s.toList, Settled c) :
    lowercase s = s := by
  rw [lowercase, lowercaseAfter_of_settled settled, String.ofList_toList]

theorem lowercase_lowercase (s : String) : lowercase (lowercase s) = lowercase s :=
  lowercase_of_settled fun _ mem => settled_of_mem_lowercase mem

end HtmlTemplate.Text
