import HtmlTemplate.Proofs.SmallLetters
import HtmlTemplate.Script.Grammar
import Mathlib.Data.List.TakeDrop
import Mathlib.Data.List.TakeWhile

/-!
# Names in programs

`readProgram_name` says which texts are read as names: a text that `IsName` holds of is cut into a
single token, and this token is passed up through all ranks of expressions as it is.
-/

namespace HtmlTemplate

/-! ### Characters of identifiers -/

namespace Text

theorem inRanges_iff {ranges : List (Nat × Nat)} {n : Nat} :
    inRanges ranges n = true ↔ ∃ r ∈ ranges, r.1 ≤ n ∧ n ≤ r.2 := by
  simp [inRanges]

/-- Ranges are passed over while they lie within the next one of `outer`; when nothing is left of
them, each lies within some range of `outer`. -/
theorem exists_outer_range {outer inner : List (Nat × Nat)}
    (covered : outer.foldl (fun left r' => left.dropWhile fun r =>
      decide (r'.1 ≤ r.1) && decide (r.2 ≤ r'.2)) inner = []) :
    ∀ r ∈ inner, ∃ r' ∈ outer, r'.1 ≤ r.1 ∧ r.2 ≤ r'.2 := by
  induction outer generalizing inner with
  | nil =>
    obtain rfl : inner = [] := covered
    exact fun r mem => absurd mem List.not_mem_nil
  | cons r' outer ih =>
    intro r mem
    rw [← List.takeWhile_append_dropWhile (p := fun r : Nat × Nat =>
      decide (r'.1 ≤ r.1) && decide (r.2 ≤ r'.2)) (l := inner), List.mem_append] at mem
    rcases mem with within | left
    · have bounds := List.mem_takeWhile_imp within
      rw [Bool.and_eq_true, decide_eq_true_eq, decide_eq_true_eq] at bounds
      exact ⟨r', List.mem_cons_self, bounds⟩
    · obtain ⟨r'', mem, bounds⟩ := ih covered r left
      exact ⟨r'', List.mem_cons_of_mem _ mem, bounds⟩

theorem isIdentifierRest_of_start {c : Char} (start : isIdentifierStart c = true) :
    isIdentifierRest c = true := by
  by_cases early : c.toNat < 128
  · have table : ∀ n : Fin 128, isIdentifierStart (Char.ofNat n) = true →
        isIdentifierRest (Char.ofNat n) = true := by decide +kernel
    obtain ⟨n, rfl⟩ := exists_fin_of_ascii early
    exact table n start
  · have covered : ∀ r ∈ identifierStartRanges, ∃ r' ∈ identifierRestRanges,
        r'.1 ≤ r.1 ∧ r.2 ≤ r'.2 := exists_outer_range (by decide +kernel)
    rw [isIdentifierStart, if_neg early, inRanges_iff] at start
    rw [isIdentifierRest, if_neg early, inRanges_iff]
    obtain ⟨r, mem, lower, upper⟩ := start
    obtain ⟨r', mem', first, last⟩ := covered r mem
    exact ⟨r', mem', Nat.le_trans first lower, Nat.le_trans upper last⟩

/-- Ranges that hold the surrogates and the blanks that are no early characters. -/
def strangeRanges : List (Nat × Nat) := [
  (0x85, 0x85), (0xa0, 0xa0), (0x1680, 0x1680), (0x2000, 0x200a), (0x2028, 0x2029),
  (0x202f, 0x202f), (0x205f, 0x205f), (0x3000, 0x3000), (0x10f000, 0x10f7ff)]

theorem apart_of_isIdentifierRest {c : Char} (rest : isIdentifierRest c = true)
    (late : ¬ c.toNat < 128) : ∀ r ∈ strangeRanges, c.toNat < r.1 ∨ r.2 < c.toNat := by
  have apart : ∀ r ∈ strangeRanges, ∀ r' ∈ identifierRestRanges, r'.2 < r.1 ∨ r.2 < r'.1 := by
    decide +kernel
  rw [isIdentifierRest, if_neg late, inRanges_iff] at rest
  obtain ⟨r', mem', lower, upper⟩ := rest
  intro r mem
  rcases apart r mem r' mem' with before | behind
  · exact .inl (Nat.lt_of_le_of_lt upper before)
  · exact .inr (Nat.lt_of_lt_of_le behind lower)

theorem isBlank_of_isIdentifierRest {c : Char} (rest : isIdentifierRest c = true) :
    isBlank c = false := by
  by_cases early : c.toNat < 128
  · have table : ∀ n : Fin 128, isIdentifierRest (Char.ofNat n) = true →
        isBlank (Char.ofNat n) = false := by decide +kernel
    obtain ⟨n, rfl⟩ := exists_fin_of_ascii early
    exact table n rest
  · have apart := apart_of_isIdentifierRest rest early
    simp only [strangeRanges, List.forall_mem_cons, List.not_mem_nil, false_implies,
      implies_true, and_true] at apart
    rw [← Bool.not_eq_true]
    simp only [isBlank, Bool.or_eq_true, Bool.and_eq_true, decide_eq_true_eq, beq_iff_eq]
    omega

theorem isSurrogate_of_isIdentifierRest {c : Char} (rest : isIdentifierRest c = true) :
    isSurrogate c = false := by
  rw [← Bool.not_eq_true, isSurrogate, Bool.and_eq_true, decide_eq_true_eq, decide_eq_true_eq,
    heldSurrogates]
  by_cases early : c.toNat < 128
  · omega
  · have apart := apart_of_isIdentifierRest rest early (0x10f000, 0x10f7ff) (by decide)
    dsimp only at apart
    omega

theorem isDigit_of_isIdentifierStart {c : Char} (start : isIdentifierStart c = true) :
    c.isDigit = false := by
  by_cases early : c.toNat < 128
  · have table : ∀ n : Fin 128, isIdentifierStart (Char.ofNat n) = true →
        (Char.ofNat n).isDigit = false := by decide +kernel
    obtain ⟨n, rfl⟩ := exists_fin_of_ascii early
    exact table n start
  · rw [← Bool.not_eq_true]
    intro digit
    have last : c.toNat ≤ 57 := by
      rw [Char.isDigit, Bool.and_eq_true, decide_eq_true_eq, decide_eq_true_eq] at digit
      exact digit.2
    omega

theorem ne_of_isIdentifierRest {c d : Char} (rest : isIdentifierRest c = true)
    (other : isIdentifierRest d = false) : c ≠ d := by
  rintro rfl
  rw [rest] at other
  cases other

theorem trim_of_no_blank {cs : List Char} (visible : ∀ c ∈ cs, isBlank c = false) :
    trim cs = cs := by
  have kept : ∀ ds : List Char, (∀ d ∈ ds, isBlank d = false) → ds.dropWhile isBlank = ds := by
    intro ds visible
    cases ds with
    | nil => rfl
    | cons d ds => rw [List.dropWhile_cons_of_neg]; simp [visible d List.mem_cons_self]
  have visible' : ∀ c ∈ cs.reverse, isBlank c = false := fun c mem =>
    visible c (List.mem_reverse.1 mem)
  rw [trim, trimWhile, dropEndWhile, kept cs visible, kept _ visible', List.reverse_reverse]

end Text

namespace Script

open HtmlTemplate.Text

/-- Texts that are names in programs: identifiers in composed form, other than the words of the
grammar and the one name whose value is fixed. -/
def IsName (n : String) : Prop :=
  isIdentifier n = true ∧ composedForm n = n ∧ n ∉ reservedWords ∧ n ≠ "__debug__"

instance (n : String) : Decidable (IsName n) := inferInstanceAs (Decidable (_ ∧ _))

namespace IsName

variable {n : String}

theorem exists_toList (h : IsName n) : ∃ c cs, n.toList = c :: cs ∧
    isIdentifierStart c = true ∧ ∀ d ∈ c :: cs, isIdentifierRest d = true := by
  have form := h.1
  rw [isIdentifier] at form
  split at form
  · cases form
  · rename_i c cs text
    rw [Bool.and_eq_true, List.all_eq_true] at form
    exact ⟨c, cs, text, form.1,
      List.forall_mem_cons.2 ⟨isIdentifierRest_of_start form.1, form.2⟩⟩

theorem isIdentifierRest_of_mem (h : IsName n) {c : Char} (mem : c ∈ n.toList) :
    isIdentifierRest c = true := by
  obtain ⟨d, ds, text, -, rest⟩ := h.exists_toList
  exact rest c (text ▸ mem)

theorem strip_eq (h : IsName n) : strip n = n := by
  have visible : ∀ c ∈ n.toList, isBlank c = false := fun c mem =>
    isBlank_of_isIdentifierRest (h.isIdentifierRest_of_mem mem)
  rw [strip, trim_of_no_blank visible, String.ofList_toList]

end IsName

/-! ### Tokens -/

theorem unifyLineEnds_of_not_mem {cs : List Char} (single : '\r' ∉ cs) :
    unifyLineEnds cs = cs := by
  induction cs with
  | nil => rfl
  | cons c cs ih =>
    obtain ⟨other, single⟩ := not_or.1 (mt List.mem_cons.2 single)
    rw [unifyLineEnds.eq_def]
    split
    · rename_i empty
      cases empty
    · rename_i whole
      exact absurd (List.cons.inj whole).1.symm other
    · rename_i whole
      exact absurd (List.cons.inj whole).1.symm other
    · rename_i whole
      obtain ⟨rfl, rfl⟩ := List.cons.inj whole
      rw [ih single]

/-- An identifier up to the end of the text is one token. -/
theorem lexToken_identifier {c : Char} {cs : List Char} (start : isIdentifierStart c = true)
    (rest : ∀ d ∈ c :: cs, isIdentifierRest d = true) : lexToken (c :: cs) =
      some (if reservedWords.contains (String.ofList (c :: cs)) then .word (String.ofList (c :: cs))
        else .name (composedForm (String.ofList (c :: cs))), []) := by
  have first := rest c List.mem_cons_self
  have quote : (c == '\'' || c == '"') = false := by
    rw [Bool.or_eq_false_iff, beq_eq_false_iff_ne, beq_eq_false_iff_ne]
    exact ⟨ne_of_isIdentifierRest first (by decide), ne_of_isIdentifierRest first (by decide)⟩
  have point : (c == '.') = false :=
    beq_eq_false_iff_ne.2 (ne_of_isIdentifierRest first (by decide))
  have all : (c :: cs).span isIdentifierRest = (c :: cs, []) := by
    rw [List.span_eq_takeWhile_dropWhile, List.takeWhile_eq_self_iff.2 rest,
      List.dropWhile_eq_nil_iff.2 rest]
  rw [lexToken]
  simp only [quote, point, isDigit_of_isIdentifierStart start, start, all, Bool.false_and,
    Bool.or_false, Bool.false_eq_true, if_false, if_true]
  rfl

theorem measure_identifier {c : Char} (first : isIdentifierRest c = true) (cs : List Char) :
    measure {} (c :: cs) = ({}, c :: cs) := by
  have space : c ≠ ' ' := ne_of_isIdentifierRest first (by decide)
  have tab : c ≠ '\t' := ne_of_isIdentifierRest first (by decide)
  have feed : c ≠ '\x0c' := ne_of_isIdentifierRest first (by decide)
  rw [measure.eq_def]
  split
  · rename_i whole
    exact absurd (List.cons.inj whole).1 space
  · rename_i whole
    exact absurd (List.cons.inj whole).1 tab
  · rename_i whole
    exact absurd (List.cons.inj whole).1 feed
  · rfl

theorem lexLines_end (fuel : Nat) (blocks : List Column) (open_ : blocks.drop 1 = []) :
    lexLines (fuel + 2) { lineStart := false, blocks := blocks } [] = [.newline, .stop] := by
  rw [lexLines, if_neg Bool.false_ne_true]
  simp only [if_true]
  rw [lexLines, if_pos rfl]
  simp [measure, open_]

theorem lexLines_token {c : Char} {cs rest : List Char} {t : Token}
    (first : isIdentifierRest c = true) (one : lexToken (c :: cs) = some (t, rest))
    (outside : bracketsAfter 0 t = 0) (fuel : Nat) (blocks : List Column) :
    lexLines (fuel + 1) { lineStart := false, blocks := blocks } (c :: cs) =
      t :: lexLines fuel { lineStart := false, blocks := blocks } rest := by
  have ne {d : Char} (other : isIdentifierRest d = false) : c ≠ d :=
    ne_of_isIdentifierRest first other
  have blank : (c == ' ' || c == '\t' || c == '\x0c') = false := by
    simp only [Bool.or_eq_false_iff, beq_eq_false_iff_ne]
    exact ⟨⟨ne (by decide), ne (by decide)⟩, ne (by decide)⟩
  rw [lexLines.eq_def]
  dsimp only
  rw [if_neg Bool.false_ne_true]
  split
  · rename_i empty
    cases empty
  · rename_i whole
    exact absurd (List.cons.inj whole).1 (ne (by decide))
  · rename_i whole
    exact absurd (List.cons.inj whole).1 (ne (by decide))
  · rename_i whole
    exact absurd (List.cons.inj whole).1 (ne (by decide))
  · rename_i whole
    obtain ⟨rfl, rfl⟩ := List.cons.inj whole
    rw [blank, if_neg Bool.false_ne_true, one]
    dsimp only
    rw [outside, if_neg (by decide)]

/-- A text of one token is one line. -/
theorem lexLines_line {c : Char} {cs : List Char} {t : Token} (first : isIdentifierRest c = true)
    (one : lexToken (c :: cs) = some (t, [])) (outside : bracketsAfter 0 t = 0) (fuel : Nat) :
    lexLines (fuel + 4) {} (c :: cs) = [t, .newline, .stop] := by
  have level : indentation {} [{}] = .ok ([], [{}]) := rfl
  rw [lexLines.eq_def]
  dsimp only
  rw [if_pos rfl, measure_identifier first]
  dsimp only
  split
  · rename_i empty
    cases empty
  · rename_i whole
    exact absurd (List.cons.inj whole).1 (ne_of_isIdentifierRest first (by decide))
  · rename_i whole
    exact absurd (List.cons.inj whole).1 (ne_of_isIdentifierRest first (by decide))
  · rw [level]
    dsimp only [List.nil_append]
    rw [lexLines_token first one outside, lexLines_end _ _ rfl]

theorem tokens_of_isName {n : String} (h : IsName n) : tokens n = [.name n, .newline, .stop] := by
  obtain ⟨-, composed, unreserved, -⟩ := id h
  obtain ⟨c, cs, text, start, rest⟩ := h.exists_toList
  have single : '\r' ∉ c :: cs := fun mem => absurd (rest _ mem) (by decide)
  have one : lexToken (c :: cs) = some (.name n, []) := by
    have spelled : String.ofList (c :: cs) = n := by rw [← text, String.ofList_toList]
    rw [lexToken_identifier start rest, spelled, composed]
    simp [unreserved]
  rw [tokens, text, unifyLineEnds_of_not_mem single]
  exact lexLines_line (rest c List.mem_cons_self) one rfl _

namespace Grammar

/-! ### Ranks -/

variable {α β : Type}

theorem run_bind_of_ok {x : Parse α} {ts rest : List Token} {a : α} (h : x ts = .ok (a, rest))
    (f : α → Parse β) : (x >>= f) ts = f a rest := by
  show (x ts >>= fun p => f p.1 p.2) = f a rest
  rw [h]
  rfl

/-- The rank that an expression of a rank begins with. -/
def Rank.first? : Rank → Option Rank
  | .whole => some .either
  | .either => some .both
  | .both => some .inverse
  | .inverse => some .comparison
  | .comparison => some (.operand 0)
  | .operand level => some (.below level)
  | .signed => some .power
  | .power => some .primary
  | .primary => none

/-- How many ranks there are further down. -/
def Rank.height : Rank → Nat
  | .whole => 13
  | .either => 12
  | .both => 11
  | .inverse => 10
  | .comparison => 9
  | .operand level => 3 + (5 - level)
  | .signed => 2
  | .power => 1
  | .primary => 0

theorem Rank.height_first {rank first : Rank} (h : rank.first? = some first) :
    rank.height = first.height + 1 := by
  cases rank with
  | primary => cases h
  | operand level =>
    obtain rfl := Option.some.inj h
    unfold Rank.below
    by_cases inner : level < 5
    · rw [if_pos inner]
      show 3 + (5 - level) = 3 + (5 - (level + 1)) + 1
      omega
    · rw [if_neg inner]
      show 3 + (5 - level) = 2 + 1
      omega
  | _ =>
    obtain rfl := Option.some.inj h
    rfl

section

variable {n : String} {more : List Token}

/-- A reader takes a name off the front of a line and leaves the end of the line. -/
def TakesName (n : String) (more : List Token) (x : Parse Expr) : Prop :=
  x (.name n :: .newline :: more) = .ok (.name n, .newline :: more)

theorem takesName_primary {read : Rank → Parse Expr} (bindable : n ≠ "__debug__") :
    TakesName n more (primary read) := by
  have one : TakesName n more (atom read) := by
    show Except.ok ((if n == "__debug__" then Expr.literal (.bool true) else .name n),
      Token.newline :: more) = _
    rw [beq_eq_false_iff_ne.2 bindable]
    rfl
  show primary read _ = _
  rw [primary, run_bind_of_ok one]
  rfl

theorem accept_name (wanted : Token → Bool) (other : wanted (.name n) = false) :
    accept wanted (.name n :: .newline :: more) = .ok (false, .name n :: .newline :: more) := by
  show (if wanted (.name n) = true then (advance >>= fun _ => pure true) else pure false)
    (.name n :: .newline :: more) = _
  rw [other]
  rfl

/-- A name at the end of a line is read at a rank as it is read at the rank below. -/
theorem takesName_expressionStep {read : Rank → Parse Expr} (bindable : n ≠ "__debug__")
    {rank : Rank} (below : ∀ first, rank.first? = some first → TakesName n more (read first)) :
    TakesName n more (expressionStep read rank) := by
  unfold TakesName at below ⊢
  cases rank with
  | whole =>
    rw [expressionStep, run_bind_of_ok (accept_name (isWord "lambda") rfl),
      if_neg Bool.false_ne_true, run_bind_of_ok (below .either rfl)]
    rfl
  | either =>
    rw [expressionStep, run_bind_of_ok (below .both rfl)]
    rfl
  | both =>
    rw [expressionStep, run_bind_of_ok (below .inverse rfl)]
    rfl
  | inverse =>
    rw [expressionStep, run_bind_of_ok (accept_name (isWord "not") rfl),
      if_neg Bool.false_ne_true]
    exact below .comparison rfl
  | comparison =>
    rw [expressionStep, run_bind_of_ok (below (.operand 0) rfl)]
    rfl
  | operand level =>
    rw [expressionStep, run_bind_of_ok (below (.below level) rfl)]
    rfl
  | signed =>
    rw [expressionStep]
    exact below .power rfl
  | power =>
    rw [expressionStep, run_bind_of_ok (below .primary rfl)]
    rfl
  | primary => exact takesName_primary bindable

theorem takesName_expressionAt (bindable : n ≠ "__debug__") {fuel : Nat} {rank : Rank}
    (enough : rank.height < fuel) : TakesName n more (expressionAt fuel rank) := by
  induction fuel generalizing rank with
  | zero => exact absurd enough (Nat.not_lt_zero _)
  | succ fuel ih =>
    refine takesName_expressionStep bindable fun first h => ih ?_
    have one := Rank.height_first h
    omega

end

theorem soleExpression_name {n : String} (bindable : n ≠ "__debug__") {fuel : Nat}
    (enough : 13 < fuel) : soleExpression (expressionAt fuel) [.name n, .newline, .stop] =
      .ok (.name n, [.stop]) := by
  have taken : TakesName n [.stop] (expressionAt fuel .whole) :=
    takesName_expressionAt bindable enough
  rw [soleExpression]
  refine (run_bind_of_ok (a := .name n) ((run_bind_of_ok taken _).trans rfl) _).trans ?_
  rfl

end Grammar

/-! ### Programs -/

/-- A name is read as itself. -/
theorem readProgram_name {n : String} (h : IsName n) :
    readProgram .expression n = .ok (.expression (.name n)) := by
  have held : n.toList.any isSurrogate = false := List.any_eq_false.2 fun c mem => by
    rw [isSurrogate_of_isIdentifierRest (h.isIdentifierRest_of_mem mem)]
    exact Bool.false_ne_true
  have null : n.toList.contains '\x00' = false := by
    rw [← Bool.not_eq_true, List.contains_iff_mem]
    exact fun mem => absurd (h.isIdentifierRest_of_mem mem) (by decide)
  have enough : 13 < 16 * (n.length + 4) := by omega
  rw [readProgram]
  dsimp only
  rw [held, null, if_neg Bool.false_ne_true, if_neg Bool.false_ne_true, tokens_of_isName h,
    Grammar.soleExpression_name h.2.2.2 enough]
  rfl

end Script

end HtmlTemplate
