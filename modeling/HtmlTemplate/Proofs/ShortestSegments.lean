import HtmlTemplate.Proofs.Colons
import HtmlTemplate.Text.Pattern
import Mathlib.Data.List.Lex

/-!
# The shortest segments of a name

`splitColons` finds a way to write a name as segments with colons between them whenever there is one,
and of all the ways the one whose first segment is the shortest, then the second, and so on
(`colonSegments_isLeast`). The same segments are what the groups of a search pattern catch that has a
lazy group for each segment but the last one (`run_segmentsRegex`).
-/

namespace HtmlTemplate.Naming

open HtmlTemplate.Text

/-! ### Ways to cut a text -/

/-- A text is some segments with colons between them, none of which is empty. -/
structure Cuts (k : Nat) (cs : List Char) (rows : List (List Char)) : Prop where
  count : rows.length = k + 1
  nonempty : ∀ row ∈ rows, row ≠ []
  joined : [':'].intercalate rows = cs

theorem cuts_zero_iff {cs : List Char} {rows : List (List Char)} :
    Cuts 0 cs rows ↔ rows = [cs] ∧ cs ≠ [] := by
  constructor
  · rintro ⟨count, nonempty, rfl⟩
    obtain ⟨row, rfl⟩ := List.length_eq_one_iff.1 count
    simpa using nonempty
  · rintro ⟨rfl, nonempty⟩
    exact ⟨rfl, by simpa using nonempty, by simp⟩

theorem cuts_succ_iff {k : Nat} {cs : List Char} {rows : List (List Char)} :
    Cuts (k + 1) cs rows ↔ ∃ front later tail, rows = front :: later ∧ front ≠ [] ∧
      cs = front ++ ':' :: tail ∧ Cuts k tail later := by
  constructor
  · rintro ⟨count, nonempty, joined⟩
    obtain ⟨front, later, rfl⟩ := List.exists_cons_of_length_eq_add_one count
    have count' : later.length = k + 1 := by simpa using count
    obtain ⟨first, rest⟩ := List.forall_mem_cons.1 nonempty
    have some : later ≠ [] := fun none => by simp [none] at count'
    refine ⟨front, later, _, rfl, first, ?_, count', rest, rfl⟩
    rw [← joined, List.intercalate_cons_of_ne_nil some]
    simp
  · rintro ⟨front, later, tail, rfl, first, rfl, count, nonempty, rfl⟩
    have some : later ≠ [] := fun none => by simp [none] at count
    refine ⟨by simpa using count, List.forall_mem_cons.2 ⟨first, nonempty⟩, ?_⟩
    rw [List.intercalate_cons_of_ne_nil some]
    simp

theorem cuts_of_colonSegments {k : Nat} : ∀ {cs : List Char} {rows : List (List Char)},
    colonSegments k cs = some rows → Cuts k cs rows := by
  induction k with
  | zero =>
    intro cs rows h
    rw [colonSegments] at h
    split at h
    · cases h
    · rename_i nonempty
      rw [List.isEmpty_iff] at nonempty
      exact cuts_zero_iff.2 ⟨(Option.some.inj h).symm, nonempty⟩
  | succ k ih =>
    intro cs rows h
    obtain ⟨cut, -, hrest⟩ := List.exists_of_findSome?_eq_some h
    obtain ⟨later, -, rfl⟩ := Option.map_eq_some_iff.1 hrest
    obtain ⟨nonempty, -, tail, whole, hlater⟩ := colonSegments_succ_iff.1 h
    exact cuts_succ_iff.2 ⟨_, later, tail, rfl, nonempty, whole, ih hlater⟩

/-- A text that can be cut is cut. -/
theorem exists_colonSegments {k : Nat} : ∀ {cs : List Char} {rows : List (List Char)},
    Cuts k cs rows → ∃ rows', colonSegments k cs = some rows' := by
  induction k with
  | zero =>
    intro cs rows cuts
    obtain ⟨-, nonempty⟩ := cuts_zero_iff.1 cuts
    exact ⟨[cs], colonSegments_zero_iff.2 ⟨rfl, nonempty⟩⟩
  | succ k ih =>
    intro cs rows cuts
    obtain ⟨front, later, tail, -, nonempty, rfl, cuts'⟩ := cuts_succ_iff.1 cuts
    obtain ⟨rows', hrows'⟩ := ih cuts'
    refine Option.isSome_iff_exists.1 ?_
    rw [colonSegments, List.findSome?_isSome_iff]
    exact ⟨_, mem_colonCuts nonempty tail, by simp [hrows']⟩

/-- A segment that goes no further than the first colon behind its first character is the shortest
one. -/
theorem length_le_of_first {front front' tail tail' : List Char} (first : ':' ∉ front.tail)
    (nonempty : front' ≠ []) (same : front ++ ':' :: tail = front' ++ ':' :: tail') :
    front.length ≤ front'.length := by
  refine Nat.le_of_not_lt fun longer => ?_
  obtain ⟨c, row, rfl⟩ := List.exists_cons_of_ne_nil nonempty
  cases front with
  | nil => simp at longer
  | cons d front =>
    have same : front ++ ':' :: tail = row ++ ':' :: tail' := (List.cons.inj same).2
    simp only [List.length_cons, Nat.add_lt_add_iff_right] at longer
    have colon : (front ++ ':' :: tail)[row.length]? = some ':' := by
      rw [same, List.getElem?_append_right (Nat.le_refl _)]
      simp
    rw [List.getElem?_append_left longer] at colon
    exact first (List.mem_of_getElem? colon)

/-- No way to cut the text has a shorter first segment, nor a shorter second one with the same first
one, and so on. -/
theorem colonSegments_isLeast {k : Nat} : ∀ {cs : List Char} {rows other : List (List Char)},
    colonSegments k cs = some rows → Cuts k cs other →
      rows.map List.length ≤ other.map List.length := by
  induction k with
  | zero =>
    intro cs rows other h cuts
    obtain ⟨rfl, -⟩ := cuts_zero_iff.1 (cuts_of_colonSegments h)
    obtain ⟨rfl, -⟩ := cuts_zero_iff.1 cuts
    exact le_rfl
  | succ k ih =>
    intro cs rows other h cuts
    obtain ⟨front, later, tail, rfl, -, -, -⟩ := cuts_succ_iff.1 (cuts_of_colonSegments h)
    obtain ⟨-, first, tail, rfl, hlater⟩ := colonSegments_succ_iff.1 h
    obtain ⟨front', later', tail', rfl, nonempty', same, cuts'⟩ := cuts_succ_iff.1 cuts
    rcases Nat.lt_or_eq_of_le (length_le_of_first first nonempty' same) with shorter | equal
    · exact le_of_lt (List.Lex.rel shorter)
    · obtain ⟨rfl, rest⟩ := List.append_inj same equal
      obtain ⟨-, rfl⟩ := List.cons.inj rest
      exact List.cons_le_cons _ (ih hlater cuts')

/-- Segments of the same lengths that make up the same text are the same. -/
theorem Cuts.eq_of_lengths {k : Nat} : ∀ {cs : List Char} {rows rows' : List (List Char)},
    Cuts k cs rows → Cuts k cs rows' → rows.map List.length = rows'.map List.length →
      rows = rows' := by
  induction k with
  | zero =>
    intro cs rows rows' cuts cuts' _
    rw [(cuts_zero_iff.1 cuts).1, (cuts_zero_iff.1 cuts').1]
  | succ k ih =>
    intro cs rows rows' cuts cuts' lengths
    obtain ⟨front, later, tail, rfl, -, rfl, hlater⟩ := cuts_succ_iff.1 cuts
    obtain ⟨front', later', tail', rfl, -, same, hlater'⟩ := cuts_succ_iff.1 cuts'
    obtain ⟨equal, lengths'⟩ := List.cons.inj lengths
    obtain ⟨rfl, rest⟩ := List.append_inj same equal
    obtain ⟨-, rfl⟩ := List.cons.inj rest
    rw [ih hlater hlater' lengths']

/-! ### The pattern of segments -/

/-- Any character, a line feed among them. -/
def anySign : Regex := .oneOf [] false

/-- The pattern of `k + 1` segments up to the end of the text: as few characters as may be in front
of each colon, and at last as many as there are. The groups are numbered from `i` on. -/
def segmentsRegex (i : Nat) : Nat → Regex
  | 0 => .andThen (.group i (.repeated anySign 1 none true)) .stop
  | k + 1 => .andThen (.group i (.repeated anySign 1 none false))
      (.andThen (.char ':') (segmentsRegex (i + 1) k))

/-- The pattern of a whole name with so many segments. -/
def colonRegex (count : Nat) : Regex := .andThen .start (segmentsRegex 1 (count - 1))

/-- What groups that are numbered from `i` on catch, on top of what was caught before. -/
def caughtRows : Nat → List (List Char) → List (Nat × List Char) → List (Nat × List Char)
  | _, [], caught => caught
  | i, row :: rows, caught => caughtRows (i + 1) rows ((i, row) :: caught)

theorem run_anySign {α : Type} (cur : Cursor) (done : Cursor → Option α) :
    anySign.run cur done = cur.next?.bind fun step => done step.2 := by
  unfold anySign Regex.run Cursor.accept
  cases cur.next? <;> rfl

section Repetition

variable {α : Type} {start : Nat} {caught : List (Nat × List Char)} {done : Cursor → Option α}

/-- The first turn of a repetition of characters moves on by one. -/
theorem repeatMatch_one (greedy : Bool) (fuel n : Nat) (last? : Option Char) (rest : List Char) :
    repeatMatch anySign.run greedy (fuel + 1) 1 none ⟨start + n, last?, rest, caught⟩ done =
      match rest with
      | [] => none
      | c :: cs =>
        repeatMatch anySign.run greedy fuel 0 none ⟨start + (n + 1), some c, cs, caught⟩ done := by
  rw [repeatMatch, run_anySign]
  cases rest with
  | nil => rfl
  | cons c cs => simp [Cursor.next?, Nat.add_assoc]

/-- A lazy repetition ends at once if it may. -/
theorem repeatMatch_lazy (fuel n : Nat) (last? : Option Char) (rest : List Char) :
    repeatMatch anySign.run false (fuel + 1) 0 none ⟨start + n, last?, rest, caught⟩ done =
      (done ⟨start + n, last?, rest, caught⟩).or
        (repeatMatch anySign.run false (fuel + 1) 1 none ⟨start + n, last?, rest, caught⟩ done) := by
  rw [repeatMatch_one, repeatMatch, run_anySign]
  cases rest with
  | nil => simp [Cursor.next?]
  | cons c cs => simp [Cursor.next?, Nat.add_assoc]

/-- A greedy repetition goes on if it may. -/
theorem repeatMatch_greedy (fuel n : Nat) (last? : Option Char) (rest : List Char) :
    repeatMatch anySign.run true (fuel + 1) 0 none ⟨start + n, last?, rest, caught⟩ done =
      (repeatMatch anySign.run true (fuel + 1) 1 none ⟨start + n, last?, rest, caught⟩ done).or
        (done ⟨start + n, last?, rest, caught⟩) := by
  rw [repeatMatch_one, repeatMatch, run_anySign]
  cases rest with
  | nil => simp [Cursor.next?]
  | cons c cs => simp [Cursor.next?, Nat.add_assoc]

end Repetition

/-- What is found behind the colon that a text begins with. -/
def behindColon {α : Type} (found : List Char → Option α) : List Char → Option α
  | ':' :: tail => found tail
  | _ => none

theorem findSome?_colonCuts_cons {α : Type} (c : Char) (cs : List Char)
    (f : List Char × List Char → Option α) :
    (colonCuts (c :: cs)).findSome? f = (behindColon (fun tail => f ([c], tail)) cs).or
      ((colonCuts cs).findSome? fun cut : List Char × List Char => f (c :: cut.1, cut.2)) := by
  rw [colonCuts.eq_def]
  dsimp only
  split
  · rename_i tail
    rw [List.findSome?_cons, List.findSome?_map]
    cases here : f ([c], tail) <;> simp [Function.comp_def, behindColon, here]
  · rename_i other
    rw [List.findSome?_map, behindColon]
    · simp [Function.comp_def]
    · exact other

section Groups

variable {α : Type} {start : Nat} {caught : List (Nat × List Char)} {done : Cursor → Option α}

/-- A lazy repetition ends behind the heads of the cuts, one after another, when what follows it is
found in front of colons only. -/
theorem repeatMatch_colonCuts {whole : List Char} {found : List Char → List Char → Option α}
    (behind : ∀ passed last? rest, passed ++ rest = whole →
      done ⟨start + passed.length, last?, rest, caught⟩ = behindColon (found passed) rest)
    (rest : List Char) : ∀ passed last? fuel, passed ++ rest = whole → rest.length ≤ fuel →
      repeatMatch anySign.run false (fuel + 1) 1 none
          ⟨start + passed.length, last?, rest, caught⟩ done =
        (colonCuts rest).findSome? fun cut => found (passed ++ cut.1) cut.2 := by
  induction rest with
  | nil =>
    intro passed last? fuel _ _
    rw [repeatMatch_one]
    rfl
  | cons c cs ih =>
    intro passed last? fuel together enough
    obtain ⟨fuel, rfl⟩ : ∃ more, fuel = more + 1 :=
      Nat.exists_eq_add_one.2 (Nat.lt_of_lt_of_le (Nat.succ_pos _) enough)
    have further : passed ++ [c] ++ cs = whole := by simpa using together
    have later := ih (passed ++ [c]) (some c) fuel further (by simpa using enough)
    have here := behind (passed ++ [c]) (some c) cs further
    rw [List.length_append, List.length_singleton] at later here
    rw [repeatMatch_one]
    dsimp only
    rw [repeatMatch_lazy, here, later, findSome?_colonCuts_cons]
    simp only [List.append_assoc, List.singleton_append]

/-- A greedy repetition takes all that is left when what follows it is found at the end. -/
theorem repeatMatch_all {total : Nat} {x : α}
    (atEnd : ∀ last?, done ⟨start + total, last?, [], caught⟩ = some x) (rest : List Char) :
    ∀ n last? fuel, n + rest.length = total → rest.length ≤ fuel →
      repeatMatch anySign.run true (fuel + 1) 0 none ⟨start + n, last?, rest, caught⟩ done =
        some x := by
  induction rest with
  | nil =>
    intro n last? fuel whole _
    obtain rfl : n = total := whole
    rw [repeatMatch_greedy, repeatMatch_one, atEnd]
    rfl
  | cons c cs ih =>
    intro n last? fuel whole enough
    rw [List.length_cons] at whole enough
    obtain ⟨fuel, rfl⟩ : ∃ more, fuel = more + 1 := Nat.exists_eq_add_one.2 (by omega)
    rw [repeatMatch_greedy, repeatMatch_one]
    dsimp only
    rw [ih _ _ _ (by omega) (by omega), Option.some_or]

/-- What follows a lazy group is tried behind each cut of the text, the shortest head first. -/
theorem run_lazyGroup (i : Nat) (r : Regex) (cur : Cursor) :
    (Regex.andThen (.group i (.repeated anySign 1 none false)) (.andThen (.char ':') r)).run
        cur done =
      (colonCuts cur.rest).findSome? fun cut =>
        r.run ⟨cur.index + (cut.1.length + 1), some ':', cut.2, (i, cut.1) :: cur.caught⟩ done := by
  have behind (passed : List Char) (last? : Option Char) (rest : List Char)
      (together : passed ++ rest = cur.rest) :
      (Regex.andThen (.char ':') r).run ⟨cur.index + passed.length, last?, rest,
          (i, cur.rest.take (cur.index + passed.length - cur.index)) :: cur.caught⟩ done =
        behindColon (fun tail => r.run ⟨cur.index + (passed.length + 1), some ':', tail,
          (i, passed) :: cur.caught⟩ done) rest := by
    rw [← together, Nat.add_sub_cancel_left, List.take_left]
    simp only [Regex.run, Cursor.accept]
    cases rest with
    | nil => rfl
    | cons c rest =>
      by_cases colon : c = ':'
      · rw [colon]
        rfl
      · simp [Cursor.next?, colon, behindColon]
  exact @repeatMatch_colonCuts α cur.index cur.caught _ cur.rest (fun passed tail =>
      r.run ⟨cur.index + (passed.length + 1), some ':', tail, (i, passed) :: cur.caught⟩ done)
    behind cur.rest [] cur.last? (1 + cur.rest.length) rfl (by omega)

/-- The last group catches all that is left, if anything is. -/
theorem run_lastGroup (i : Nat) (f : List (Nat × List Char) → α) (cur : Cursor) :
    (Regex.andThen (.group i (.repeated anySign 1 none true)) .stop).run cur
        (fun cur' => some (f cur'.caught)) =
      if cur.rest.isEmpty then none else some (f ((i, cur.rest) :: cur.caught)) := by
  obtain ⟨start, last?, rest, caught⟩ := cur
  cases rest with
  | nil =>
    simp only [Regex.run]
    exact repeatMatch_one true _ 0 last? []
  | cons c cs =>
    simp only [Regex.run]
    refine (repeatMatch_one true _ 0 last? (c :: cs)).trans ?_
    refine repeatMatch_all (fun last? => ?_) cs 1 (some c) _ (Nat.add_comm 1 cs.length) (by simp)
    have text : (c :: cs).take (start + (cs.length + 1) - start) = c :: cs := by
      rw [Nat.add_sub_cancel_left, ← List.length_cons, List.take_length]
    dsimp only
    rw [text, if_pos (.inl rfl)]

/-- What the groups of the pattern of segments catch. -/
theorem run_segmentsRegex (f : List (Nat × List Char) → α) (k : Nat) : ∀ i (cur : Cursor),
    (segmentsRegex i k).run cur (fun cur' => some (f cur'.caught)) =
      (colonSegments k cur.rest).map fun rows => f (caughtRows i rows cur.caught) := by
  induction k with
  | zero =>
    intro i cur
    rw [segmentsRegex, run_lastGroup, colonSegments]
    split <;> rfl
  | succ k ih =>
    intro i cur
    rw [segmentsRegex, run_lazyGroup, colonSegments, List.map_findSome?]
    simp only [ih, Function.comp_def, Option.map_map]
    rfl

end Groups

theorem lookup_caughtRows_of_lt {j : Nat} (rows : List (List Char)) :
    ∀ {i : Nat} {caught : List (Nat × List Char)}, j < i →
      (caughtRows i rows caught).lookup j = caught.lookup j := by
  induction rows with
  | nil => exact fun _ => rfl
  | cons row rows ih =>
    intro i caught before
    have other : (j == i) = false := by simp; omega
    rw [caughtRows, ih (by omega), List.lookup_cons, other]

theorem map_lookup_caughtRows (rows : List (List Char)) :
    ∀ (i : Nat) (caught : List (Nat × List Char)),
      (List.range' i rows.length).map (fun j => (caughtRows i rows caught).lookup j) =
        rows.map some := by
  induction rows with
  | nil => exact fun i caught => rfl
  | cons row rows ih =>
    intro i caught
    have first : (caughtRows (i + 1) rows ((i, row) :: caught)).lookup i = some row := by
      rw [lookup_caughtRows_of_lt rows (Nat.lt_succ_self i), List.lookup_cons_self]
    rw [List.length_cons, List.range'_succ, List.map_cons, List.map_cons]
    simp only [caughtRows, first, ih]

/-! ### Names -/

/-- A name is so many segments with colons between them, none of which is empty. -/
structure IsCut (count : Nat) (name : String) (segments : List String) : Prop where
  count : segments.length = count
  nonempty : ∀ segment ∈ segments, segment ≠ ""
  joined : ":".intercalate segments = name

theorem isCut_iff {k : Nat} {name : String} {segments : List String} :
    IsCut (k + 1) name segments ↔ Cuts k name.toList (segments.map String.toList) := by
  have colon : ":".toList = [':'] := by decide
  constructor
  · rintro ⟨count, nonempty, rfl⟩
    refine ⟨by simpa using count, by simpa using nonempty, ?_⟩
    rw [String.toList_intercalate, colon]
  · rintro ⟨count, nonempty, joined⟩
    refine ⟨by simpa using count, by simpa using nonempty, ?_⟩
    rw [← String.toList_inj, String.toList_intercalate, colon, joined]

theorem map_length_toList (segments : List String) :
    (segments.map String.toList).map List.length = segments.map String.length := by
  rw [List.map_map]
  exact List.map_congr_left fun s _ => s.length_toList

/-- The groups of the pattern of segments catch the segments of a name, and the pattern does not
match a name that has none. -/
theorem run_colonRegex (k : Nat) (name : String) :
    (colonRegex (k + 1)).run ⟨0, none, name.toList, []⟩
        (fun cur => some ((List.range' 1 (k + 1)).map (groupText? cur.caught))) =
      (splitColons (k + 1) name).map (·.map some) := by
  refine (run_segmentsRegex (fun caught => (List.range' 1 (k + 1)).map (groupText? caught)) k 1
    ⟨0, none, name.toList, []⟩).trans ?_
  rw [splitColons, Nat.add_sub_cancel, Option.map_map]
  cases found : colonSegments k name.toList with
  | none => rfl
  | some rows =>
    have texts := congrArg (List.map (Option.map String.ofList)) (map_lookup_caughtRows rows 1 [])
    rw [(cuts_of_colonSegments found).count, List.map_map] at texts
    refine congrArg some (texts.trans ?_)
    simp

/-- A name is cut into segments exactly when it is so many segments with colons between them, none
of which is empty. Of all such segments these are the ones with the shortest first segment, then the
shortest second one, and so on; they make up the name, and its last characters, whichever they are,
are the last segment. They are what the groups of the pattern of segments catch. -/
theorem splitColons_shortest {count : Nat} (positive : 1 ≤ count) (name : String) :
    (splitColons count name = none ↔ ∀ segments, ¬ IsCut count name segments) ∧
      (∀ segments, splitColons count name = some segments ↔ IsCut count name segments ∧
        ∀ other, IsCut count name other →
          segments.map String.length ≤ other.map String.length) ∧
      (∀ segments last, splitColons count name = some segments →
        segments.getLast? = some last → ∃ front, name = front ++ last) ∧
      (colonRegex count).run ⟨0, none, name.toList, []⟩
          (fun cur => some ((List.range' 1 count).map (groupText? cur.caught))) =
        (splitColons count name).map (·.map some) := by
  obtain ⟨k, rfl⟩ : ∃ k, count = k + 1 := Nat.exists_eq_add_one.2 positive
  have cuts {segments : List String} (h : splitColons (k + 1) name = some segments) :
      IsCut (k + 1) name segments :=
    isCut_iff.2 (cuts_of_colonSegments (splitColons_eq_some_iff.1 h))
  have least {segments other : List String} (h : splitColons (k + 1) name = some segments)
      (cut : IsCut (k + 1) name other) :
      segments.map String.length ≤ other.map String.length := by
    rw [← map_length_toList, ← map_length_toList]
    exact colonSegments_isLeast (splitColons_eq_some_iff.1 h) (isCut_iff.1 cut)
  have found {other : List String} (cut : IsCut (k + 1) name other) :
      ∃ segments, splitColons (k + 1) name = some segments := by
    obtain ⟨rows, hrows⟩ := exists_colonSegments (isCut_iff.1 cut)
    exact ⟨rows.map String.ofList, splitColons_eq_some_iff.2 (by simpa using hrows)⟩
  refine ⟨⟨fun none segments cut => ?_, fun never => ?_⟩, fun segments => ⟨fun h => ?_, ?_⟩,
    fun segments last h hlast => ?_, run_colonRegex k name⟩
  · obtain ⟨_, h⟩ := found cut
    exact absurd (none.symm.trans h) (by simp)
  · refine Option.eq_none_iff_forall_ne_some.2 fun segments h => never segments (cuts h)
  · exact ⟨cuts h, fun other => least h⟩
  · rintro ⟨cut, shortest⟩
    obtain ⟨segments', h⟩ := found cut
    have lengths := le_antisymm (least h cut) (shortest segments' (cuts h))
    rw [← map_length_toList, ← map_length_toList] at lengths
    have same := (isCut_iff.1 (cuts h)).eq_of_lengths (isCut_iff.1 cut) lengths
    rw [h, (List.map_inj_right fun _ _ => String.toList_inj.1).1 same]
  · cases k with
    | zero =>
      obtain ⟨whole, -⟩ := cuts_zero_iff.1 (isCut_iff.1 (cuts h))
      obtain ⟨segment, rfl, same⟩ := List.map_eq_singleton_iff.1 whole
      obtain rfl := Option.some.inj hlast
      exact ⟨"", by simpa using (String.toList_inj.1 same).symm⟩
    | succ k =>
      obtain ⟨-, front, -, whole⟩ := last_of_splitColons h hlast
      exact ⟨String.ofList (front ++ [':']), String.toList_inj.1 (by simpa using whole)⟩

/-- A name with colons side by side and a line feed at its end, which can be cut elsewhere too. -/
theorem splitColons_shortest_doubledColon :
    let name := "attr::b:\n"
    1 ≤ 3 ∧ splitColons 3 name = some ["attr", ":b", "\n"] ∧
      IsCut 3 name ["attr:", "b", "\n"] ∧
      ["attr", ":b", "\n"].map String.length ≤ ["attr:", "b", "\n"].map String.length ∧
      (∃ front, name = front ++ "\n") ∧ ∀ segments, ¬ IsCut 5 name segments := by
  intro name
  have positive : 1 ≤ 3 := by decide
  have segments : splitColons 3 name = some ["attr", ":b", "\n"] := by decide
  have other : IsCut 3 name ["attr:", "b", "\n"] := ⟨rfl, by decide, by decide⟩
  obtain ⟨-, least, last, -⟩ := splitColons_shortest positive name
  exact ⟨positive, segments, other, ((least _).1 segments).2 _ other,
    last _ "\n" segments rfl, (splitColons_shortest (by decide) name).1.1 (by decide)⟩

end HtmlTemplate.Naming
