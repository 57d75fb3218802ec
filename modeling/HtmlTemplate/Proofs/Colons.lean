import HtmlTemplate.Naming

/-!
# Names cut at colons

Every cut of a name at a colon leaves the name in two parts, the first of which is not empty. So the
last segment of a name that is cut into segments stands behind a colon (`last_of_splitColons`), and
is shorter than the name; the segments together determine the name (`eq_of_splitColons`). Each
segment but the last ends at the first colon that does not begin it (`splitColons_two_iff`,
`splitColons_three_iff`).
-/

namespace HtmlTemplate.Naming

theorem eq_of_mem_colonCuts {cs : List Char} :
    ∀ cut ∈ colonCuts cs, cs = cut.1 ++ ':' :: cut.2 := by
  induction cs with
  | nil => exact fun cut h => absurd h List.not_mem_nil
  | cons c cs ih =>
    have later (cut : List Char × List Char)
        (h : cut ∈ (colonCuts cs).map fun cut => (c :: cut.1, cut.2)) :
        c :: cs = cut.1 ++ ':' :: cut.2 := by
      obtain ⟨cut', hcut', rfl⟩ := List.mem_map.1 h
      rw [List.cons_append, ← ih cut' hcut']
    intro cut h
    rw [colonCuts.eq_def] at h
    dsimp only at h
    split at h
    · rcases List.mem_cons.1 h with rfl | h
      · rfl
      · exact later cut h
    · exact later cut h

theorem ne_nil_of_mem_colonCuts {cs : List Char} : ∀ cut ∈ colonCuts cs, cut.1 ≠ [] := by
  cases cs with
  | nil => exact fun cut h => absurd h List.not_mem_nil
  | cons c cs =>
    have later (cut : List Char × List Char)
        (h : cut ∈ (colonCuts cs).map fun cut => (c :: cut.1, cut.2)) : cut.1 ≠ [] := by
      obtain ⟨cut', -, rfl⟩ := List.mem_map.1 h
      exact List.cons_ne_nil c cut'.1
    intro cut h
    rw [colonCuts.eq_def] at h
    dsimp only at h
    split at h
    · rcases List.mem_cons.1 h with rfl | h
      · exact List.cons_ne_nil c []
      · exact later cut h
    · exact later cut h

theorem second_ne_empty_of_splitColons {name m slot target : String}
    (h : splitColons 3 name = some [m, slot, target]) : slot ≠ "" := by
  obtain ⟨segments, hsegments, heq⟩ := Option.map_eq_some_iff.1 h
  obtain ⟨_, -, hrest⟩ := List.exists_of_findSome?_eq_some hsegments
  obtain ⟨_, hlater, rfl⟩ := Option.map_eq_some_iff.1 hrest
  obtain ⟨cut, hcut, hlast⟩ := List.exists_of_findSome?_eq_some hlater
  obtain ⟨_, -, rfl⟩ := Option.map_eq_some_iff.1 hlast
  simp only [List.map_cons, List.cons.injEq] at heq
  obtain ⟨-, rfl, -⟩ := heq
  simpa using ne_nil_of_mem_colonCuts cut hcut

/-- The last of some segments is what stands behind a colon of the text. -/
theorem last_of_colonSegments {k : Nat} : ∀ {cs : List Char} {segments : List (List Char)},
    colonSegments (k + 1) cs = some segments → ∃ front last, segments.getLast? = some last ∧
      cs = front ++ ':' :: last ∧ front ≠ [] ∧ last ≠ [] := by
  induction k with
  | zero =>
    intro cs segments h
    obtain ⟨cut, hcut, hrest⟩ := List.exists_of_findSome?_eq_some h
    obtain ⟨rest, hlast, rfl⟩ := Option.map_eq_some_iff.1 hrest
    rw [colonSegments] at hlast
    split at hlast
    · cases hlast
    · rename_i nonempty
      obtain rfl := Option.some.inj hlast
      exact ⟨cut.1, cut.2, rfl, eq_of_mem_colonCuts cut hcut, ne_nil_of_mem_colonCuts cut hcut,
        fun empty => nonempty (List.isEmpty_iff.2 empty)⟩
  | succ k ih =>
    intro cs segments h
    obtain ⟨cut, hcut, hrest⟩ := List.exists_of_findSome?_eq_some h
    obtain ⟨rest, hlater, rfl⟩ := Option.map_eq_some_iff.1 hrest
    obtain ⟨front, last, hlast, behind, -, nonempty⟩ := ih hlater
    refine ⟨cut.1 ++ ':' :: front, last, ?_, ?_, by simp, nonempty⟩
    · rw [List.getLast?_cons, hlast, Option.getD_some]
    · rw [eq_of_mem_colonCuts cut hcut, behind]
      simp

/-- The last segment of a name stands behind a colon that does not begin the name. -/
theorem last_of_splitColons {k : Nat} {name target : String} {segments : List String}
    (h : splitColons (k + 2) name = some segments) (last : segments.getLast? = some target) :
    target ≠ "" ∧ ∃ front, front ≠ [] ∧ name.toList = front ++ ':' :: target.toList := by
  obtain ⟨rows, hrows, rfl⟩ := Option.map_eq_some_iff.1 h
  obtain ⟨front, row, hrow, whole, hfront, nonempty⟩ := last_of_colonSegments hrows
  rw [List.getLast?_map, hrow] at last
  obtain rfl := Option.some.inj last
  exact ⟨fun empty => nonempty (by simpa using empty), front, hfront, by simpa using whole⟩

theorem length_lt_of_splitColons {name m target : String}
    (h : splitColons 2 name = some [m, target]) : target.length < name.length := by
  have last : [m, target].getLast? = some target := rfl
  obtain ⟨-, front, -, whole⟩ := last_of_splitColons h last
  rw [← String.length_toList (s := name), whole, List.length_append, List.length_cons,
    String.length_toList]
  omega

/-! ### Segments together -/

theorem intercalate_of_colonSegments {k : Nat} : ∀ {cs : List Char} {segments : List (List Char)},
    colonSegments k cs = some segments → [':'].intercalate segments = cs ∧ segments ≠ [] := by
  induction k with
  | zero =>
    intro cs segments h
    rw [colonSegments] at h
    split at h
    · cases h
    · obtain rfl := Option.some.inj h
      simp
  | succ k ih =>
    intro cs segments h
    obtain ⟨cut, hcut, hrest⟩ := List.exists_of_findSome?_eq_some h
    obtain ⟨later, hlater, rfl⟩ := Option.map_eq_some_iff.1 hrest
    obtain ⟨joined, nonempty⟩ := ih hlater
    refine ⟨?_, List.cons_ne_nil _ _⟩
    rw [List.intercalate_cons_of_ne_nil nonempty, joined, eq_of_mem_colonCuts cut hcut]
    simp

/-- Two names that are cut into the same segments are the same. -/
theorem eq_of_splitColons {k : Nat} {name name' : String} {segments : List String}
    (h : splitColons k name = some segments) (h' : splitColons k name' = some segments) :
    name = name' := by
  obtain ⟨rows, hrows, rfl⟩ := Option.map_eq_some_iff.1 h
  obtain ⟨rows', hrows', same⟩ := Option.map_eq_some_iff.1 h'
  obtain rfl : rows' = rows := (List.map_inj_right fun _ _ => String.ofList_inj.1).1 same
  rw [← String.toList_inj, ← (intercalate_of_colonSegments hrows).1,
    (intercalate_of_colonSegments hrows').1]

/-! ### The first segment -/

/-- The shortest head stands first among the cuts of a text. -/
theorem exists_colonCuts_cons {front : List Char} (nonempty : front ≠ [])
    (first : ':' ∉ front.tail) (tail : List Char) :
    ∃ later, colonCuts (front ++ ':' :: tail) = (front, tail) :: later := by
  induction front with
  | nil => exact absurd rfl nonempty
  | cons c front ih =>
    cases front with
    | nil => exact ⟨_, rfl⟩
    | cons d front =>
      obtain ⟨other, first⟩ := not_or.1 (mt List.mem_cons.2 first)
      obtain ⟨later, hlater⟩ := ih (List.cons_ne_nil d front) first
      refine ⟨later.map fun cut => (c :: cut.1, cut.2), ?_⟩
      have skipped : colonCuts (c :: d :: (front ++ ':' :: tail)) =
          (colonCuts (d :: (front ++ ':' :: tail))).map fun cut => (c :: cut.1, cut.2) := by
        rw [colonCuts.eq_def]
        dsimp only
        split
        · rename_i same
          exact absurd (List.cons.inj same).1.symm other
        · rfl
      rw [List.cons_append, List.cons_append, skipped, ← List.cons_append, hlater, List.map_cons]

theorem mem_colonCuts {front : List Char} (nonempty : front ≠ []) (tail : List Char) :
    (front, tail) ∈ colonCuts (front ++ ':' :: tail) := by
  induction front with
  | nil => exact absurd rfl nonempty
  | cons c front ih =>
    cases front with
    | nil =>
      obtain ⟨later, cuts⟩ := exists_colonCuts_cons (List.cons_ne_nil c []) (by simp) tail
      rw [cuts]
      exact List.mem_cons_self
    | cons d front =>
      have later := List.mem_map_of_mem (f := fun cut => (c :: cut.1, cut.2))
        (ih (List.cons_ne_nil d front))
      rw [colonCuts.eq_def]
      dsimp only [List.cons_append]
      split
      · exact List.mem_cons_of_mem _ later
      · exact later

/-- What stands in front of a text that is cut into segments does not keep it from being cut. -/
theorem isSome_colonSegments_append {k : Nat} {cs : List Char}
    (cuts : (colonSegments k cs).isSome = true) (front : List Char) :
    (colonSegments k (front ++ cs)).isSome = true := by
  cases k with
  | zero =>
    rw [colonSegments] at cuts ⊢
    split at cuts
    · cases cuts
    · rename_i nonempty
      rw [if_neg (by simp_all)]
      rfl
  | succ k =>
    obtain ⟨segments, h⟩ := Option.isSome_iff_exists.1 cuts
    obtain ⟨cut, hcut, hrest⟩ := List.exists_of_findSome?_eq_some h
    obtain ⟨later, hlater, -⟩ := Option.map_eq_some_iff.1 hrest
    have nonempty : front ++ cut.1 ≠ [] := by simp [ne_nil_of_mem_colonCuts cut hcut]
    have mem := mem_colonCuts nonempty cut.2
    rw [List.append_assoc, ← eq_of_mem_colonCuts cut hcut] at mem
    rw [colonSegments, List.findSome?_isSome_iff]
    exact ⟨_, mem, by rw [hlater]; rfl⟩

theorem colonSegments_of_first {k : Nat} {front tail : List Char} (nonempty : front ≠ [])
    (first : ':' ∉ front.tail) (cuts : (colonSegments k tail).isSome = true) :
    colonSegments (k + 1) (front ++ ':' :: tail) = (colonSegments k tail).map (front :: ·) := by
  obtain ⟨segments, h⟩ := Option.isSome_iff_exists.1 cuts
  obtain ⟨later, hcuts⟩ := exists_colonCuts_cons nonempty first tail
  rw [colonSegments, hcuts, List.findSome?_cons, h]
  rfl

/-- The first of several segments ends at the first colon that does not begin the text. -/
theorem colonSegments_succ_iff {k : Nat} {cs front : List Char} {later : List (List Char)} :
    colonSegments (k + 1) cs = some (front :: later) ↔
      front ≠ [] ∧ ':' ∉ front.tail ∧
        ∃ tail, cs = front ++ ':' :: tail ∧ colonSegments k tail = some later := by
  constructor
  · intro h
    obtain ⟨cut, hcut, hrest⟩ := List.exists_of_findSome?_eq_some h
    obtain ⟨later', hlater, same⟩ := Option.map_eq_some_iff.1 hrest
    obtain ⟨rfl, rfl⟩ := List.cons.inj same
    have nonempty := ne_nil_of_mem_colonCuts cut hcut
    refine ⟨nonempty, fun mem => ?_, cut.2, eq_of_mem_colonCuts cut hcut, hlater⟩
    -- A colon inside the head would have been the place to cut.
    obtain ⟨before, after, hfront, first⟩ := List.eq_append_cons_of_mem mem
    obtain ⟨c, front, whole⟩ := List.exists_cons_of_ne_nil nonempty
    rw [whole, List.tail_cons] at hfront
    have longer : (colonSegments k (after ++ ':' :: cut.2)).isSome = true := by
      have shorter : (colonSegments k cut.2).isSome = true := Option.isSome_iff_exists.2 ⟨_, hlater⟩
      rw [← List.singleton_append, ← List.append_assoc]
      exact isSome_colonSegments_append shorter _
    have earlier := colonSegments_of_first (List.cons_ne_nil c before) first longer
    have text : c :: before ++ ':' :: (after ++ ':' :: cut.2) = cs := by
      rw [eq_of_mem_colonCuts cut hcut, whole, hfront]
      simp
    rw [text, h] at earlier
    obtain ⟨_, -, heads⟩ := Option.map_eq_some_iff.1 earlier.symm
    have heads' := (List.cons.inj heads).1.trans (whole.trans (by rw [hfront]))
    have shorter := congrArg List.length heads'
    simp only [List.length_cons, List.length_append] at shorter
    omega
  · rintro ⟨nonempty, first, tail, rfl, cuts⟩
    rw [colonSegments_of_first nonempty first (Option.isSome_iff_exists.2 ⟨_, cuts⟩), cuts]
    rfl

theorem colonSegments_zero_iff {cs segment : List Char} :
    colonSegments 0 cs = some [segment] ↔ cs = segment ∧ segment ≠ [] := by
  rw [colonSegments]
  split
  · rename_i empty
    refine ⟨fun h => (nomatch h), fun ⟨same, nonempty⟩ => absurd (List.isEmpty_iff.1 empty) ?_⟩
    exact same ▸ nonempty
  · rename_i nonempty
    rw [List.isEmpty_iff] at nonempty
    simp only [Option.some.injEq, List.cons.injEq, and_true]
    exact ⟨fun same => ⟨same, same ▸ nonempty⟩, And.left⟩

/-! ### Segments of a name -/

theorem splitColons_eq_some_iff {k : Nat} {name : String} {segments : List String} :
    splitColons (k + 1) name = some segments ↔
      colonSegments k name.toList = some (segments.map String.toList) := by
  have same : segments = (segments.map String.toList).map String.ofList := by simp
  rw [splitColons, Nat.add_sub_cancel]
  refine ⟨fun h => ?_, fun h => by rw [h, Option.map_some, ← same]⟩
  obtain ⟨rows, hrows, whole⟩ := Option.map_eq_some_iff.1 h
  rw [hrows, (List.map_inj_right fun _ _ => String.ofList_inj.1).1 (whole.trans same)]

theorem splitColons_two_iff {name m target : String} :
    splitColons 2 name = some [m, target] ↔
      name = m ++ ":" ++ target ∧ m ≠ "" ∧ ':' ∉ m.toList.tail ∧ target ≠ "" := by
  constructor
  · intro h
    obtain ⟨nonempty, first, tail, whole, last⟩ :=
      colonSegments_succ_iff.1 (splitColons_eq_some_iff.1 h)
    obtain ⟨rfl, rest⟩ := colonSegments_zero_iff.1 last
    exact ⟨String.toList_inj.1 (by simpa using whole), by simpa using nonempty, first,
      by simpa using rest⟩
  · rintro ⟨rfl, nonempty, first, rest⟩
    refine splitColons_eq_some_iff.2 (colonSegments_succ_iff.2 ⟨by simpa using nonempty, first, ?_⟩)
    exact ⟨target.toList, by simp, colonSegments_zero_iff.2 ⟨rfl, by simpa using rest⟩⟩

theorem splitColons_three_iff {name m slot target : String} :
    splitColons 3 name = some [m, slot, target] ↔
      name = m ++ ":" ++ slot ++ ":" ++ target ∧ (m ≠ "" ∧ ':' ∉ m.toList.tail) ∧
        (slot ≠ "" ∧ ':' ∉ slot.toList.tail) ∧ target ≠ "" := by
  constructor
  · intro h
    obtain ⟨nonempty, first, tail, whole, later⟩ :=
      colonSegments_succ_iff.1 (splitColons_eq_some_iff.1 h)
    obtain ⟨nonempty', first', tail', rfl, last⟩ := colonSegments_succ_iff.1 later
    obtain ⟨rfl, rest⟩ := colonSegments_zero_iff.1 last
    exact ⟨String.toList_inj.1 (by simpa using whole), ⟨by simpa using nonempty, first⟩,
      ⟨by simpa using nonempty', first'⟩, by simpa using rest⟩
  · rintro ⟨rfl, ⟨nonempty, first⟩, ⟨nonempty', first'⟩, rest⟩
    refine splitColons_eq_some_iff.2 (colonSegments_succ_iff.2 ⟨by simpa using nonempty, first, ?_⟩)
    refine ⟨slot.toList ++ ':' :: target.toList, by simp, colonSegments_succ_iff.2 ?_⟩
    exact ⟨by simpa using nonempty', first', target.toList, rfl,
      colonSegments_zero_iff.2 ⟨rfl, by simpa using rest⟩⟩

end HtmlTemplate.Naming
