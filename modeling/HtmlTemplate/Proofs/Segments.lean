import HtmlTemplate.Naming

/-!
# Texts cut at a separator

`splitAt` cuts a text into segments without the separator (`not_mem_of_mem_splitAt`), in which
every other character of the text is found again (`exists_mem_splitAt`). A text that is put together
of pieces with the separator between them falls into the segments of the pieces
(`splitAt_intercalate`).
-/

namespace HtmlTemplate.Naming

variable {sep : Char} {cs segment : List Char}

theorem splitAt_ne_nil (sep : Char) (cs : List Char) : splitAt sep cs ≠ [] := by
  cases cs with
  | nil => exact List.cons_ne_nil [] []
  | cons c cs =>
    rw [splitAt]
    split
    · exact List.cons_ne_nil _ _
    · split <;> exact List.cons_ne_nil _ _

/-- A text begins with the separator or its first character begins the first segment. -/
theorem splitAt_cons_cases (sep c : Char) (cs : List Char) :
    (c = sep ∧ splitAt sep (c :: cs) = [] :: splitAt sep cs) ∨
      c ≠ sep ∧ ∃ first later, splitAt sep cs = first :: later ∧
        splitAt sep (c :: cs) = (c :: first) :: later := by
  rw [splitAt]
  split
  · rename_i same
    exact .inl ⟨same, rfl⟩
  · rename_i other
    split
    · rename_i empty
      exact absurd empty (splitAt_ne_nil sep cs)
    · rename_i first later found
      exact .inr ⟨other, first, later, found, rfl⟩

theorem not_mem_of_mem_splitAt (h : segment ∈ splitAt sep cs) : sep ∉ segment := by
  induction cs generalizing segment with
  | nil =>
    rw [List.mem_singleton.1 h]
    exact List.not_mem_nil
  | cons c cs ih =>
    obtain ⟨rfl, split⟩ | ⟨other, first, later, found, split⟩ := splitAt_cons_cases sep c cs
    · rw [split] at h
      rcases List.mem_cons.1 h with rfl | h
      · exact List.not_mem_nil
      · exact ih h
    · rw [found] at ih
      rw [split] at h
      rcases List.mem_cons.1 h with rfl | h
      · have rest : sep ∉ first := ih List.mem_cons_self
        simp [rest, Ne.symm other]
      · exact ih (List.mem_cons_of_mem first h)

/-- A segment has the characters of the text, in their order. -/
theorem sublist_of_mem_splitAt (h : segment ∈ splitAt sep cs) : segment.Sublist cs := by
  induction cs generalizing segment with
  | nil =>
    obtain rfl : segment = [] := List.mem_singleton.1 h
    exact List.Sublist.refl []
  | cons c cs ih =>
    obtain ⟨rfl, split⟩ | ⟨-, first, later, found, split⟩ := splitAt_cons_cases sep c cs
    · rw [split] at h
      rcases List.mem_cons.1 h with rfl | h
      · exact List.nil_sublist _
      · exact (ih h).cons c
    · rw [found] at ih
      rw [split] at h
      rcases List.mem_cons.1 h with rfl | h
      · exact (ih List.mem_cons_self).cons_cons c
      · exact (ih (List.mem_cons_of_mem first h)).cons c

/-- A character other than the separator is in a segment. -/
theorem exists_mem_splitAt {c : Char} (mem : c ∈ cs) (other : c ≠ sep) :
    ∃ segment ∈ splitAt sep cs, c ∈ segment := by
  induction cs with
  | nil => exact absurd mem List.not_mem_nil
  | cons d cs ih =>
    obtain ⟨rfl, split⟩ | ⟨-, first, later, found, split⟩ := splitAt_cons_cases sep d cs
    · obtain ⟨segment, hsegment, inside⟩ := ih ((List.mem_cons.1 mem).resolve_left other)
      exact ⟨segment, split ▸ List.mem_cons_of_mem [] hsegment, inside⟩
    · rw [split]
      rcases List.mem_cons.1 mem with rfl | mem
      · exact ⟨c :: first, List.mem_cons_self, List.mem_cons_self⟩
      · obtain ⟨segment, hsegment, inside⟩ := ih mem
        rw [found] at hsegment
        rcases List.mem_cons.1 hsegment with rfl | hsegment
        · exact ⟨d :: segment, List.mem_cons_self, List.mem_cons_of_mem d inside⟩
        · exact ⟨segment, List.mem_cons_of_mem _ hsegment, inside⟩

theorem splitAt_of_not_mem (h : sep ∉ cs) : splitAt sep cs = [cs] := by
  induction cs with
  | nil => rfl
  | cons c cs ih =>
    have other : c ≠ sep := fun same => h (by simp [same])
    rw [splitAt, if_neg other, ih fun mem => h (List.mem_cons_of_mem c mem)]

theorem splitAt_append_cons (sep : Char) (as bs : List Char) :
    splitAt sep (as ++ sep :: bs) = splitAt sep as ++ splitAt sep bs := by
  induction as with
  | nil => simp [splitAt]
  | cons c as ih =>
    rw [List.cons_append, splitAt, splitAt, ih]
    split
    · rfl
    · cases found : splitAt sep as with
      | nil => exact absurd found (splitAt_ne_nil sep as)
      | cons first later => rfl

/-- Pieces with separators between them fall into their segments. -/
theorem splitAt_intercalate (sep : Char) {pieces : List (List Char)} (some : pieces ≠ []) :
    splitAt sep ([sep].intercalate pieces) = pieces.flatMap (splitAt sep) := by
  induction pieces with
  | nil => exact absurd rfl some
  | cons p ps ih =>
    cases ps with
    | nil => simp
    | cons q qs =>
      rw [List.intercalate_cons_cons, List.append_assoc, List.singleton_append,
        splitAt_append_cons, ih (List.cons_ne_nil q qs)]
      rfl

/-! ### Pieces put together -/

theorem mem_intercalate {c : Char} {pieces : List (List Char)}
    (mem : c ∈ [sep].intercalate pieces) : c = sep ∨ c ∈ pieces.flatten := by
  induction pieces with
  | nil => cases mem
  | cons p ps ih =>
    cases ps with
    | nil => exact .inr (by simpa using mem)
    | cons q qs =>
      simp only [List.intercalate_cons_cons, List.mem_append, List.mem_singleton] at mem
      rcases mem with (here | same) | later
      · exact .inr (List.mem_append_left _ here)
      · exact .inl same
      · exact (ih later).imp_right (List.mem_append_right p)

theorem mem_intercalate_of_mem {c : Char} {piece : List Char} {pieces : List (List Char)}
    (hpiece : piece ∈ pieces) (mem : c ∈ piece) : c ∈ [sep].intercalate pieces := by
  induction pieces with
  | nil => exact absurd hpiece List.not_mem_nil
  | cons p ps ih =>
    cases ps with
    | nil =>
      rw [List.mem_singleton.1 hpiece] at mem
      simpa using mem
    | cons q qs =>
      simp only [List.intercalate_cons_cons, List.mem_append]
      rcases List.mem_cons.1 hpiece with rfl | hpiece
      · exact .inl (.inl mem)
      · exact .inr (ih hpiece)

theorem map_intercalate (f : Char → Char) (sep : Char) (pieces : List (List Char)) :
    ([sep].intercalate pieces).map f = [f sep].intercalate (pieces.map (·.map f)) := by
  induction pieces with
  | nil => rfl
  | cons p ps ih =>
    cases ps with
    | nil => simp
    | cons q qs =>
      rw [List.intercalate_cons_cons, List.map_append, List.map_append, ih]
      simp only [List.map_cons, List.map_nil, List.intercalate_cons_cons]

end HtmlTemplate.Naming
