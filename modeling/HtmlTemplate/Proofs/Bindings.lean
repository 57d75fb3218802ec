import HtmlTemplate.Bindings
import Mathlib.Tactic.SplitIfs

/-!
# Rules of bindings

What reading, binding and dropping names have to do with each other.
-/

namespace HtmlTemplate.Bindings

universe u

variable {α : Type u}

theorem get?_cons (m : String) (v : α) (rest : Bindings α) (n : String) :
    get? ((m, v) :: rest) n = if n = m then some v else get? rest n := by
  by_cases h : n = m
  · simp [get?, h]
  · have hne : (n == m) = false := by simpa using h
    simp [get?, List.lookup_cons, h, hne]

theorem get?_put (b : Bindings α) (name : String) (value : α) (n : String) :
    get? (b.put name value) n = if n = name then some value else get? b n := by
  induction b with
  | nil => exact get?_cons name value [] n
  | cons entry rest ih =>
    obtain ⟨m, v⟩ := entry
    by_cases hm : m = name
    · subst hm
      simp only [put, if_true, get?_cons]
      split_ifs <;> rfl
    · simp only [put, if_neg hm, get?_cons, ih]
      by_cases hn : n = m
      · have hne : n ≠ name := fun h => hm (hn.symm.trans h)
        simp [hn, hm]
      · simp [hn]

theorem mem_of_get? {b : Bindings α} {name : String} {value : α} (h : b.get? name = some value) :
    (name, value) ∈ b := by
  induction b with
  | nil => cases h
  | cons entry rest ih =>
    obtain ⟨m, v⟩ := entry
    rw [get?_cons] at h
    split at h
    · rename_i same
      cases h
      exact same ▸ List.mem_cons_self
    · exact List.mem_cons_of_mem _ (ih h)

theorem get?_of_mem {b : Bindings α} (distinct : b.names.Nodup) {entry : String × α}
    (mem : entry ∈ b) : b.get? entry.1 = some entry.2 := by
  induction b with
  | nil => exact absurd mem List.not_mem_nil
  | cons first rest ih =>
    obtain ⟨fresh, distinct⟩ := List.nodup_cons.1 distinct
    rw [get?_cons]
    rcases List.mem_cons.1 mem with rfl | mem
    · rw [if_pos rfl]
    · have other : entry.1 ≠ first.1 := fun same => fresh (List.mem_map.2 ⟨entry, mem, same⟩)
      rw [if_neg other, ih distinct mem]

theorem get?_filter (b : Bindings α) (p : String → Bool) (n : String) :
    Bindings.get? (b.filter fun entry => p entry.1) n = if p n then b.get? n else none := by
  induction b with
  | nil => exact (ite_self none).symm
  | cons first rest ih =>
    obtain ⟨m, v⟩ := first
    rw [List.filter_cons, get?_cons]
    by_cases h : n = m
    · subst h
      cases hn : p n <;> simp [hn, ih, get?_cons]
    · cases p m <;> simp [ih, get?_cons, h]

theorem isSome_get?_iff (b : Bindings α) (name : String) :
    (get? b name).isSome = true ↔ name ∈ b.names := by
  induction b with
  | nil => simp [get?, names]
  | cons entry rest ih =>
    obtain ⟨m, v⟩ := entry
    rw [get?_cons, names, List.map_cons, List.mem_cons, ← names, ← ih]
    split_ifs with h <;> simp [h]

/-- Of distinct names those are left whose bindings are. -/
theorem get?_filter_of_nodup {b : Bindings α} (distinct : b.names.Nodup) (p : String × α → Bool)
    (n : String) : Bindings.get? (b.filter p) n = (b.get? n).filter fun v => p (n, v) := by
  induction b with
  | nil => rfl
  | cons first rest ih =>
    obtain ⟨m, v⟩ := first
    obtain ⟨fresh, later⟩ := List.nodup_cons.1 distinct
    rw [List.filter_cons, get?_cons]
    by_cases same : n = m
    · subst same
      rw [if_pos rfl, Option.filter_some]
      split_ifs with kept
      · rw [get?_cons, if_pos rfl]
      · have gone : get? rest n = none := by
          rw [← Option.not_isSome_iff_eq_none, isSome_get?_iff]
          exact fresh
        rw [ih later, gone, Option.filter_none]
    · rw [if_neg same, ← ih later]
      split_ifs
      · rw [get?_cons, if_neg same]
      · rfl

theorem get?_erase (b : Bindings α) (name n : String) :
    get? (b.erase name) n = if n = name then none else get? b n := by
  induction b with
  | nil => split_ifs <;> rfl
  | cons entry rest ih =>
    obtain ⟨m, v⟩ := entry
    rw [erase, List.filter_cons, ← erase]
    by_cases hm : m = name
    · subst hm
      simp only [bne_self_eq_false, Bool.false_eq_true, if_false, ih, get?_cons]
      split_ifs <;> rfl
    · have kept : (m != name) = true := by simpa using hm
      simp only [kept, if_true, get?_cons, ih]
      by_cases hn : n = m
      · simp [hn, hm]
      · simp [hn]

theorem erase_first {entry : String × α} {rest : Bindings α}
    (distinct : (names (entry :: rest)).Nodup) : erase (entry :: rest) entry.1 = rest := by
  obtain ⟨fresh, -⟩ := List.nodup_cons.1 distinct
  rw [erase, List.filter_cons_of_neg (by simp)]
  refine List.filter_eq_self.2 fun other mem => ?_
  rw [bne_iff_ne]
  exact fun same => fresh (List.mem_map.2 ⟨other, mem, same⟩)

theorem mem_names_putNew {b : Bindings α} {name n : String} {value : α}
    (mem : n ∈ (putNew b name value).names) : n ∈ b.names ∨ n = name := by
  unfold putNew at mem
  split at mem
  · exact .inl mem
  · simpa [names] using mem

theorem nodup_names_putNew {b : Bindings α} (distinct : b.names.Nodup) (name : String) (value : α) :
    (putNew b name value).names.Nodup := by
  unfold putNew
  split
  · exact distinct
  · rename_i fresh
    have apart : name ∉ b.names := fun mem => fresh ((isSome_get?_iff b name).2 mem)
    rw [names, List.map_append, List.map_singleton, List.nodup_append]
    refine ⟨distinct, by simp, fun m hm n hn => ?_⟩
    rw [List.mem_singleton.1 hn]
    rintro rfl
    exact apart hm

theorem get?_putNew (b : Bindings α) (name : String) (value : α) (n : String) :
    (putNew b name value).get? n = (b.get? n).or (if n = name then some value else none) := by
  unfold putNew
  split
  · rename_i bound
    obtain ⟨old, here⟩ := Option.isSome_iff_exists.1 bound
    split_ifs with same
    · rw [same, here, Option.some_or]
    · rw [Option.or_none]
  · rw [get?, List.lookup_append, ← get?, ← get?, get?_cons]
    rfl

section BoundInTurn

variable {β : Type u} (name : β → String) (value : β → α)

/-- Names that are bound in turn, each unless it is bound already, stay distinct. -/
theorem nodup_names_foldl_putNew (entries : List β) {b : Bindings α} (distinct : b.names.Nodup) :
    (entries.foldl (fun b e => putNew b (name e) (value e)) b).names.Nodup := by
  induction entries generalizing b with
  | nil => exact distinct
  | cons e entries ih => exact ih (nodup_names_putNew distinct _ _)

/-- Of the values that are bound to a name in turn the first one counts. -/
theorem get?_foldl_putNew (entries : List β) (b : Bindings α) (n : String) :
    (entries.foldl (fun b e => putNew b (name e) (value e)) b).get? n =
      (b.get? n).or ((entries.map fun e => (name e, value e)).lookup n) := by
  induction entries generalizing b with
  | nil => simp
  | cons e entries ih =>
    rw [List.foldl_cons, ih, get?_putNew, Option.or_assoc, List.map_cons, ← get?, ← get?, get?_cons]
    split_ifs <;> simp

end BoundInTurn

/-! ### Bindings over others -/

theorem has_iff {b : Bindings α} {name : String} : b.has name = true ↔ name ∈ b.names :=
  isSome_get?_iff b name

theorem get?_eq_none_iff {b : Bindings α} {name : String} :
    b.get? name = none ↔ name ∉ b.names := by
  rw [← isSome_get?_iff, Bool.not_eq_true, Option.isSome_eq_false_iff, Option.isNone_iff_eq_none]

/-- Of bindings that are laid over others the upper ones count. -/
theorem get?_overlay {upper : Bindings α} (distinct : upper.names.Nodup) (b : Bindings α)
    (n : String) : (b.overlay upper).get? n = (upper.get? n).or (b.get? n) := by
  induction upper generalizing b with
  | nil => rfl
  | cons entry upper ih =>
    obtain ⟨m, v⟩ := entry
    obtain ⟨fresh, distinct⟩ := List.nodup_cons.1 distinct
    have later : overlay b ((m, v) :: upper) = overlay (b.put m v) upper := rfl
    rw [later, ih distinct, get?_put, get?_cons]
    split_ifs with same
    · have hidden : get? upper n = none := get?_eq_none_iff.2 (same ▸ fresh)
      rw [hidden, Option.none_or, Option.some_or]
    · rfl

/-- A name that is not bound is bound at the end. -/
theorem put_of_fresh {b : Bindings α} {name : String} (fresh : name ∉ b.names) (value : α) :
    b.put name value = b ++ [(name, value)] := by
  induction b with
  | nil => rfl
  | cons entry rest ih =>
    obtain ⟨m, v⟩ := entry
    obtain ⟨hm, hrest⟩ := not_or.1 (mt List.mem_cons.2 fresh)
    rw [put, if_neg (Ne.symm hm), ih hrest, List.cons_append]

/-! ### The other names

What is bound or dropped under one name leaves the bindings of the others as they are, in order. -/

theorem filter_put {p : String → Bool} {name : String} (other : p name = false) (b : Bindings α)
    (value : α) :
    (b.put name value).filter (fun entry => p entry.1) = b.filter fun entry => p entry.1 := by
  induction b with
  | nil => simp [put, other]
  | cons entry rest ih =>
    obtain ⟨m, v⟩ := entry
    by_cases hm : m = name
    · simp [put, hm, other]
    · simp only [put, if_neg hm, List.filter_cons, ih]

theorem filter_erase {p : String → Bool} {name : String} (other : p name = false)
    (b : Bindings α) :
    (b.erase name).filter (fun entry => p entry.1) = b.filter fun entry => p entry.1 := by
  rw [erase, List.filter_filter]
  refine List.filter_congr fun entry _ => ?_
  by_cases h : entry.1 = name
  · simp [h, other]
  · simp [h]

/-! ### The length of names -/

/-- The length of all bound names together. -/
def nameLength : Bindings α → Nat
  | [] => 0
  | entry :: rest => entry.1.length + nameLength rest

theorem nameLength_cons (entry : String × α) (rest : Bindings α) :
    nameLength (entry :: rest) = entry.1.length + nameLength rest := rfl

theorem nameLength_put_le (b : Bindings α) (name : String) (value : α) :
    (b.put name value).nameLength ≤ b.nameLength + name.length := by
  induction b with
  | nil => simp [put, nameLength]
  | cons entry rest ih =>
    obtain ⟨m, v⟩ := entry
    by_cases hm : m = name
    · simp only [put, if_pos hm, nameLength_cons]
      omega
    · simp only [put, if_neg hm, nameLength_cons]
      omega

theorem nameLength_erase_le (b : Bindings α) (name : String) :
    (b.erase name).nameLength ≤ b.nameLength := by
  induction b with
  | nil => exact Nat.le_refl _
  | cons entry rest ih =>
    rw [erase, List.filter_cons, ← erase]
    split_ifs
    · rw [nameLength_cons, nameLength_cons]
      omega
    · rw [nameLength_cons]
      omega

theorem nameLength_erase_add_le {b : Bindings α} {name : String} (bound : name ∈ b.names) :
    (b.erase name).nameLength + name.length ≤ b.nameLength := by
  induction b with
  | nil => exact absurd bound List.not_mem_nil
  | cons entry rest ih =>
    obtain ⟨m, v⟩ := entry
    rw [erase, List.filter_cons, ← erase]
    by_cases hm : m = name
    · subst hm
      have rest_le := nameLength_erase_le rest m
      simp only [bne_self_eq_false, Bool.false_eq_true, if_false, nameLength_cons]
      omega
    · have bound : name ∈ names rest := by
        simpa [names, Ne.symm hm] using bound
      have kept : (m != name) = true := by simpa using hm
      have := ih bound
      simp only [kept, if_true, nameLength_cons]
      omega

end HtmlTemplate.Bindings
