import HtmlTemplate.Proofs.Bindings
import HtmlTemplate.Scope
import Mathlib.Data.Set.Card

/-!
# Views of a scope

The bindings of a scope can be looked up, listed, counted and flattened, and each of these ways goes
through the frames on its own. `viewsAgree` says that they show the same names with the same values:
`names` lists what `visibleNames` describes, the names of each frame behind those of the frames
further in.
-/

namespace HtmlTemplate

universe w

variable {α : Type w}

namespace Scope

/-! ### Names without their repetitions -/

theorem mem_firstNames {seen ns : List String} {n : String} :
    n ∈ firstNames seen ns ↔ n ∈ ns ∧ n ∉ seen := by
  induction ns generalizing seen with
  | nil => simp [firstNames]
  | cons m ns ih =>
    rw [firstNames]
    split
    · rename_i known
      have known : m ∈ seen := List.contains_iff_mem.1 known
      rw [ih, List.mem_cons]
      refine ⟨fun ⟨mem, fresh⟩ => ⟨.inr mem, fresh⟩, ?_⟩
      rintro ⟨rfl | mem, fresh⟩
      · exact absurd known fresh
      · exact ⟨mem, fresh⟩
    · rename_i new
      have new : m ∉ seen := mt List.contains_iff_mem.2 new
      rw [List.mem_cons, ih, List.mem_cons, List.mem_cons, not_or]
      by_cases same : n = m
      · subst same
        exact ⟨fun _ => ⟨.inl rfl, new⟩, fun _ => .inl rfl⟩
      · simp [same]

theorem nodup_firstNames (seen ns : List String) : (firstNames seen ns).Nodup := by
  induction ns generalizing seen with
  | nil => exact List.nodup_nil
  | cons m ns ih =>
    rw [firstNames]
    split
    · exact ih seen
    · refine List.nodup_cons.2 ⟨fun mem => ?_, ih (m :: seen)⟩
      exact (mem_firstNames.1 mem).2 List.mem_cons_self

/-- What has been seen is left out. -/
theorem firstNames_eq_filter (seen ns : List String) :
    firstNames seen ns = (firstNames [] ns).filter fun n => !seen.contains n := by
  induction ns generalizing seen with
  | nil => rfl
  | cons m ns ih =>
    rw [firstNames, firstNames, List.contains_nil, if_neg Bool.false_ne_true, ih [m],
      List.filter_cons, List.filter_filter]
    by_cases known : seen.contains m = true
    · rw [if_pos known, known, Bool.not_true, if_neg Bool.false_ne_true, ih seen]
      refine List.filter_congr fun n _ => ?_
      by_cases same : n = m
      · simp [same, List.contains_iff_mem.1 known]
      · simp [same]
    · rw [if_neg known, ih (m :: seen), eq_false_of_ne_true known, Bool.not_false, if_pos rfl]
      congr 1
      refine List.filter_congr fun n _ => ?_
      rw [List.contains_cons, List.contains_cons, List.contains_nil, Bool.or_false, Bool.not_or,
        Bool.and_comm]

theorem firstNames_append {ns : List String} (distinct : ns.Nodup) (seen later : List String)
    (fresh : ∀ n ∈ ns, n ∉ seen) :
    firstNames seen (ns ++ later) = ns ++ firstNames (ns.reverse ++ seen) later := by
  induction ns generalizing seen with
  | nil => rfl
  | cons m ns ih =>
    obtain ⟨apart, distinct⟩ := List.nodup_cons.1 distinct
    obtain ⟨first, fresh⟩ := List.forall_mem_cons.1 fresh
    have fresh' : ∀ n ∈ ns, n ∉ m :: seen := fun n mem known => by
      rcases List.mem_cons.1 known with rfl | known
      · exact apart mem
      · exact fresh n mem known
    rw [List.cons_append, firstNames, if_neg (mt List.contains_iff_mem.1 first),
      ih distinct (m :: seen) fresh', List.reverse_cons, List.append_assoc, List.singleton_append,
      List.cons_append]

/-! ### Frames -/

/-- Every frame has each name once. -/
def Distinct (s : Scope α) : Prop := ∀ frame ∈ s.frames, frame.names.Nodup

/-- The names of some frames: those of the innermost one, and then those that are visible around it
and that it does not have. -/
def visibleNames : List (Bindings α) → List String
  | [] => []
  | frame :: outer =>
    frame.names ++ (visibleNames outer).filter fun name => !frame.names.contains name

theorem firstNames_flatMap_names {frames : List (Bindings α)}
    (distinct : ∀ frame ∈ frames, frame.names.Nodup) :
    firstNames [] (frames.flatMap Bindings.names) = visibleNames frames := by
  induction frames with
  | nil => rfl
  | cons frame outer ih =>
    obtain ⟨inner, distinct⟩ := List.forall_mem_cons.1 distinct
    rw [List.flatMap_cons, firstNames_append inner [] _ (fun _ _ => List.not_mem_nil),
      firstNames_eq_filter, ih distinct, visibleNames]
    congr 1
    refine List.filter_congr fun n _ => ?_
    simp

theorem mem_names_iff {s : Scope α} {name : String} :
    name ∈ s.names ↔ ∃ frame ∈ s.frames, name ∈ frame.names := by
  rw [names, mem_firstNames, List.mem_flatMap]
  exact and_iff_left List.not_mem_nil

theorem has_iff {s : Scope α} {name : String} : s.has name = true ↔ name ∈ s.names := by
  rw [has, List.any_eq_true, mem_names_iff]
  exact exists_congr fun frame => and_congr_right fun _ => Bindings.has_iff

theorem isSome_get?_iff {s : Scope α} {name : String} :
    (s.get? name).isSome = true ↔ name ∈ s.names := by
  rw [get?, List.findSome?_isSome_iff, mem_names_iff]
  refine exists_congr fun frame => and_congr_right fun _ => ?_
  rw [Option.isSome_iff_exists, ← Bindings.isSome_get?_iff, Option.isSome_iff_exists]

theorem item_eq_ok_iff {s : Scope α} {name : String} {v : α} :
    s.item name = .ok v ↔ s.get? name = some v := by
  rw [item]
  split
  · rename_i u found
    rw [found, Except.ok.injEq, Option.some.injEq]
  · rename_i missing
    rw [missing]
    exact ⟨fun h => (nomatch h), fun h => (nomatch h)⟩

/-! ### Frames over each other -/

theorem get?_foldr_overlay {frames : List (Bindings α)}
    (distinct : ∀ frame ∈ frames, frame.names.Nodup) (name : String) :
    (frames.foldr (fun frame below => Bindings.overlay below frame) []).get? name =
      frames.findSome? fun frame => frame.get? name := by
  induction frames with
  | nil => rfl
  | cons frame outer ih =>
    obtain ⟨inner, distinct⟩ := List.forall_mem_cons.1 distinct
    rw [List.foldr_cons, Bindings.get?_overlay inner, ih distinct, List.findSome?_cons]
    cases frame.get? name <;> rfl

/-- The flattened bindings are what lookups find. -/
theorem get?_flatten {s : Scope α} (distinct : s.Distinct) (name : String) :
    s.flatten.get? name = s.get? name :=
  get?_foldr_overlay distinct name

theorem nodup_names_flatten (s : Scope α) : s.flatten.names.Nodup := by
  rw [flatten]
  induction s.frames with
  | nil => exact List.nodup_nil
  | cons frame outer ih => exact Bindings.nodup_names_overlay ih frame

/-! ### All views -/

/-- All views of a scope show the same names with the same values. -/
structure ViewsAgree (s : Scope α) : Prop where
  /-- The names are listed from the inside out. -/
  listed : s.names = visibleNames s.frames
  listed_once : s.names.Nodup
  has_iff : ∀ name, s.has name = true ↔ name ∈ s.names
  item_iff : ∀ name, (∃ v, s.item name = .ok v) ↔ name ∈ s.names
  flatten_iff : ∀ name, name ∈ s.flatten.names ↔ name ∈ s.names
  flatten_once : s.flatten.names.Nodup
  counted : s.size = Set.ncard {name | s.has name = true}
  flatten_item : ∀ name v, s.flatten.get? name = some v ↔ s.item name = .ok v

theorem size_eq_ncard (s : Scope α) : s.size = Set.ncard {name | s.has name = true} := by
  have same : {name | s.has name = true} = (s.names.toFinset : Set String) := by
    ext name
    rw [List.coe_toFinset]
    exact has_iff
  have once : s.names.Nodup := nodup_firstNames [] _
  rw [same, Set.ncard_coe_finset, List.toFinset_card_of_nodup once, size]

theorem viewsAgree {s : Scope α} (distinct : s.Distinct) : s.ViewsAgree where
  listed := firstNames_flatMap_names distinct
  listed_once := nodup_firstNames [] _
  has_iff _ := has_iff
  item_iff name := by
    rw [← isSome_get?_iff, Option.isSome_iff_exists]
    exact exists_congr fun v => item_eq_ok_iff
  flatten_iff name := by
    rw [← Bindings.isSome_get?_iff, get?_flatten distinct, isSome_get?_iff]
  flatten_once := nodup_names_flatten s
  counted := size_eq_ncard s
  flatten_item name v := by rw [get?_flatten distinct, item_eq_ok_iff]

end Scope

end HtmlTemplate
