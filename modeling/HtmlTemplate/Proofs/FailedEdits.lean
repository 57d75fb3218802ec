import HtmlTemplate.Proofs.AddedTrees
import HtmlTemplate.Proofs.Edits

/-!
# Edits that fail

`Edit.outcome` says whether a call of an operation on linked nodes succeeds or why it fails. A call
that fails leaves all nodes as they were (`Unchanged`), except that a node with children but without
a parent has lost its children when it turns out that it cannot be unwrapped
(`failed_edit_keeps_iff`).
-/

namespace HtmlTemplate.Markup.Store

variable {s : Store} {n p : Nat}

/-- The result of a call, without its value. -/
def Edit.outcome (s : Store) : Edit → Except LinkError Unit
  | make _ [] => .ok ()
  | make kind children => (onHolder s.cells.size (·.appendAll s.cells.size children) (s.new kind).2).1
  | remove _ => .ok ()
  | replace n ns => (replaceWith n ns s).1.map fun _ => ()
  | append p n => (onHolder p (·.appendChild p n) s).1
  | prepend p n => (onHolder p (·.prependChild p n) s).1
  | insert p position n => (onHolder p (·.insertChild p position n) s).1
  | extend p ns => (onHolder p (·.appendAll p ns) s).1
  | clear p => (onHolder p (·.clear p) s).1
  | takeChildren p => (onHolder p (·.clear p) s).1
  | unwrap n =>
    if (s.kind n).holdsChildren then (Store.unwrap n s).1.map fun _ => () else .error .wrongKind
  | clone n => (copy n s).1.map fun _ => ()

/-- The nodes of a store have the kinds, parents and children that they had. -/
def Unchanged (s s' : Store) : Prop := ∀ n, s.Has n → s'.cell n = s.cell n

theorem Unchanged.refl (s : Store) : Unchanged s s := fun _ _ => rfl

/-! ### What a failure leaves -/

theorem exists_error_of_map {α β : Type} {x : Except LinkError α} {f : α → β} {e : LinkError}
    (h : x.map f = .error e) : x = .error e := by
  cases x with
  | ok a => cases h
  | error e' => exact congrArg _ (Except.error.inj h)

/-- A change that is refused is not made. -/
theorem onHolder_of_failed {change : Store → Store} {e : LinkError}
    (failed : (onHolder p change s).1 = .error e) : (onHolder p change s).2 = s := by
  unfold onHolder at failed ⊢
  split at failed
  · cases failed
  · rename_i refused
    rw [if_neg refused]

/-- Only a node without a parent is not replaced, and nothing else happens then. -/
theorem replaceWith_of_failed {ns : List Nat} {e : LinkError}
    (failed : (replaceWith n ns s).1 = .error e) :
    e = .detached ∧ s.parent? n = none ∧ (replaceWith n ns s).2 = s := by
  cases link : s.parent? n with
  | none =>
    simp only [replaceWith, link] at failed ⊢
    exact ⟨(Except.error.inj failed).symm, trivial, trivial⟩
  | some p => simp only [replaceWith, link, reduceCtorEq] at failed

theorem copy_of_failed {e : LinkError} (failed : (copy n s).1 = .error e) : (copy n s).2 = s := by
  unfold copy at failed ⊢
  split at failed
  · rfl
  · split at failed
    · cases failed
    · rename_i refused
      simp only [refused]
      rfl

/-- A node that cannot be unwrapped has lost its children by then. -/
theorem WellLinked.unwrap_of_failed (linked : WellLinked s) {e : LinkError}
    (failed : (Store.unwrap n s).1 = .error e) :
    e = .detached ∧ s.parent? n = none ∧ (Store.unwrap n s).2 = s.clear n := by
  obtain ⟨why, top, stays⟩ := replaceWith_of_failed failed
  rw [linked.parent?_clear, if_neg linked.not_mem_children_self] at top
  exact ⟨why, top, stays⟩

/-- A new node that refuses its children leaves the others alone. -/
theorem unchanged_make {kind : NodeKind} {children : List Nat} {e : LinkError}
    (failed : (Edit.make kind children).outcome s = .error e) :
    Unchanged s ((Edit.make kind children).run s) := by
  cases children with
  | nil => cases failed
  | cons n ns =>
    have refused : (Edit.make kind (n :: ns)).run s = (s.new kind).2 := onHolder_of_failed failed
    intro m hm
    rw [refused, cell_new, if_neg (Nat.ne_of_lt hm)]

/-- Taking the children out of a node without any changes nothing. -/
theorem unchanged_clear_iff (linked : WellLinked s) (n : Nat) :
    Unchanged s (s.clear n) ↔ s.children n = [] := by
  constructor
  · intro same
    by_contra some
    obtain ⟨m, mem⟩ := List.exists_mem_of_ne_nil _ some
    have kept : (s.clear n).children n = s.children n :=
      congrArg Cell.children (same n (has_of_mem_children mem))
    rw [WellLinked.children_clear, if_pos rfl] at kept
    exact some kept.symm
  · intro none m _
    refine cell_eq (kind_clear ..) ?_ ?_
    · rw [linked.parent?_clear, none, if_neg List.not_mem_nil]
    · rw [WellLinked.children_clear]
      split_ifs with same
      · rw [same, none]
      · rfl

/-- A call of another operation than unwrapping that fails leaves all nodes as they were. -/
theorem unchanged_of_failed {e : Edit} {error : LinkError} (failed : e.outcome s = .error error)
    (other : ∀ n, e ≠ .unwrap n) : Unchanged s (e.run s) := by
  have refused {s' : Store} (same : s' = s) : Unchanged s s' := same ▸ .refl s
  cases e with
  | make kind children => exact unchanged_make failed
  | remove n => cases failed
  | replace n ns => exact refused (replaceWith_of_failed (exists_error_of_map failed)).2.2
  | append p n => exact refused (onHolder_of_failed failed)
  | prepend p n => exact refused (onHolder_of_failed failed)
  | insert p position n => exact refused (onHolder_of_failed failed)
  | extend p ns => exact refused (onHolder_of_failed failed)
  | clear p => exact refused (onHolder_of_failed failed)
  | takeChildren p => exact refused (onHolder_of_failed failed)
  | unwrap n => exact absurd rfl (other n)
  | clone n => exact refused (copy_of_failed (exists_error_of_map failed))

/-- A call unwraps a node that has children but no parent. -/
def Edit.UnwrapsTop (s : Store) (e : Edit) : Prop :=
  ∃ n, e = .unwrap n ∧ s.parent? n = none ∧ (s.kind n).holdsChildren = true ∧ s.children n ≠ []

/-- Where unwrapping a node fails, nothing is done to one without children, and the children are
taken out of one that has some. -/
theorem run_unwrap_of_failed (linked : WellLinked s) {error : LinkError}
    (failed : (Edit.unwrap n).outcome s = .error error) :
    (s.kind n).holdsChildren = false ∧ (Edit.unwrap n).run s = s ∨
      (s.kind n).holdsChildren = true ∧ error = .detached ∧ s.parent? n = none ∧
        (Edit.unwrap n).run s = s.clear n := by
  by_cases holds : (s.kind n).holdsChildren = true
  · simp only [Edit.outcome, holds, if_true] at failed
    obtain ⟨why, top, stays⟩ := linked.unwrap_of_failed (exists_error_of_map failed)
    refine .inr ⟨holds, why, top, ?_⟩
    simp only [Edit.run, holds, if_true, stays]
  · refine .inl ⟨Bool.eq_false_iff.2 holds, ?_⟩
    simp only [Edit.run, holds]
    rfl

/-- A call that fails leaves all nodes as they were exactly when it does not unwrap a node that has
children but no parent. Such a node and its children are parted when the call fails, and only they
are changed. -/
theorem failed_edit_keeps_iff (linked : WellLinked s) {e : Edit} {error : LinkError}
    (failed : e.outcome s = .error error) :
    (Unchanged s (e.run s) ↔ ¬ e.UnwrapsTop s) ∧
      ∀ n, e = .unwrap n → e.UnwrapsTop s → error = .detached ∧ (e.run s).children n = [] ∧
        (∀ m ∈ s.children n, (e.run s).parent? m = none) ∧
        ∀ m, m ≠ n → m ∉ s.children n → (e.run s).cell m = s.cell m := by
  by_cases other : ∀ n, e ≠ .unwrap n
  · have stays : ¬ e.UnwrapsTop s := fun ⟨n, same, _⟩ => other n same
    exact ⟨iff_of_true (unchanged_of_failed failed other) stays, fun n same => absurd same (other n)⟩
  · obtain ⟨n, rfl⟩ : ∃ n, e = .unwrap n := by simpa using other
    rcases run_unwrap_of_failed linked failed with ⟨leaf, same⟩ | ⟨holds, why, top, cleared⟩
    · have stays : ¬ (Edit.unwrap n).UnwrapsTop s := by
        rintro ⟨m, same, -, holds, -⟩
        obtain rfl : n = m := Edit.unwrap.inj same
        simp [leaf] at holds
      rw [same]
      exact ⟨iff_of_true (.refl s) stays, fun _ _ unwraps => absurd unwraps stays⟩
    · have unwraps : (Edit.unwrap n).UnwrapsTop s ↔ s.children n ≠ [] := by
        simp [Edit.UnwrapsTop, top, holds]
      rw [cleared, unwraps, not_not, unchanged_clear_iff linked]
      refine ⟨.rfl, fun m same _ => ?_⟩
      obtain rfl : n = m := Edit.unwrap.inj same
      refine ⟨why, ?_, fun m mem => ?_, fun m other outside => ?_⟩
      · rw [WellLinked.children_clear, if_pos rfl]
      · rw [linked.parent?_clear, if_pos mem]
      · refine cell_eq (kind_clear ..) ?_ ?_
        · rw [linked.parent?_clear, if_neg outside]
        · rw [WellLinked.children_clear, if_neg other]

/-- A list of two items that is in no tree. -/
def looseList : Store :=
  runAll {} [.make (.text "x") [], .make (.text "y") [], .make (.element "ul" []) [0, 1]]

theorem wellLinked_looseList : WellLinked looseList :=
  wellLinked_runAll wellLinked_empty (allAllowed_of_isAllAllowed (by decide +kernel))

/-- The list cannot be replaced, and stays as it is. -/
theorem failed_edit_keeps_looseList :
    WellLinked looseList ∧ (Edit.replace 2 [0]).outcome looseList = .error .detached ∧
      Unchanged looseList ((Edit.replace 2 [0]).run looseList) := by
  have failed : (Edit.replace 2 [0]).outcome looseList = .error .detached := by decide +kernel
  refine ⟨wellLinked_looseList, failed, (failed_edit_keeps_iff wellLinked_looseList failed).1.2 ?_⟩
  rintro ⟨n, other, -⟩
  cases other

/-- It cannot be unwrapped either, but it loses its items. -/
theorem failed_unwrap_loses_children :
    looseList.children 2 = [0, 1] ∧ looseList.parent? 0 = some 2 ∧
      (Edit.unwrap 2).outcome looseList = .error .detached ∧
      ((Edit.unwrap 2).run looseList).children 2 = [] ∧
      ((Edit.unwrap 2).run looseList).parent? 0 = none := by
  decide +kernel

end HtmlTemplate.Markup.Store
