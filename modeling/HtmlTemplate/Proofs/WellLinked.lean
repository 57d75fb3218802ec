import HtmlTemplate.Markup.Linked
import Mathlib.Data.List.Nodup
import Mathlib.Logic.Relation

/-!
# Links that agree

The link between a node and its parent is stored twice, with the node and in the list of the parent's
children. A store is `WellLinked` when both sides agree, no list has a node twice, and no node is
below itself. Here is what the single changes do to the links, and that they keep a store well
linked: taking a node out (`WellLinked.detach`), putting one in (`WellLinked.attachAt`), taking all
children out (`WellLinked.clear`), replacing a node (`WellLinked.replaceWith`) and adding a tree
(`loaded_load`). A change that gives a parent new children closes no cycle when the parent is
below none of them (`acyclic_of_gained`).
-/

namespace HtmlTemplate.Markup.Store

/-! ### Cells -/

/-- The node with a number is in a store. -/
def Has (s : Store) (n : Nat) : Prop := n < s.cells.size

instance (s : Store) (n : Nat) : Decidable (s.Has n) := inferInstanceAs (Decidable (_ < _))

theorem cell_of_not_has {s : Store} {n : Nat} (h : ¬ s.Has n) : s.cell n = ⟨.blank, none, []⟩ := by
  have beyond : s.cells[n]? = none := Array.getElem?_eq_none (Nat.le_of_not_lt h)
  unfold cell
  rw [Array.getD_eq_getD_getElem?, beyond]
  rfl

theorem cell_modify (s : Store) (n : Nat) (f : Cell → Cell) (m : Nat) :
    (s.modify n f).cell m = if m = n ∧ s.Has n then f (s.cell m) else s.cell m := by
  unfold cell modify
  rw [Array.getD_eq_getD_getElem?, Array.getD_eq_getD_getElem?, Array.getElem?_modify]
  by_cases same : m = n
  · subst same
    by_cases inside : s.Has m
    · have found : s.cells[m]? = some s.cells[m] := Array.getElem?_eq_getElem inside
      simp [inside, found]
    · have beyond : s.cells[m]? = none := Array.getElem?_eq_none (Nat.le_of_not_lt inside)
      simp [inside, beyond]
  · simp [same, Ne.symm same]

theorem cell_eta (s : Store) (n : Nat) : s.cell n = ⟨s.kind n, s.parent? n, s.children n⟩ := rfl

/-- A cell is the same where its parts are. -/
theorem cell_eq {s s' : Store} {n : Nat} (kind : s'.kind n = s.kind n)
    (parent : s'.parent? n = s.parent? n) (children : s'.children n = s.children n) :
    s'.cell n = s.cell n := by
  rw [cell_eta s', kind, parent, children, ← cell_eta]

section Access

variable (s : Store) (n m : Nat)

@[simp]
theorem has_setParent (p? : Option Nat) : (s.setParent n p?).Has m ↔ s.Has m := by
  simp [Has, setParent, modify]

@[simp]
theorem has_setChildren (cs : List Nat) : (s.setChildren n cs).Has m ↔ s.Has m := by
  simp [Has, setChildren, modify]

@[simp]
theorem children_setParent (p? : Option Nat) : (s.setParent n p?).children m = s.children m := by
  unfold children setParent
  rw [cell_modify]
  split <;> rfl

@[simp]
theorem parent?_setChildren (cs : List Nat) :
    (s.setChildren n cs).parent? m = s.parent? m := by
  unfold parent? setChildren
  rw [cell_modify]
  split <;> rfl

variable {s n}

theorem parent?_setParent (h : s.Has n) (p? : Option Nat) :
    (s.setParent n p?).parent? m = if m = n then p? else s.parent? m := by
  unfold parent? setParent
  rw [cell_modify]
  by_cases same : m = n <;> simp [same, h]

theorem children_setChildren (h : s.Has n) (cs : List Nat) :
    (s.setChildren n cs).children m = if m = n then cs else s.children m := by
  unfold children setChildren
  rw [cell_modify]
  by_cases same : m = n <;> simp [same, h]

theorem has_of_parent?_eq_some {p : Nat} (h : s.parent? n = some p) : s.Has n := by
  by_contra beyond
  rw [parent?, cell_of_not_has beyond] at h
  cases h

theorem has_of_mem_children {p : Nat} (h : n ∈ s.children p) : s.Has p := by
  by_contra beyond
  rw [children, cell_of_not_has beyond] at h
  cases h

end Access

/-! ### The invariant -/

/-- A node has another one for its parent. -/
def IsChild (s : Store) (n p : Nat) : Prop := s.parent? n = some p

/-- A node is another one or below it. -/
def Below (s : Store) : Nat → Nat → Prop := Relation.ReflTransGen s.IsChild

/-- The links of a store agree, and no node is below itself. -/
structure WellLinked (s : Store) : Prop where
  linked : ∀ n p, s.parent? n = some p ↔ n ∈ s.children p
  distinct : ∀ p, (s.children p).Nodup
  acyclic : ∀ n, ¬ Relation.TransGen s.IsChild n n

theorem wellLinked_empty : WellLinked {} := by
  have bare (n : Nat) : ({} : Store).cell n = ⟨.blank, none, []⟩ :=
    cell_of_not_has (Nat.not_lt_zero n)
  refine ⟨fun n p => ?_, fun p => ?_, fun n cycle => ?_⟩
  · simp [parent?, children, bare]
  · simp [children, bare]
  · obtain ⟨p, first, -⟩ := Relation.TransGen.head'_iff.1 cycle
    simp [IsChild, parent?, bare] at first

section Acyclic

variable {s s' : Store} {p : Nat} {ns : List Nat}

/-- A way up along old links and new ones, from some nodes to a parent, is a way along old links or
comes by that parent. -/
theorem transGen_of_gained
    (gained : ∀ a b, s'.IsChild a b → s.IsChild a b ∨ a ∈ ns ∧ b = p)
    (apart : ∀ n ∈ ns, ¬ s.Below p n) {a b : Nat} (way : Relation.TransGen s'.IsChild a b) :
    Relation.TransGen s.IsChild a b ∨ (∃ n ∈ ns, s.Below a n) ∧ s.Below p b := by
  induction way with
  | single link =>
    rcases gained _ _ link with old | ⟨mem, rfl⟩
    · exact .inl (.single old)
    · exact .inr ⟨⟨a, mem, .refl⟩, .refl⟩
  | tail _ link ih =>
    rcases ih with old | ⟨first, last⟩
    · rcases gained _ _ link with link | ⟨mem, rfl⟩
      · exact .inl (old.tail link)
      · exact .inr ⟨⟨_, mem, old.to_reflTransGen⟩, .refl⟩
    · rcases gained _ _ link with link | ⟨mem, rfl⟩
      · exact .inr ⟨first, last.tail link⟩
      · exact absurd last (apart _ mem)

/-- New links from some nodes to a parent that is below none of them close no cycle. -/
theorem acyclic_of_gained (acyclic : ∀ n, ¬ Relation.TransGen s.IsChild n n)
    (gained : ∀ a b, s'.IsChild a b → s.IsChild a b ∨ a ∈ ns ∧ b = p)
    (apart : ∀ n ∈ ns, ¬ s.Below p n) (n : Nat) : ¬ Relation.TransGen s'.IsChild n n := by
  intro cycle
  rcases transGen_of_gained gained apart cycle with old | ⟨⟨m, mem, first⟩, last⟩
  · exact acyclic n old
  · exact apart m mem (last.trans first)

/-- Such links put no node below a parent that was not below it. -/
theorem Below.of_gained
    (gained : ∀ a b, s'.IsChild a b → s.IsChild a b ∨ a ∈ ns ∧ b = p)
    (apart : ∀ n ∈ ns, ¬ s.Below p n) {m : Nat} (below : s'.Below p m) : s.Below p m := by
  rcases Relation.reflTransGen_iff_eq_or_transGen.1 below with same | way
  · subst same
    exact .refl
  · rcases transGen_of_gained gained apart way with old | ⟨⟨n, mem, first⟩, -⟩
    · exact old.to_reflTransGen
    · exact absurd first (apart n mem)

/-- Where links were only taken away, what is below a node was below it before. -/
theorem Below.of_lost (lost : ∀ a b, s'.IsChild a b → s.IsChild a b) {a b : Nat}
    (below : s'.Below a b) : s.Below a b :=
  Relation.ReflTransGen.mono lost _ _ below

theorem acyclic_of_lost (acyclic : ∀ n, ¬ Relation.TransGen s.IsChild n n)
    (lost : ∀ a b, s'.IsChild a b → s.IsChild a b) (n : Nat) :
    ¬ Relation.TransGen s'.IsChild n n :=
  fun cycle => acyclic n (Relation.TransGen.mono lost _ _ cycle)

/-- A node without a parent is below no other node. -/
theorem not_below_of_parent?_eq_none {n : Nat} (top : s.parent? p = none) (other : n ≠ p) :
    ¬ s.Below p n := by
  intro below
  rcases Relation.ReflTransGen.cases_head below with same | ⟨q, link, -⟩
  · exact other same.symm
  · rw [IsChild, top] at link
    cases link

end Acyclic

namespace WellLinked

variable {s : Store} (h : WellLinked s) {n p q : Nat}
include h

theorem has_of_mem (mem : n ∈ s.children p) : s.Has n :=
  has_of_parent?_eq_some ((h.linked n p).2 mem)

/-- A node is in the children of one node at most. -/
theorem parent_unique (hp : n ∈ s.children p) (hq : n ∈ s.children q) : p = q :=
  Option.some.inj (((h.linked n p).2 hp).symm.trans ((h.linked n q).2 hq))

theorem not_mem_children_self : n ∉ s.children n :=
  fun mem => h.acyclic n (.single ((h.linked n n).2 mem))

/-- The place of a node is where it stands in the children of its parent. -/
theorem index?_eq_some_iff {i : Nat} :
    s.index? n = some i ↔ ∃ p, s.parent? n = some p ∧ (s.children p)[i]? = some n := by
  unfold index?
  rw [Option.bind_eq_some_iff]
  refine exists_congr fun p => and_congr_right fun _ => ?_
  change (s.children p).idxOf? n = some i ↔ _
  rw [List.idxOf?_eq_some_iff, List.getElem?_eq_some_iff]
  constructor
  · rintro ⟨inside, here, -⟩
    exact ⟨inside, here⟩
  · rintro ⟨inside, here⟩
    refine ⟨inside, here, fun j before same => ?_⟩
    have := (h.distinct p).getElem_inj_iff.1 (same.trans here.symm)
    omega

/-- A node that is in the children of another one has a place there. -/
theorem exists_index? (mem : n ∈ s.children p) :
    ∃ i, s.index? n = some i ∧ (s.children p)[i]? = some n := by
  obtain ⟨i, here⟩ := List.mem_iff_getElem?.1 mem
  exact ⟨i, h.index?_eq_some_iff.2 ⟨p, (h.linked n p).2 mem, here⟩, here⟩

end WellLinked

/-! ### Taking a node out -/

theorem eraseIdx_eq_erase {cs : List Nat} (distinct : cs.Nodup) {i n : Nat}
    (here : cs[i]? = some n) : cs.eraseIdx i = cs.erase n := by
  obtain ⟨inside, rfl⟩ := List.getElem?_eq_some_iff.1 here
  exact (List.erase_eq_eraseIdx_of_idxOf (distinct.idxOf_getElem i inside)).symm

@[simp]
theorem has_detach (s : Store) (n m : Nat) : (s.detach n).Has m ↔ s.Has m := by
  unfold detach
  split <;> simp

theorem detach_of_parent?_eq_none {s : Store} {n : Nat} (top : s.parent? n = none) :
    s.detach n = s := by
  unfold detach
  rw [top]

theorem WellLinked.detach_of_parent?_eq_some {s : Store} (h : WellLinked s) {n p : Nat}
    (link : s.parent? n = some p) :
    s.detach n = (s.setChildren p ((s.children p).erase n)).setParent n none := by
  obtain ⟨i, index, here⟩ := h.exists_index? ((h.linked n p).1 link)
  unfold detach
  rw [link, index]
  simp only [Option.getD_some, eraseIdx_eq_erase (h.distinct p) here]

namespace WellLinked

variable {s : Store} (h : WellLinked s) {n p q : Nat}
include h

theorem parent?_detach (n m : Nat) :
    (s.detach n).parent? m = if m = n then none else s.parent? m := by
  cases link : s.parent? n with
  | none =>
    rw [detach_of_parent?_eq_none link]
    split
    · rename_i same
      rw [same, link]
    · rfl
  | some p =>
    have inside : (s.setChildren p ((s.children p).erase n)).Has n :=
      (has_setChildren ..).2 (has_of_parent?_eq_some link)
    rw [h.detach_of_parent?_eq_some link, parent?_setParent _ inside, parent?_setChildren]

theorem children_detach (n q : Nat) : (s.detach n).children q = (s.children q).erase n := by
  have elsewhere (hq : s.parent? n ≠ some q) : (s.children q).erase n = s.children q :=
    List.erase_of_not_mem fun mem => hq ((h.linked n q).2 mem)
  cases link : s.parent? n with
  | none => rw [detach_of_parent?_eq_none link, elsewhere (by simp [link])]
  | some p =>
    have inside : s.Has p := has_of_mem_children ((h.linked n p).1 link)
    rw [h.detach_of_parent?_eq_some link, children_setParent, children_setChildren _ inside]
    split
    · rename_i same
      rw [same]
    · rename_i other
      rw [elsewhere (by simpa [link] using Ne.symm other)]

theorem isChild_of_isChild_detach {a b : Nat} (link : (s.detach n).IsChild a b) :
    s.IsChild a b := by
  rw [IsChild, h.parent?_detach] at link
  split at link
  · cases link
  · exact link

/-- Taking a node out keeps the links of the others. -/
theorem detach (n : Nat) : WellLinked (s.detach n) := by
  refine ⟨fun m q => ?_, fun q => ?_, ?_⟩
  · rw [h.parent?_detach, h.children_detach, (h.distinct q).mem_erase_iff]
    by_cases same : m = n
    · simp [same]
    · simp [same, h.linked]
  · rw [h.children_detach]
    exact (h.distinct q).erase n
  · exact acyclic_of_lost h.acyclic fun _ _ => h.isChild_of_isChild_detach

end WellLinked

/-! ### Putting a node in -/

section AttachAt

variable {s : Store} {n p : Nat} (hn : s.Has n) (hp : s.Has p)

@[simp]
theorem has_attachAt (s : Store) (p place n m : Nat) :
    (s.attachAt p place n).Has m ↔ s.Has m := by
  simp [attachAt]

include hn in
theorem parent?_attachAt (place m : Nat) :
    (s.attachAt p place n).parent? m = if m = n then some p else s.parent? m := by
  unfold attachAt
  rw [parent?_setParent _ ((has_setChildren ..).2 hn), parent?_setChildren]

include hp in
theorem children_attachAt (place q : Nat) :
    (s.attachAt p place n).children q =
      if q = p then (s.children p).take place ++ n :: (s.children p).drop place
      else s.children q := by
  unfold attachAt
  rw [children_setParent, children_setChildren _ hp]

include hn hp in
/-- A node that has no parent can be put below one that is not below it. -/
theorem WellLinked.attachAt (h : WellLinked s) (top : s.parent? n = none)
    (apart : ¬ s.Below p n) (place : Nat) : WellLinked (s.attachAt p place n) := by
  have free (q : Nat) : n ∉ s.children q := fun mem => by
    rw [(h.linked n q).2 mem] at top
    cases top
  have inserted : ((s.children p).take place ++ n :: (s.children p).drop place).Perm
      (n :: s.children p) := by
    refine List.perm_middle.trans ?_
    rw [List.take_append_drop]
  refine ⟨fun m q => ?_, fun q => ?_, ?_⟩
  · rw [parent?_attachAt hn, children_attachAt hp]
    by_cases here : q = p
    · subst here
      rw [if_pos rfl, inserted.mem_iff, List.mem_cons]
      by_cases same : m = n
      · simp [same]
      · simp [same, h.linked]
    · rw [if_neg here]
      by_cases same : m = n
      · subst same
        simp [free q, Ne.symm here]
      · simp [same, h.linked]
  · rw [children_attachAt hp]
    split
    · exact inserted.nodup_iff.2 (List.nodup_cons.2 ⟨free p, h.distinct p⟩)
    · exact h.distinct q
  · have apart' : ∀ m ∈ [n], ¬ s.Below p m := by
      simpa using apart
    refine acyclic_of_gained h.acyclic (fun a b link => ?_) apart'
    rw [IsChild, parent?_attachAt hn] at link
    split at link
    · rename_i same
      exact .inr ⟨List.mem_singleton.2 same, (Option.some.inj link).symm⟩
    · exact .inl link

end AttachAt

/-! ### Moving nodes -/

@[simp]
theorem has_appendChild (s : Store) (p n m : Nat) : (s.appendChild p n).Has m ↔ s.Has m := by
  simp [appendChild]

namespace WellLinked

variable {s : Store} (h : WellLinked s) {n p : Nat} (hn : s.Has n) (hp : s.Has p)
include h hn

/-- Where a node is moved to another place, its parent alone changes. -/
theorem parent?_move (place m : Nat) :
    ((s.detach n).attachAt p place n).parent? m = if m = n then some p else s.parent? m := by
  rw [parent?_attachAt ((has_detach ..).2 hn), h.parent?_detach]
  by_cases same : m = n <;> simp [same]

include hp

/-- A node can be moved below one that is not below it. -/
theorem move (apart : ¬ s.Below p n) (place : Nat) :
    WellLinked ((s.detach n).attachAt p place n) := by
  have top : (s.detach n).parent? n = none := by
    rw [h.parent?_detach, if_pos rfl]
  have apart : ¬ (s.detach n).Below p n :=
    fun below => apart (below.of_lost fun _ _ => h.isChild_of_isChild_detach)
  exact (h.detach n).attachAt ((has_detach ..).2 hn) ((has_detach ..).2 hp) top apart place

theorem insertChild (apart : ¬ s.Below p n) (position : Int) :
    WellLinked (s.insertChild p position n) :=
  h.move hn hp apart _

theorem appendChild (apart : ¬ s.Below p n) : WellLinked (s.appendChild p n) :=
  h.move hn hp apart _

theorem prependChild (apart : ¬ s.Below p n) : WellLinked (s.prependChild p n) :=
  h.insertChild hn hp apart 0

end WellLinked

/-- Nodes can be moved below one that is below none of them: what is above that one stays. -/
theorem WellLinked.appendAll {s : Store} (h : WellLinked s) {p : Nat} (hp : s.Has p)
    {ns : List Nat} (hns : ∀ n ∈ ns, s.Has n) (apart : ∀ n ∈ ns, ¬ s.Below p n) :
    WellLinked (s.appendAll p ns) := by
  induction ns generalizing s with
  | nil => exact h
  | cons n ns ih =>
    have hn := hns n List.mem_cons_self
    have gained (a b : Nat) (link : (s.appendChild p n).IsChild a b) :
        s.IsChild a b ∨ a ∈ [n] ∧ b = p := by
      rw [IsChild, Store.appendChild, h.parent?_move hn] at link
      split at link
      · rename_i same
        exact .inr ⟨List.mem_singleton.2 same, (Option.some.inj link).symm⟩
      · exact .inl link
    have apart' : ∀ m ∈ [n], ¬ s.Below p m := by
      simpa using apart n List.mem_cons_self
    refine ih (s := s.appendChild p n) (h.appendChild hn hp (apart n List.mem_cons_self))
      ((has_appendChild ..).2 hp) (fun m mem => ?_) (fun m mem below => ?_)
    · exact (has_appendChild ..).2 (hns m (List.mem_cons_of_mem n mem))
    · exact apart m (List.mem_cons_of_mem n mem) (below.of_gained gained apart')

/-! ### Linking many nodes at once -/

section SetParents

variable (s : Store) (ns : List Nat) (p? : Option Nat)

@[simp]
theorem has_setParents (m : Nat) :
    (ns.foldl (fun s n => s.setParent n p?) s).Has m ↔ s.Has m := by
  induction ns generalizing s with
  | nil => rfl
  | cons n ns ih => exact (ih (s.setParent n p?)).trans (has_setParent s n m p?)

@[simp]
theorem children_setParents (q : Nat) :
    (ns.foldl (fun s n => s.setParent n p?) s).children q = s.children q := by
  induction ns generalizing s with
  | nil => rfl
  | cons n ns ih => exact (ih (s.setParent n p?)).trans (children_setParent s n q p?)

variable {s ns}

theorem parent?_setParents (hns : ∀ n ∈ ns, s.Has n) (m : Nat) :
    (ns.foldl (fun s n => s.setParent n p?) s).parent? m =
      if m ∈ ns then p? else s.parent? m := by
  induction ns generalizing s with
  | nil => simp
  | cons n ns ih =>
    have hn := hns n List.mem_cons_self
    have later : ∀ m ∈ ns, (s.setParent n p?).Has m :=
      fun m mem => (has_setParent ..).2 (hns m (List.mem_cons_of_mem n mem))
    rw [List.foldl_cons, ih later, parent?_setParent _ hn]
    by_cases same : m = n <;> simp [same]

end SetParents

/-! ### Taking all children out -/

@[simp]
theorem has_clear (s : Store) (p m : Nat) : (s.clear p).Has m ↔ s.Has m := by
  simp [clear]

namespace WellLinked

variable {s : Store} (h : WellLinked s) (p : Nat)
include h

theorem parent?_clear (m : Nat) :
    (s.clear p).parent? m = if m ∈ s.children p then none else s.parent? m := by
  unfold Store.clear
  rw [parent?_setChildren, parent?_setParents none fun n mem => h.has_of_mem mem]

omit h in
theorem children_clear (q : Nat) :
    (s.clear p).children q = if q = p then [] else s.children q := by
  by_cases hp : s.Has p
  · unfold Store.clear
    rw [children_setChildren _ ((has_setParents ..).2 hp), children_setParents]
  · have none : s.children p = [] := by
      rw [children, cell_of_not_has hp]
    have same : (s.clear p).children q = s.children q := by
      unfold Store.clear
      rw [none, List.foldl_nil, children, children, setChildren, cell_modify]
      simp [hp]
    rw [same]
    split
    · rename_i here
      rw [here, none]
    · rfl

theorem isChild_of_isChild_clear {a b : Nat} (link : (s.clear p).IsChild a b) :
    s.IsChild a b := by
  rw [IsChild, h.parent?_clear] at link
  split at link
  · cases link
  · exact link

/-- Taking all children out of a node keeps the links of the others. -/
theorem clear : WellLinked (s.clear p) := by
  refine ⟨fun m q => ?_, fun q => ?_, ?_⟩
  · rw [h.parent?_clear, children_clear]
    by_cases here : q = p
    · subst here
      by_cases mem : m ∈ s.children q
      · simp [mem]
      · simp [mem, h.linked]
    · by_cases mem : m ∈ s.children p
      · have other : m ∉ s.children q := fun mem' => here (h.parent_unique mem' mem)
        simp [mem, here, other]
      · simp [mem, here, h.linked]
  · rw [children_clear]
    split
    · exact List.nodup_nil
    · exact h.distinct q
  · exact acyclic_of_lost h.acyclic fun _ _ => h.isChild_of_isChild_clear p

end WellLinked

/-! ### Replacing a node -/

@[simp]
theorem has_detachAll (s : Store) (ns : List Nat) (m : Nat) :
    (ns.foldl Store.detach s).Has m ↔ s.Has m := by
  induction ns generalizing s with
  | nil => rfl
  | cons n ns ih => exact (ih (s.detach n)).trans (has_detach s n m)

namespace WellLinked

variable {s : Store} (h : WellLinked s) (ns : List Nat)
include h

theorem detachAll : WellLinked (ns.foldl Store.detach s) := by
  induction ns generalizing s with
  | nil => exact h
  | cons n ns ih => exact ih (h.detach n)

theorem parent?_detachAll (m : Nat) :
    (ns.foldl Store.detach s).parent? m = if m ∈ ns then none else s.parent? m := by
  induction ns generalizing s with
  | nil => simp
  | cons n ns ih =>
    rw [List.foldl_cons, ih (h.detach n), h.parent?_detach]
    by_cases same : m = n <;> simp [same]

theorem isChild_of_isChild_detachAll {a b : Nat}
    (link : (ns.foldl Store.detach s).IsChild a b) : s.IsChild a b := by
  rw [IsChild, h.parent?_detachAll] at link
  split at link
  · cases link
  · exact link

end WellLinked

/-- Where the replacements of a node have no parent, they take its place. -/
theorem WellLinked.replace {s : Store} (h : WellLinked s) {n p i : Nat} {ns : List Nat}
    (link : s.parent? n = some p) (here : (s.children p)[i]? = some n)
    (hns : ∀ m ∈ ns, s.Has m) (top : ∀ m ∈ ns, s.parent? m = none) (distinct : ns.Nodup)
    (apart : ∀ m ∈ ns, ¬ s.Below p m) :
    WellLinked ((ns.foldl (fun s m => s.setParent m (some p)) (s.setChildren p
      ((s.children p).take i ++ ns ++ (s.children p).drop (i + 1)))).setParent n none) := by
  have hn : s.Has n := has_of_parent?_eq_some link
  have hp : s.Has p := has_of_mem_children ((h.linked n p).1 link)
  have free (m : Nat) (mem : m ∈ ns) (q : Nat) : m ∉ s.children q := fun mem' => by
    have link' := (h.linked m q).2 mem'
    rw [top m mem] at link'
    cases link'
  have other : n ∉ ns := fun mem => free n mem p ((h.linked n p).1 link)
  have replaced : ((s.children p).take i ++ ns ++ (s.children p).drop (i + 1)).Perm
      (ns ++ (s.children p).erase n) := by
    rw [← eraseIdx_eq_erase (h.distinct p) here, List.eraseIdx_eq_take_drop_succ,
      List.append_assoc]
    exact List.perm_append_comm_assoc _ _ _
  set cs := (s.children p).take i ++ ns ++ (s.children p).drop (i + 1) with hcs
  set s' := (ns.foldl (fun s m => s.setParent m (some p)) (s.setChildren p cs)).setParent n none
    with hs'
  have parents (m : Nat) :
      s'.parent? m = if m = n then none else if m ∈ ns then some p else s.parent? m := by
    have inside : ∀ m ∈ ns, (s.setChildren p cs).Has m :=
      fun m mem => (has_setChildren ..).2 (hns m mem)
    have hn' := (has_setParents (s.setChildren p cs) ns (some p) n).2 ((has_setChildren ..).2 hn)
    rw [hs', parent?_setParent _ hn', parent?_setParents _ inside, parent?_setChildren]
  have lists (q : Nat) : s'.children q = if q = p then cs else s.children q := by
    rw [hs', children_setParent, children_setParents, children_setChildren _ hp]
  refine ⟨fun m q => ?_, fun q => ?_, ?_⟩
  · rw [parents, lists]
    by_cases inner : q = p
    · subst inner
      rw [if_pos rfl, replaced.mem_iff, List.mem_append, (h.distinct q).mem_erase_iff]
      by_cases same : m = n
      · simp [same, other]
      · by_cases mem : m ∈ ns
        · simp [same, mem]
        · simp [same, mem, h.linked]
    · rw [if_neg inner]
      by_cases same : m = n
      · subst same
        have elsewhere : m ∉ s.children q := fun mem =>
          inner (h.parent_unique mem ((h.linked m p).1 link))
        simp [elsewhere]
      · by_cases mem : m ∈ ns
        · simp [same, mem, free m mem q, Ne.symm inner]
        · simp [same, mem, h.linked]
  · rw [lists]
    split
    · rw [replaced.nodup_iff, List.nodup_append']
      exact ⟨distinct, (h.distinct p).erase n,
        fun m mem mem' => free m mem p (List.mem_of_mem_erase mem')⟩
    · exact h.distinct q
  · refine acyclic_of_gained h.acyclic (fun a b link => ?_) apart
    rw [IsChild, parents] at link
    split at link
    · cases link
    · split at link
      · rename_i mem
        exact .inr ⟨mem, (Option.some.inj link).symm⟩
      · exact .inl link

/-- A node can be replaced by different other nodes that its parent is not below. -/
theorem WellLinked.replaceWith {s : Store} (h : WellLinked s) {n : Nat} {ns : List Nat}
    (hns : ∀ m ∈ ns, s.Has m) (distinct : ns.Nodup) (other : n ∉ ns)
    (apart : ∀ p, s.parent? n = some p → ∀ m ∈ ns, ¬ s.Below p m) :
    WellLinked (Store.replaceWith n ns s).2 := by
  unfold Store.replaceWith
  cases link : s.parent? n with
  | none => exact h
  | some p =>
    have taken : WellLinked (ns.foldl Store.detach s) := h.detachAll ns
    have link' : (ns.foldl Store.detach s).parent? n = some p := by
      rw [h.parent?_detachAll, if_neg other, link]
    obtain ⟨i, index, here⟩ := taken.exists_index? ((taken.linked n p).1 link')
    simp only [index]
    refine taken.replace link' here (fun m mem => (has_detachAll ..).2 (hns m mem))
      (fun m mem => ?_) distinct (fun m mem below => apart p link m mem ?_)
    · rw [h.parent?_detachAll, if_pos mem]
    · exact below.of_lost fun _ _ => h.isChild_of_isChild_detachAll ns

/-- A node can be replaced by its children. -/
theorem WellLinked.unwrap {s : Store} (h : WellLinked s) (n : Nat) :
    WellLinked (Store.unwrap n s).2 := by
  have top (m : Nat) (mem : m ∈ s.children n) : (s.clear n).parent? m = none := by
    rw [h.parent?_clear, if_pos mem]
  unfold Store.unwrap
  refine (h.clear n).replaceWith (fun m mem => (has_clear ..).2 (h.has_of_mem mem)) (h.distinct n)
    h.not_mem_children_self (fun p link m mem below => ?_)
  -- the parent is above the node, and so above its children
  have above : s.IsChild n p := h.isChild_of_isChild_clear n link
  have child : s.IsChild m n := (h.linked m n).2 mem
  have back : s.Below p m := below.of_lost fun _ _ => h.isChild_of_isChild_clear n
  exact h.acyclic p (Relation.TransGen.trans_right back (.tail (.single child) above))

/-! ### Adding trees -/

section New

variable (s : Store) (k : NodeKind)

@[simp]
theorem new_fst : (s.new k).1 = s.cells.size := rfl

theorem has_new (m : Nat) : (s.new k).2.Has m ↔ s.Has m ∨ m = s.cells.size := by
  simp [Has, new]
  omega

theorem cell_new (m : Nat) :
    (s.new k).2.cell m = if m = s.cells.size then ⟨k, none, []⟩ else s.cell m := by
  unfold cell new
  rw [Array.getD_eq_getD_getElem?, Array.getD_eq_getD_getElem?, Array.getElem?_push]
  split <;> rfl

theorem parent?_new (m : Nat) : (s.new k).2.parent? m = s.parent? m := by
  unfold parent?
  rw [cell_new]
  split
  · rename_i same
    subst same
    rw [cell_of_not_has (Nat.lt_irrefl _)]
  · rfl

theorem children_new (m : Nat) : (s.new k).2.children m = s.children m := by
  unfold children
  rw [cell_new]
  split
  · rename_i same
    subst same
    rw [cell_of_not_has (Nat.lt_irrefl _)]
  · rfl

/-- A new node has no links. -/
theorem WellLinked.new (h : WellLinked s) : WellLinked (s.new k).2 := by
  refine ⟨fun n p => ?_, fun p => ?_, ?_⟩
  · rw [parent?_new, children_new, h.linked]
  · rw [children_new]
    exact h.distinct p
  · refine acyclic_of_lost h.acyclic fun a b link => ?_
    rw [IsChild, parent?_new] at link
    exact link

end New

/-- A store has the nodes of another one, each with the parent it has there. -/
structure Extends (s' s : Store) : Prop where
  has : ∀ {m}, s.Has m → s'.Has m
  parent? : ∀ {m}, s.Has m → s'.parent? m = s.parent? m

namespace Extends

variable {s s' s'' : Store}

theorem refl (s : Store) : Extends s s := ⟨id, fun _ => rfl⟩

theorem trans (later : Extends s'' s') (first : Extends s' s) : Extends s'' s :=
  ⟨fun hm => later.has (first.has hm),
    fun hm => (later.parent? (first.has hm)).trans (first.parent? hm)⟩

theorem new (s : Store) (k : NodeKind) : Extends (s.new k).2 s :=
  ⟨fun hm => (has_new s k _).2 (.inl hm), fun _ => parent?_new s k _⟩

theorem attachAt {n p : Nat} (grown : Extends s' s) (hn : s'.Has n) (fresh : ¬ s.Has n)
    (place : Nat) : Extends (s'.attachAt p place n) s := by
  refine ⟨fun hm => (has_attachAt ..).2 (grown.has hm), fun {m} hm => ?_⟩
  have other : m ≠ n := fun same => fresh (same ▸ hm)
  rw [parent?_attachAt hn, if_neg other]
  exact grown.parent? hm

/-- What was there before is below nothing that was added. -/
theorem has_of_below {m n : Nat} (grown : Extends s' s) (h : WellLinked s) (hm : s.Has m)
    (below : s'.Below m n) : s.Has n := by
  induction below with
  | refl => exact hm
  | tail _ link ih =>
    rw [IsChild, grown.parent? ih] at link
    exact has_of_mem_children ((h.linked _ _).1 link)

end Extends

/-- A tree was added to a store. Its root has a new number and no parent. -/
structure Loaded (s : Store) (n : Nat) (s' : Store) : Prop where
  wellLinked : WellLinked s'
  grown : Extends s' s
  fresh : ¬ s.Has n
  has : s'.Has n
  top : s'.parent? n = none

theorem loaded_new {s : Store} (h : WellLinked s) (k : NodeKind) :
    Loaded s (s.new k).1 (s.new k).2 := by
  have fresh : ¬ s.Has s.cells.size := Nat.lt_irrefl _
  refine ⟨h.new s k, .new s k, fresh, (has_new s k _).2 (.inr rfl), ?_⟩
  rw [parent?_new, new_fst, parent?, cell_of_not_has fresh]

/-- More nodes may be added before a tree counts as added. -/
theorem Loaded.of_extends {s s' s'' : Store} {n : Nat} (first : Loaded s n s')
    (h : WellLinked s'') (grown : Extends s'' s') : Loaded s n s'' :=
  ⟨h, grown.trans first.grown, first.fresh, grown.has first.has,
    (grown.parent? first.has).trans first.top⟩

mutual

/-- Adding a tree keeps the links. -/
theorem loaded_load {s : Store} (h : WellLinked s) :
    (t : Node) → Loaded s (s.load t).1 (s.load t).2
  | .text d => loaded_new h (.text d)
  | .comment d => loaded_new h (.comment d)
  | .directive d => loaded_new h (.directive d)
  | .blank => loaded_new h .blank
  | .element tag attrs children => by
    have root := loaded_new h (.element tag attrs)
    obtain ⟨below, grown⟩ := loadChildren_spec root.wellLinked root.has children
    exact root.of_extends below grown
  | .fragment children => by
    have root := loaded_new h .fragment
    obtain ⟨below, grown⟩ := loadChildren_spec root.wellLinked root.has children
    exact root.of_extends below grown

theorem loadChildren_spec {s : Store} (h : WellLinked s) {p : Nat} (hp : s.Has p) :
    (ts : List Node) →
      WellLinked (s.loadChildren p ts) ∧ Extends (s.loadChildren p ts) s
  | [] => ⟨h, .refl s⟩
  | t :: ts => by
    have tree := loaded_load h t
    have inside : (s.load t).2.Has p := tree.grown.has hp
    have apart : ¬ (s.load t).2.Below p (s.load t).1 :=
      fun below => tree.fresh (tree.grown.has_of_below h hp below)
    obtain ⟨linked, grown⟩ := loadChildren_spec (p := p)
      (tree.wellLinked.attachAt tree.has inside tree.top apart ((s.load t).2.children p).length)
      ((has_attachAt ..).2 inside) ts
    exact ⟨linked, grown.trans (tree.grown.attachAt tree.has tree.fresh _)⟩

end

theorem WellLinked.copy {s : Store} (h : WellLinked s) (n : Nat) :
    WellLinked (Store.copy n s).2 := by
  unfold Store.copy
  cases s.tree? n with
  | none => exact h
  | some t =>
    by_cases copyable : isCopyable t
    · simp only [copyable, if_true]
      exact (loaded_load h t).wellLinked
    · simp only [copyable]
      exact h

end HtmlTemplate.Markup.Store
