import HtmlTemplate.Proofs.ShownTrees

/-!
# Adding trees and replacing nodes

A tree that is added to a store has the next free numbers, and every node that was there before
keeps its kind and its children (`loadedTree_load`). When nodes without a parent take the place of
another node, they stand between its siblings, and no other list of children changes
(`WellLinked.replacedBy`).
-/

namespace HtmlTemplate.Markup.Store

variable {s s' : Store} {n m p : Nat} {ns ms : List Nat} {t : Node} {ts : List Node}

/-! ### Kinds and numbers stay -/

section Kind

variable (s : Store) (n p m : Nat)

@[simp]
theorem kind_setParent (p? : Option Nat) : (s.setParent n p?).kind m = s.kind m := by
  unfold kind setParent
  rw [cell_modify]
  split <;> rfl

@[simp]
theorem kind_setChildren (cs : List Nat) : (s.setChildren n cs).kind m = s.kind m := by
  unfold kind setChildren
  rw [cell_modify]
  split <;> rfl

@[simp]
theorem kind_setParents (ns : List Nat) (p? : Option Nat) :
    (ns.foldl (fun s n => s.setParent n p?) s).kind m = s.kind m := by
  induction ns generalizing s with
  | nil => rfl
  | cons n ns ih => exact (ih (s.setParent n p?)).trans (kind_setParent s n m p?)

@[simp]
theorem kind_detach : (s.detach n).kind m = s.kind m := by
  unfold detach
  split <;> simp

@[simp]
theorem kind_clear : (s.clear n).kind m = s.kind m := by simp [clear]

@[simp]
theorem kind_attachAt (place : Nat) : (s.attachAt p place n).kind m = s.kind m := by
  simp [attachAt]

@[simp]
theorem size_setParent (p? : Option Nat) : (s.setParent n p?).cells.size = s.cells.size := by
  simp [setParent, modify]

@[simp]
theorem size_setChildren (cs : List Nat) : (s.setChildren n cs).cells.size = s.cells.size := by
  simp [setChildren, modify]

@[simp]
theorem size_setParents (ns : List Nat) (p? : Option Nat) :
    (ns.foldl (fun s n => s.setParent n p?) s).cells.size = s.cells.size := by
  induction ns generalizing s with
  | nil => rfl
  | cons n ns ih => exact (ih (s.setParent n p?)).trans (size_setParent s n p?)

@[simp]
theorem size_detach : (s.detach n).cells.size = s.cells.size := by
  unfold detach
  split <;> simp

@[simp]
theorem size_clear : (s.clear n).cells.size = s.cells.size := by simp [clear]

@[simp]
theorem size_attachAt (place : Nat) : (s.attachAt p place n).cells.size = s.cells.size := by
  simp [attachAt]

theorem kind_new (k : NodeKind) :
    (s.new k).2.kind m = if m = s.cells.size then k else s.kind m := by
  unfold kind
  rw [cell_new]
  split <;> rfl

end Kind

/-! ### Added trees -/

theorem size_new (s : Store) (k : NodeKind) : (s.new k).2.cells.size = s.cells.size + 1 := by
  simp [new]

theorem sameAt_new {k : NodeKind} (h : s.Has n) : SameAt s (s.new k).2 n := by
  have other : n ≠ s.cells.size := Nat.ne_of_lt h
  exact ⟨by rw [kind_new, if_neg other], children_new s k n⟩

theorem children_size (s : Store) : s.children s.cells.size = [] := by
  rw [children, cell_of_not_has (Nat.lt_irrefl _)]

/-- A new node has no children. -/
theorem shows_new (s : Store) (k : NodeKind) :
    Shows (s.new k).2 [s.cells.size] [assemble k []] [s.cells.size] :=
  .leaf (by rw [kind_new, if_pos rfl]) (by rw [children_new, children_size])

/-- Trees were added as the last children of a node. -/
structure LoadedBelow (s : Store) (p : Nat) (ts : List Node) (s' : Store) (ns : List Nat) :
    Prop where
  children : s'.children p = s.children p ++ ns
  shows : Shows s' ns ts (List.range' s.cells.size (Node.preorders ts).length)
  size : s'.cells.size = s.cells.size + (Node.preorders ts).length
  kind : ∀ m, s.Has m → s'.kind m = s.kind m
  same : ∀ m, s.Has m → m ≠ p → s'.children m = s.children m

/-- A tree was added to a store. -/
structure LoadedTree (s : Store) (t : Node) (s' : Store) : Prop where
  shows : Shows s' [s.cells.size] [t] (List.range' s.cells.size t.preorder.length)
  size : s'.cells.size = s.cells.size + t.preorder.length
  same : ∀ m, s.Has m → SameAt s s' m

theorem loadedTree_new (s : Store) (k : NodeKind) (leaf : (assemble k []).preorder.length = 1) :
    LoadedTree s (assemble k []) (s.new k).2 := by
  refine ⟨?_, ?_, fun m hm => sameAt_new hm⟩
  · rw [leaf]
    exact shows_new s k
  · rw [leaf]
    exact size_new s k

/-- A new node with trees below it is a tree. -/
theorem loadedTree_of_below {k : NodeKind} (holds : k.holdsChildren = true)
    (below : LoadedBelow (s.new k).2 s.cells.size ts s' ns) :
    LoadedTree s (assemble k ts) s' := by
  have size := size_new s k
  have here : (s.new k).2.Has s.cells.size := (has_new s k _).2 (.inr rfl)
  have kind : s'.kind s.cells.size = k := by
    rw [below.kind _ here, kind_new, if_pos rfl]
  have children : s'.children s.cells.size = ns := by
    rw [below.children, children_new, Store.children, cell_of_not_has (Nat.lt_irrefl _)]
    rfl
  have count : (assemble k ts).preorder.length = (Node.preorders ts).length + 1 := by
    rw [preorder_assemble (by simp [holds]), List.length_cons]
  refine ⟨?_, ?_, fun m hm => ?_⟩
  · have inside : Shows s' (s'.children s.cells.size) ts
        (List.range' (s.cells.size + 1) (Node.preorders ts).length) := by
      rw [children, ← size]
      exact below.shows
    have leaf : (s'.kind s.cells.size).holdsChildren = false → ts = [] := by simp [kind, holds]
    rw [count, List.range'_succ]
    simpa only [kind] using Shows.single leaf inside
  · rw [below.size, count, size]
    omega
  · have old : (s.new k).2.Has m := (has_new s k m).2 (.inl hm)
    have other : m ≠ s.cells.size := Nat.ne_of_lt hm
    obtain ⟨first, first'⟩ := sameAt_new (k := k) hm
    exact ⟨(below.kind m old).trans first, (below.same m old other).trans first'⟩

theorem LoadedTree.has_of_has (tree : LoadedTree s t s') (h : s.Has n) : s'.Has n := by
  have := tree.size
  unfold Has at *
  omega

/-- One tree after another can be added below a node. -/
theorem LoadedTree.below_cons {s₁ : Store} (tree : LoadedTree s t s₁) (hp : s.Has p)
    (below : LoadedBelow (s₁.attachAt p (s₁.children p).length s.cells.size) p ts s' ns) :
    LoadedBelow s p (t :: ts) s' (s.cells.size :: ns) := by
  have inside : s₁.Has p := tree.has_of_has hp
  have count : (Node.preorders (t :: ts)).length =
      t.preorder.length + (Node.preorders ts).length := List.length_append
  have size := below.size
  rw [size_attachAt, tree.size] at size
  have old {m : Nat} (hm : m < s.cells.size + t.preorder.length) :
      (s₁.attachAt p (s₁.children p).length s.cells.size).Has m := by
    rw [has_attachAt, Has, tree.size]
    exact hm
  refine ⟨?_, ?_, ?_, fun m hm => ?_, fun m hm other => ?_⟩
  · rw [below.children, children_attachAt inside, if_pos rfl, (tree.same p hp).2]
    simp
  · have first : Shows s' [s.cells.size] [t] (List.range' s.cells.size t.preorder.length) := by
      refine tree.shows.congr fun m hm => ?_
      obtain ⟨low, high⟩ := List.mem_range'_1.1 hm
      have other : m ≠ p := fun same => absurd hp (by unfold Has; omega)
      refine ⟨?_, ?_⟩
      · rw [below.kind m (old high), kind_attachAt]
      · rw [below.same m (old high) other, children_attachAt inside, if_neg other]
    have later := below.shows
    rw [size_attachAt, tree.size] at later
    rw [count, ← List.range'_append_1]
    exact first.append later
  · rw [size, count]
    omega
  · rw [below.kind m (old (Nat.lt_add_right _ hm)), kind_attachAt, (tree.same m hm).1]
  · rw [below.same m (old (Nat.lt_add_right _ hm)) other, children_attachAt inside, if_neg other,
      (tree.same m hm).2]

theorem load_fst (s : Store) (t : Node) : (s.load t).1 = s.cells.size := by
  cases t <;> rfl

mutual

/-- A tree that is added has the next free numbers. -/
theorem loadedTree_load (s : Store) : (t : Node) → LoadedTree s t (s.load t).2
  | .text d => loadedTree_new s (.text d) rfl
  | .comment d => loadedTree_new s (.comment d) rfl
  | .directive d => loadedTree_new s (.directive d) rfl
  | .blank => loadedTree_new s .blank rfl
  | .element tag attrs cs => by
    obtain ⟨ns, below⟩ := loadedBelow_loadChildren (s := (s.new (.element tag attrs)).2)
      (p := s.cells.size) ((has_new s _ _).2 (.inr rfl)) cs
    exact loadedTree_of_below rfl below
  | .fragment cs => by
    obtain ⟨ns, below⟩ := loadedBelow_loadChildren (s := (s.new .fragment).2)
      (p := s.cells.size) ((has_new s _ _).2 (.inr rfl)) cs
    exact loadedTree_of_below rfl below

theorem loadedBelow_loadChildren {s : Store} {p : Nat} (hp : s.Has p) :
    (ts : List Node) → ∃ ns, LoadedBelow s p ts (s.loadChildren p ts) ns
  | [] => ⟨[], by simp [loadChildren], .nil, rfl, fun _ _ => rfl, fun _ _ _ => rfl⟩
  | t :: ts => by
    have tree := loadedTree_load s t
    have inside : (s.load t).2.Has p := tree.has_of_has hp
    obtain ⟨ns, below⟩ := loadedBelow_loadChildren
      (s := (s.load t).2.attachAt p ((s.load t).2.children p).length (s.load t).1) (p := p)
      ((has_attachAt ..).2 inside) ts
    rw [load_fst] at below
    refine ⟨s.cells.size :: ns, ?_⟩
    have whole : s.loadChildren p (t :: ts) = ((s.load t).2.attachAt p
        ((s.load t).2.children p).length s.cells.size).loadChildren p ts := by
      rw [← load_fst s t]
      rfl
    rw [whole]
    exact tree.below_cons hp below

end

/-! ### Replacing a node -/

/-- A list with others in the place of a node. -/
def putFor (q : Nat) (ms : List Nat) (ns : List Nat) : List Nat :=
  ns.flatMap fun n => if n = q then ms else [n]

theorem putFor_of_not_mem {q : Nat} (h : q ∉ ns) (ms : List Nat) : putFor q ms ns = ns := by
  have alone : ∀ n ∈ ns, (if n = q then ms else [n]) = [n] := fun n hn =>
    if_neg (ne_of_mem_of_not_mem hn h)
  rw [putFor, List.flatMap_congr alone, List.flatMap_singleton']

theorem putFor_append_cons {q : Nat} {as bs : List Nat} (before : q ∉ as) (after : q ∉ bs)
    (ms : List Nat) : putFor q ms (as ++ q :: bs) = as ++ ms ++ bs :=
  calc putFor q ms (as ++ q :: bs)
      = putFor q ms as ++ (ms ++ putFor q ms bs) := by simp [putFor]
    _ = as ++ ms ++ bs := by
      rw [putFor_of_not_mem before, putFor_of_not_mem after, List.append_assoc]

theorem putFor_eq {q i : Nat} (distinct : ns.Nodup) (here : ns[i]? = some q) (ms : List Nat) :
    putFor q ms ns = ns.take i ++ ms ++ ns.drop (i + 1) := by
  obtain ⟨inside, rfl⟩ := List.getElem?_eq_some_iff.1 here
  have cut : ns.take i ++ ns[i] :: ns.drop (i + 1) = ns := by simp
  have parts := distinct
  rw [← cut, List.nodup_append', List.nodup_cons] at parts
  obtain ⟨-, ⟨after, -⟩, apart⟩ := parts
  have before : ns[i] ∉ ns.take i := fun mem => apart mem List.mem_cons_self
  rw [← putFor_append_cons before after ms, cut]

/-- A node was replaced by others that had no parent. -/
structure ReplacedBy (s : Store) (q p : Nat) (ms : List Nat) (s' : Store) : Prop where
  wellLinked : WellLinked s'
  size : s'.cells.size = s.cells.size
  kind : ∀ n, s'.kind n = s.kind n
  children : ∀ n, s'.children n = putFor q ms (s.children n)
  parent? : ∀ n, s'.parent? n = if n = q then none else if n ∈ ms then some p else s.parent? n

theorem detachAll_of_free (free : ∀ m ∈ ms, s.parent? m = none) : ms.foldl detach s = s := by
  induction ms with
  | nil => rfl
  | cons m ms ih =>
    rw [List.foldl_cons, detach_of_parent?_eq_none (free m List.mem_cons_self)]
    exact ih fun a ha => free a (List.mem_cons_of_mem m ha)

/-- Nodes without a parent take the place of a node. -/
theorem WellLinked.replacedBy (linked : WellLinked s) {q : Nat} (link : s.parent? q = some p)
    (here : ∀ m ∈ ms, s.Has m) (free : ∀ m ∈ ms, s.parent? m = none) (distinct : ms.Nodup)
    (apart : ∀ m ∈ ms, ¬ s.Below p m) :
    ∃ s', Store.replaceWith q ms s = (.ok ms.length, s') ∧ ReplacedBy s q p ms s' := by
  have other : q ∉ ms := fun mem => by simp [free q mem] at link
  have keeps := linked.replaceWith (n := q) here distinct other fun p' link' => by
    obtain rfl : p = p' := Option.some.inj (link.symm.trans link')
    exact apart
  have hq : s.Has q := has_of_parent?_eq_some link
  have child := (linked.linked q p).1 link
  have hp : s.Has p := has_of_mem_children child
  obtain ⟨i, index, place⟩ := linked.exists_index? child
  have elsewhere {n : Nat} (hn : n ≠ p) : q ∉ s.children n := fun mem =>
    hn (linked.parent_unique mem child)
  unfold Store.replaceWith at keeps ⊢
  simp only [link, detachAll_of_free free, index] at keeps ⊢
  refine ⟨_, rfl, keeps, ?_, fun n => ?_, fun n => ?_, fun n => ?_⟩
  · simp
  · simp
  · rw [children_setParent, children_setParents, children_setChildren _ hp]
    split_ifs with same
    · rw [same, putFor_eq (linked.distinct p) place]
    · rw [putFor_of_not_mem (elsewhere same)]
  · have inside : ∀ m ∈ ms, (s.setChildren p
        ((s.children p).take i ++ ms ++ (s.children p).drop (i + 1))).Has m :=
      fun m hm => (has_setChildren ..).2 (here m hm)
    rw [parent?_setParent _ ((has_setParents ..).2 ((has_setChildren ..).2 hq)),
      parent?_setParents _ inside, parent?_setChildren]

end HtmlTemplate.Markup.Store
