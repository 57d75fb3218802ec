import HtmlTemplate.Proofs.Occurrence
import HtmlTemplate.Proofs.WellLinked
import Mathlib.Data.List.Forall2

/-!
# Trees in a store

`Shows s ns ts numbers` says that the nodes `ns` of a store are the roots of the trees `ts`, and
that the nodes of these trees have the given numbers in document order. A change elsewhere leaves
the trees alone (`Shows.congr`). In a well linked store the numbers are different (`Shows.nodup`),
and `Store.tree?` and `Store.preorder` read off the tree and the numbers (`Shows.tree?`,
`Shows.preorder`).
-/

namespace HtmlTemplate.Markup

namespace NodeKind

/-- The tag of an element. -/
def tag? : NodeKind → Option String
  | element tag _ => some tag
  | _ => none

/-- The attributes of an element; other nodes have none. -/
def attrs : NodeKind → Attrs
  | element _ attrs => attrs
  | _ => []

end NodeKind

namespace Store

variable {s s' : Store} {n m p : Nat} {ns ms numbers numbers' : List Nat} {t : Node}
  {ts us : List Node}

/-- Only nodes of the kinds that hold children have some. -/
def LeavesBare (s : Store) : Prop := ∀ n, (s.kind n).holdsChildren = false → s.children n = []

instance (s : Store) : Decidable s.LeavesBare :=
  decidable_of_iff (∀ n < s.cells.size, (s.kind n).holdsChildren = false → s.children n = [])
    ⟨fun h n leaf => if inside : s.Has n then h n inside leaf
      else congrArg Cell.children (cell_of_not_has inside), fun h n _ => h n⟩

/-! ### Kinds and what is below -/

section Assemble

variable (k : NodeKind) (cs : List Node)

@[simp]
theorem tag?_assemble : (assemble k cs).tag? = k.tag? := by cases k <;> rfl

@[simp]
theorem attrs_assemble : (assemble k cs).attrs = k.attrs := by cases k <;> rfl

@[simp]
theorem isElement_assemble : (assemble k cs).isElement = k.isElement := by cases k <;> rfl

variable {k cs}

theorem children_assemble (leaf : k.holdsChildren = false → cs = []) :
    (assemble k cs).children = cs := by
  cases k with
  | element tag attrs => rfl
  | fragment => rfl
  | _ => exact (leaf rfl).symm

theorem preorder_assemble (leaf : k.holdsChildren = false → cs = []) :
    (assemble k cs).preorder = assemble k cs :: Node.preorders cs := by
  cases k with
  | element tag attrs => rfl
  | fragment => rfl
  | _ =>
    rw [leaf rfl]
    rfl

end Assemble

/-! ### Roots, trees and numbers -/

/-- Nodes are the roots of trees, whose nodes have the given numbers in document order. -/
inductive Shows (s : Store) : List Nat → List Node → List Nat → Prop
  | nil : Shows s [] [] []
  | cons {n : Nat} {ns : List Nat} {cs ts : List Node} {inner rest : List Nat}
      (leaf : (s.kind n).holdsChildren = false → cs = []) (inside : Shows s (s.children n) cs inner)
      (after : Shows s ns ts rest) : Shows s (n :: ns) (assemble (s.kind n) cs :: ts)
        (n :: inner ++ rest)

/-- A node has the same kind and children in two stores. -/
def SameAt (s s' : Store) (n : Nat) : Prop := s'.kind n = s.kind n ∧ s'.children n = s.children n

namespace Shows

theorem single {cs : List Node} {inner : List Nat}
    (leaf : (s.kind n).holdsChildren = false → cs = [])
    (inside : Shows s (s.children n) cs inner) :
    Shows s [n] [assemble (s.kind n) cs] (n :: inner) := by
  simpa using cons leaf inside .nil

/-- A node without children is a tree unless its kind holds children. -/
theorem leaf {k : NodeKind} (kind : s.kind n = k) (bare : s.children n = []) :
    Shows s [n] [assemble k []] [n] := by
  have inside : Shows s (s.children n) [] [] := by
    rw [bare]
    exact .nil
  simpa only [kind] using single (fun _ => rfl) inside

theorem of_single (h : Shows s [n] [t] numbers) : ∃ inner, numbers = n :: inner ∧
    t = assemble (s.kind n) t.children ∧ ((s.kind n).holdsChildren = false → t.children = []) ∧
      Shows s (s.children n) t.children inner := by
  cases h with
  | @cons _ _ cs _ inner _ leaf inside after =>
    cases after
    have below : (assemble (s.kind n) cs).children = cs := children_assemble leaf
    rw [below]
    exact ⟨inner, by simp, rfl, leaf, inside⟩

theorem append (first : Shows s ns ts numbers) (later : Shows s ms us numbers') :
    Shows s (ns ++ ms) (ts ++ us) (numbers ++ numbers') := by
  induction first with
  | nil => exact later
  | cons leaf inside after _ ih =>
    rw [List.append_assoc]
    exact cons leaf inside ih

/-- Trees stay where their nodes do. -/
theorem congr (h : Shows s ns ts numbers) (same : ∀ m ∈ numbers, SameAt s s' m) :
    Shows s' ns ts numbers := by
  induction h with
  | nil => exact nil
  | @cons n ns cs ts inner rest leaf inside after ih ih' =>
    obtain ⟨kind, children⟩ := same n (by simp)
    have below := ih fun m hm => same m (by simp [hm])
    have later := ih' fun m hm => same m (by simp [hm])
    rw [← kind] at leaf ⊢
    rw [← children] at below
    exact cons leaf below later

/-- Every root is that of a tree of its own. -/
theorem roots (h : Shows s ns ts numbers) :
    List.Forall₂ (fun n t => ∃ inner ⊆ numbers, Shows s [n] [t] inner) ns ts := by
  induction h with
  | nil => exact .nil
  | @cons n ns cs ts inner rest leaf inside after _ ih =>
    refine .cons ⟨n :: inner, by simp, single leaf inside⟩ (ih.imp fun m t ⟨part, sub, h⟩ => ?_)
    exact ⟨part, List.subset_append_of_subset_right _ sub, h⟩

/-- Every number is that of the node in the same place of the trees. -/
theorem each (h : Shows s ns ts numbers) :
    List.Forall₂ (fun m t => ∃ inner ⊆ numbers, Shows s [m] [t] inner) numbers
      (Node.preorders ts) := by
  induction h with
  | nil => exact .nil
  | @cons n ns cs ts inner rest leaf inside after ih ih' =>
    rw [Node.preorders, preorder_assemble leaf]
    refine List.rel_append (.cons ⟨n :: inner, by simp, single leaf inside⟩ ?_) ?_
    · refine ih.imp fun m t ⟨part, sub, h⟩ => ⟨part, fun a ha => ?_, h⟩
      have := sub ha
      simp [this]
    · exact ih'.imp fun m t ⟨part, sub, h⟩ => ⟨part, List.subset_append_of_subset_right _ sub, h⟩

theorem sublist (h : Shows s ns ts numbers) : ns.Sublist numbers := by
  induction h with
  | nil => exact .slnil
  | @cons n ns cs ts inner rest leaf inside after _ ih =>
    exact (ih.trans (List.sublist_append_right inner rest)).cons_cons n

/-- The children of a node in a tree are in the tree. -/
theorem children_subset (h : Shows s ns ts numbers) (hm : m ∈ numbers) :
    s.children m ⊆ numbers := by
  induction h with
  | nil => cases hm
  | @cons n ns cs ts inner rest leaf inside after ih ih' =>
    rcases List.mem_append.1 hm with hm | hm
    · refine List.subset_append_of_subset_left _ (List.subset_cons_of_subset n ?_)
      rcases List.mem_cons.1 hm with rfl | hm
      · exact inside.sublist.subset
      · exact ih hm
    · exact List.subset_append_of_subset_right _ (ih' hm)

/-- The trees are read off with fuel for as many levels as there are nodes. -/
theorem mapM_treeWithin (h : Shows s ns ts numbers) {fuel : Nat}
    (enough : numbers.length ≤ fuel) : ns.mapM (s.treeWithin fuel) = some ts := by
  induction h generalizing fuel with
  | nil => rfl
  | @cons n ns cs ts inner rest leaf inside after ih ih' =>
    rw [List.length_append, List.length_cons] at enough
    obtain ⟨fuel, rfl⟩ : ∃ f, fuel = f + 1 := ⟨fuel - 1, by omega⟩
    have below : (s.children n).mapM (s.treeWithin fuel) = some cs := ih (by omega)
    have later : ns.mapM (s.treeWithin (fuel + 1)) = some ts := ih' (by omega)
    rw [List.mapM_cons, later, treeWithin, below]
    rfl

theorem flatMap_preorderWithin (h : Shows s ns ts numbers) {fuel : Nat}
    (enough : numbers.length ≤ fuel) : ns.flatMap (s.preorderWithin fuel) = numbers := by
  induction h generalizing fuel with
  | nil => rfl
  | @cons n ns cs ts inner rest leaf inside after ih ih' =>
    rw [List.length_append, List.length_cons] at enough
    obtain ⟨fuel, rfl⟩ : ∃ f, fuel = f + 1 := ⟨fuel - 1, by omega⟩
    have below : (s.children n).flatMap (s.preorderWithin fuel) = inner := ih (by omega)
    have later : ns.flatMap (s.preorderWithin (fuel + 1)) = rest := ih' (by omega)
    rw [List.flatMap_cons, later, preorderWithin, below]

end Shows

/-- What can be read off below nodes is there. -/
theorem shows_of_mapM_treeWithin (bare : s.LeavesBare) {fuel : Nat}
    (read : ns.mapM (s.treeWithin fuel) = some ts) : ∃ numbers, Shows s ns ts numbers := by
  induction fuel generalizing ns ts with
  | zero =>
    cases ns with
    | nil =>
      obtain rfl : [] = ts := Option.some.inj read
      exact ⟨[], .nil⟩
    | cons n ns => simp [treeWithin] at read
  | succ fuel ih =>
    induction ns generalizing ts with
    | nil =>
      obtain rfl : [] = ts := Option.some.inj read
      exact ⟨[], .nil⟩
    | cons n ns ihn =>
      simp only [List.mapM_cons, treeWithin, Option.bind_eq_bind, Option.pure_def,
        Option.bind_eq_some_iff, Option.map_eq_some_iff, Option.some.injEq] at read
      obtain ⟨t, ⟨cs, below, rfl⟩, us, later, rfl⟩ := read
      obtain ⟨inner, inside⟩ := ih below
      obtain ⟨rest, after⟩ := ihn later
      refine ⟨n :: inner ++ rest, .cons (fun leaf => ?_) inside after⟩
      rw [bare n leaf] at inside
      cases inside
      rfl

/-! ### Different nodes -/

section Nodup

/-- A node has one parent at most. -/
theorem rightUnique_isChild (s : Store) : Relator.RightUnique s.IsChild :=
  fun _ _ _ hb hc => Option.some.inj (hb.symm.trans hc)

variable (linked : WellLinked s)
include linked

theorem WellLinked.not_below_of_isChild (link : s.IsChild n p) : ¬ s.Below p n := fun below =>
  linked.acyclic n (.head' link below)

/-- No child of a node is below another one. -/
theorem WellLinked.eq_of_below_of_mem (hn : n ∈ s.children p) (hm : m ∈ s.children p)
    (below : s.Below n m) : n = m := by
  rcases Relation.ReflTransGen.cases_head below with same | ⟨q, link, rest⟩
  · exact same
  · obtain rfl : q = p := rightUnique_isChild s link ((linked.linked n p).2 hn)
    exact absurd rest (linked.not_below_of_isChild ((linked.linked m q).2 hm))

theorem Shows.below_of_mem (h : Shows s ns ts numbers) (hm : m ∈ numbers) :
    ∃ n ∈ ns, s.Below m n := by
  induction h with
  | nil => cases hm
  | @cons n ns cs ts inner rest leaf inside after ih ih' =>
    rcases List.mem_append.1 hm with hm | hm
    · refine ⟨n, List.mem_cons_self, ?_⟩
      rcases List.mem_cons.1 hm with rfl | hm
      · exact .refl
      · obtain ⟨c, hc, below⟩ := ih hm
        exact below.tail ((linked.linked c n).2 hc)
    · obtain ⟨a, ha, below⟩ := ih' hm
      exact ⟨a, List.mem_cons_of_mem n ha, below⟩

/-- The nodes of trees are different when no root is below another one. -/
theorem Shows.nodup (h : Shows s ns ts numbers) (distinct : ns.Nodup)
    (apart : ∀ a ∈ ns, ∀ b ∈ ns, s.Below a b → a = b) : numbers.Nodup := by
  induction h with
  | nil => exact List.nodup_nil
  | @cons n ns cs ts inner rest leaf inside after ih ih' =>
    obtain ⟨fresh, distinct⟩ := List.nodup_cons.1 distinct
    have inner_nodup : inner.Nodup := ih (linked.distinct n) fun a ha b hb =>
      linked.eq_of_below_of_mem ha hb
    have rest_nodup : rest.Nodup := ih' distinct fun a ha b hb =>
      apart a (List.mem_cons_of_mem n ha) b (List.mem_cons_of_mem n hb)
    have strictly {m : Nat} (hm : m ∈ inner) : Relation.TransGen s.IsChild m n := by
      obtain ⟨c, hc, below⟩ := inside.below_of_mem linked hm
      exact .tail' below ((linked.linked c n).2 hc)
    have other {m : Nat} (hm : m ∈ rest) : ¬ s.Below m n := by
      intro first
      obtain ⟨a, ha, second⟩ := after.below_of_mem linked hm
      have mem := List.mem_cons_of_mem n ha
      have meet : n = a := by
        rcases Relation.ReflTransGen.total_of_right_unique (rightUnique_isChild s) first second
          with below | below
        · exact apart n List.mem_cons_self a mem below
        · exact (apart a mem n List.mem_cons_self below).symm
      exact fresh (meet ▸ ha)
    rw [List.nodup_append', List.nodup_cons]
    refine ⟨⟨fun mem => linked.acyclic n (strictly mem), inner_nodup⟩, rest_nodup, ?_⟩
    intro m hm hm'
    rcases List.mem_cons.1 hm with rfl | hm
    · exact other hm' .refl
    · exact other hm' (strictly hm).to_reflTransGen

theorem Shows.has (h : Shows s ns ts numbers) (here : ∀ n ∈ ns, s.Has n) :
    ∀ m ∈ numbers, s.Has m := by
  induction h with
  | nil => exact fun m hm => absurd hm List.not_mem_nil
  | @cons n ns cs ts inner rest leaf inside after ih ih' =>
    intro m hm
    rcases List.mem_append.1 hm with hm | hm
    · rcases List.mem_cons.1 hm with rfl | hm
      · exact here m List.mem_cons_self
      · exact ih (fun c hc => linked.has_of_mem hc) m hm
    · exact ih' (fun a ha => here a (List.mem_cons_of_mem n ha)) m hm

/-- There are no more nodes in a tree than in its store. -/
theorem Shows.length_le (h : Shows s [n] [t] numbers) (here : s.Has n) :
    numbers.length ≤ s.cells.size := by
  have distinct : numbers.Nodup := h.nodup linked (List.nodup_singleton n)
    fun a ha b hb _ => (List.mem_singleton.1 ha).trans (List.mem_singleton.1 hb).symm
  have sub : numbers ⊆ List.range s.cells.size := fun m hm => List.mem_range.2 <|
    h.has linked (fun a ha => by rwa [List.mem_singleton.1 ha]) m hm
  simpa using distinct.length_le_of_subset sub

theorem Shows.tree? (h : Shows s [n] [t] numbers) (here : s.Has n) : s.tree? n = some t := by
  have read := h.mapM_treeWithin (Nat.le_succ_of_le (h.length_le linked here))
  simpa [Store.tree?, Option.bind_eq_some_iff] using read

theorem Shows.preorder (h : Shows s [n] [t] numbers) (here : s.Has n) :
    s.preorder n = numbers := by
  have read := h.flatMap_preorderWithin (Nat.le_succ_of_le (h.length_le linked here))
  simpa [Store.preorder] using read

end Nodup

end Store

end HtmlTemplate.Markup
