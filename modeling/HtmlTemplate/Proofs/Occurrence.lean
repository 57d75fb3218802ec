import HtmlTemplate.Markup.Node

/-!
# What occurs in a forest

`Every P forest` says that all nodes of a forest, at all depths, have a property. Of a property in
which the children of a node have no part (`Shallow`) only the nodes matter that a forest is put
together from. `Lacks tag forest` says that no element of a forest has a tag. Here are the rules of
both for the ways in which forests are put together, and the rules of `Node.preorders` they come
from.
-/

namespace HtmlTemplate.Markup

namespace Node

theorem preorders_append (ms ns : List Node) :
    preorders (ms ++ ns) = preorders ms ++ preorders ns := by
  induction ms with
  | nil => rfl
  | cons m ms ih => simp only [List.cons_append, preorders, ih, List.append_assoc]

theorem preorders_singleton (n : Node) : preorders [n] = preorder n := by
  simp only [preorders, List.append_nil]

theorem mem_preorders_iff {m : Node} {ns : List Node} :
    m ∈ preorders ns ↔ ∃ n ∈ ns, m ∈ preorder n := by
  induction ns with
  | nil => simp [preorders]
  | cons n ns ih => simp [preorders, ih]

theorem preorders_subset {ms ns : List Node} (h : ms ⊆ ns) : preorders ms ⊆ preorders ns := by
  intro m hm
  obtain ⟨n, hn, hm⟩ := mem_preorders_iff.1 hm
  exact mem_preorders_iff.2 ⟨n, h hn, hm⟩

theorem mem_preorder_self (n : Node) : n ∈ preorder n := by
  cases n <;> simp [preorder]

mutual

theorem preorders_children_subset_preorder {m : Node} : ∀ n : Node, m ∈ preorder n →
    preorders m.children ⊆ preorder n
  | .element tag attrs cs, mem => by
    rcases List.mem_cons.1 mem with rfl | mem
    · exact List.subset_cons_self _ _
    · exact List.subset_cons_of_subset _ (preorders_children_subset cs mem)
  | .fragment cs, mem => by
    rcases List.mem_cons.1 mem with rfl | mem
    · exact List.subset_cons_self _ _
    · exact List.subset_cons_of_subset _ (preorders_children_subset cs mem)
  | .text _, mem | .comment _, mem | .directive _, mem | .blank, mem => by
    rw [List.mem_singleton.1 mem]
    exact List.nil_subset _

/-- What is inside a node of a forest is in the forest. -/
theorem preorders_children_subset {m : Node} : ∀ ns : List Node, m ∈ preorders ns →
    preorders m.children ⊆ preorders ns
  | [], mem => absurd mem List.not_mem_nil
  | n :: ns, mem => by
    rcases List.mem_append.1 mem with mem | mem
    · exact List.subset_append_of_subset_left _ (preorders_children_subset_preorder n mem)
    · exact List.subset_append_of_subset_right _ (preorders_children_subset ns mem)

end

theorem preorder_ne_nil (n : Node) : preorder n ≠ [] := by
  cases n <;> simp [preorder]

/-- A forest is empty when it has no nodes at any depth. -/
theorem preorders_eq_nil_iff {ns : List Node} : preorders ns = [] ↔ ns = [] := by
  cases ns with
  | nil => simp [preorders]
  | cons n ns => simp [preorders, preorder_ne_nil]

/-- Two ways to cut a forest in two are the same when the first parts have equally many nodes. -/
theorem append_inj_of_length_preorders {as bs cs ds : List Node} (h : as ++ bs = cs ++ ds)
    (size : (preorders as).length = (preorders cs).length) : as = cs ∧ bs = ds := by
  rcases List.append_eq_append_iff.1 h with ⟨es, rfl, rfl⟩ | ⟨es, rfl, rfl⟩
  · have hes : es = [] := by
      rw [preorders_append, List.length_append] at size
      exact preorders_eq_nil_iff.1 (List.eq_nil_of_length_eq_zero (by omega))
    simp [hes]
  · have hes : es = [] := by
      rw [preorders_append, List.length_append] at size
      exact preorders_eq_nil_iff.1 (List.eq_nil_of_length_eq_zero (by omega))
    simp [hes]

end Node

/-! ### Properties of all nodes -/

/-- All nodes of a forest, at all depths, have a property. -/
def Every (P : Node → Prop) (forest : List Node) : Prop := ∀ n ∈ Node.preorders forest, P n

/-- The children of a node have no part in a property. -/
structure Shallow (P : Node → Prop) : Prop where
  element : ∀ {tag attrs cs}, P (.element tag attrs cs) → ∀ cs', P (.element tag attrs cs')
  fragment : ∀ {cs}, P (.fragment cs) → ∀ cs', P (.fragment cs')

section Every

variable {P Q : Node → Prop}

theorem every_nil : Every P [] := fun _ hn => absurd hn List.not_mem_nil

theorem every_append_iff {ms ns : List Node} : Every P (ms ++ ns) ↔ Every P ms ∧ Every P ns := by
  simp only [Every, Node.preorders_append, List.mem_append, or_imp, forall_and]

theorem every_cons_iff {n : Node} {ns : List Node} :
    Every P (n :: ns) ↔ Every P [n] ∧ Every P ns := by
  rw [← every_append_iff, List.singleton_append]

theorem every_element_iff {tag : String} {attrs : Attrs} {cs : List Node} :
    Every P [.element tag attrs cs] ↔ P (.element tag attrs cs) ∧ Every P cs := by
  simp [Every, Node.preorders_singleton, Node.preorder]

theorem every_fragment_iff {cs : List Node} :
    Every P [.fragment cs] ↔ P (.fragment cs) ∧ Every P cs := by
  simp [Every, Node.preorders_singleton, Node.preorder]

/-- Of a node without others inside it only the node itself matters. -/
theorem every_leaf {n : Node} (leaf : Node.preorder n = [n]) (h : P n) : Every P [n] := by
  simpa [Every, Node.preorders_singleton, leaf] using h

theorem Every.self {n : Node} (h : Every P [n]) : P n := by
  refine h n ?_
  rw [Node.preorders_singleton]
  exact Node.mem_preorder_self n

theorem Every.children {n : Node} (h : Every P [n]) : Every P n.children := by
  cases n with
  | element tag attrs cs => exact (every_element_iff.1 h).2
  | fragment cs => exact (every_fragment_iff.1 h).2
  | _ => exact every_nil

theorem Every.of_mem {n : Node} {ns : List Node} (h : Every P ns) (hn : n ∈ ns) : Every P [n] := by
  obtain ⟨before, after, rfl⟩ := List.append_of_mem hn
  exact (every_cons_iff.1 (every_append_iff.1 h).2).1

theorem every_of_forall_mem {ns : List Node} (h : ∀ n ∈ ns, Every P [n]) : Every P ns := by
  induction ns with
  | nil => exact every_nil
  | cons n ns ih =>
    exact every_cons_iff.2
      ⟨h n List.mem_cons_self, ih fun m hm => h m (List.mem_cons_of_mem n hm)⟩

theorem Every.subset {ms ns : List Node} (h : Every P ns) (sub : ms ⊆ ns) : Every P ms :=
  every_of_forall_mem fun _ hn => h.of_mem (sub hn)

theorem Every.mono {ns : List Node} (h : Every P ns) (hPQ : ∀ n, P n → Q n) : Every Q ns :=
  fun n hn => hPQ n (h n hn)

end Every

/-! ### Tags that do not occur -/

/-- No element of a forest has the tag. -/
def Lacks (tag : String) (forest : List Node) : Prop :=
  ∀ n ∈ Node.preorders forest, n.hasTag tag = false

theorem shallow_hasTag (tag : String) : Shallow fun n => n.hasTag tag = false :=
  ⟨fun h _ => h, fun h _ => h⟩

theorem lacks_nil (tag : String) : Lacks tag [] := every_nil

theorem lacks_append_iff {tag : String} {ms ns : List Node} :
    Lacks tag (ms ++ ns) ↔ Lacks tag ms ∧ Lacks tag ns := every_append_iff

theorem lacks_cons_iff {tag : String} {n : Node} {ns : List Node} :
    Lacks tag (n :: ns) ↔ Lacks tag [n] ∧ Lacks tag ns := every_cons_iff

theorem lacks_element_iff {tag t : String} {attrs : Attrs} {cs : List Node} :
    Lacks tag [.element t attrs cs] ↔ t ≠ tag ∧ Lacks tag cs := by
  simp [Lacks, Node.preorders_singleton, Node.preorder, Node.hasTag, Node.tag?]

theorem lacks_fragment_iff {tag : String} {cs : List Node} :
    Lacks tag [.fragment cs] ↔ Lacks tag cs := by
  simp [Lacks, Node.preorders_singleton, Node.preorder, Node.hasTag, Node.tag?]

/-- A node that is neither an element nor a fragment has no tags at all. -/
theorem lacks_leaf {n : Node} (leaf : Node.preorder n = [n]) (bare : n.tag? = none) (tag : String) :
    Lacks tag [n] :=
  every_leaf leaf (by simp [Node.hasTag, bare])

theorem lacks_of_hasTag {tag : String} {n : Node} (h : Lacks tag [n]) : n.hasTag tag = false :=
  Every.self h

theorem Lacks.of_mem {tag : String} {n : Node} {ns : List Node} (h : Lacks tag ns) (hn : n ∈ ns) :
    Lacks tag [n] :=
  Every.of_mem h hn

theorem lacks_of_forall_mem {tag : String} {ns : List Node} (h : ∀ n ∈ ns, Lacks tag [n]) :
    Lacks tag ns :=
  every_of_forall_mem h

instance (tag : String) (forest : List Node) : Decidable (Lacks tag forest) :=
  inferInstanceAs (Decidable (∀ n ∈ Node.preorders forest, n.hasTag tag = false))

end HtmlTemplate.Markup
