import HtmlTemplate.Proofs.Replacement
import HtmlTemplate.Proofs.ShownTrees

/-!
# Forests in a store

A forest is in a store as what is inside a fragment (`HoldsForest`). Then the nodes below the
fragment are those of the forest, and so are the elements with a tag (`HoldsForest.elements`). When
a change in place does to every node what a rule says of it, it applies the rule to the forest
(`Shows.replaceAmong`).
-/

namespace HtmlTemplate

section Forall₂

variable {α β : Type} {R S : α → β → Prop} {as : List α} {bs : List β}

theorem forall₂_imp_of_mem (h : List.Forall₂ R as bs)
    (stronger : ∀ a ∈ as, ∀ b ∈ bs, R a b → S a b) : List.Forall₂ S as bs :=
  List.forall₂_iff_zip.2 ⟨h.length_eq, fun mem =>
    stronger _ (List.of_mem_zip mem).1 _ (List.of_mem_zip mem).2 (List.forall₂_zip h mem)⟩

theorem forall₂_exists_of_mem (h : List.Forall₂ R as bs) {a : α} (ha : a ∈ as) :
    ∃ b ∈ bs, R a b := by
  induction h with
  | nil => cases ha
  | @cons a' b as bs first _ ih =>
    rcases List.mem_cons.1 ha with rfl | ha
    · exact ⟨b, List.mem_cons_self, first⟩
    · obtain ⟨b', hb, later⟩ := ih ha
      exact ⟨b', List.mem_cons_of_mem b hb, later⟩

end Forall₂

namespace Markup.Store

open HtmlTemplate.Expand

variable {s s' : Store} {rule : Rule} {put : Nat → List Nat} {n m root : Nat}
  {ns numbers ids : List Nat} {t : Node} {ts forest : List Node} {tag : String}

/-! ### Elements with a tag -/

theorem Shows.map_tag? (h : Shows s ns ts numbers) :
    numbers.map (fun m => (s.kind m).tag?) = (Node.preorders ts).map Node.tag? := by
  induction h with
  | nil => rfl
  | cons leaf inside after ih ih' =>
    rw [Node.preorders, preorder_assemble leaf]
    simp [ih, ih']

/-- The numbers of trees that lack a tag are not those of elements with it. -/
theorem Shows.tag?_ne (h : Shows s ns ts numbers) (lacks : Lacks tag ts) (hm : m ∈ numbers) :
    (s.kind m).tag? ≠ some tag := by
  intro here
  have mem : some tag ∈ (Node.preorders ts).map Node.tag? := by
    rw [← h.map_tag?]
    exact List.mem_map.2 ⟨m, hm, here⟩
  obtain ⟨u, hu, same⟩ := List.mem_map.1 mem
  have other := lacks u hu
  simp [Node.hasTag, same] at other

theorem Shows.tag?_eq (h : Shows s [n] [t] numbers) : t.tag? = (s.kind n).tag? := by
  obtain ⟨-, -, same, -, -⟩ := h.of_single
  rw [same, tag?_assemble]

theorem Shows.attrs_eq (h : Shows s [n] [t] numbers) : t.attrs = (s.kind n).attrs := by
  obtain ⟨-, -, same, -, -⟩ := h.of_single
  rw [same, attrs_assemble]

/-! ### Forests in fragments -/

/-- The elements below a node that have a tag, in document order. -/
def elementsBelow (s : Store) (root : Nat) (tag : String) : List Nat :=
  ((s.children root).flatMap s.preorder).filter fun n => (s.kind n).tag? == some tag

/-- A node is a fragment in which a forest is, whose nodes have the given numbers. -/
structure HoldsForest (s : Store) (root : Nat) (forest : List Node) (ids : List Nat) : Prop where
  kind : s.kind root = .fragment
  has : s.Has root
  shows : Shows s (s.children root) forest ids

/-- A fragment that can be read off holds a forest. -/
theorem exists_holdsForest (bare : s.LeavesBare) (read : s.tree? root = some (.fragment forest)) :
    ∃ ids, HoldsForest s root forest ids := by
  have alone : [root].mapM (s.treeWithin (s.cells.size + 1)) = some [.fragment forest] := by
    rw [tree?] at read
    simp [read]
  obtain ⟨numbers, shows⟩ := shows_of_mapM_treeWithin bare alone
  obtain ⟨ids, -, same, -, inside⟩ := shows.of_single
  have kind : s.kind root = .fragment := by
    cases hk : s.kind root with
    | fragment => rfl
    | _ => simp [hk, assemble] at same
  refine ⟨ids, kind, ?_, inside⟩
  by_contra beyond
  rw [Store.kind, cell_of_not_has beyond] at kind
  cases kind

namespace HoldsForest

variable (h : HoldsForest s root forest ids)
include h

theorem shows_root : Shows s [root] [.fragment forest] (root :: ids) := by
  have whole := Shows.single (by simp [h.kind, NodeKind.holdsChildren]) h.shows
  rwa [h.kind] at whole

/-- A fragment is not among the elements in it. -/
theorem root_not_mem_elementsBelow : root ∉ s.elementsBelow root tag := by
  intro mem
  have here := (List.mem_filter.1 mem).2
  simp [h.kind, NodeKind.tag?] at here

variable (linked : WellLinked s)
include linked

theorem tree? : s.tree? root = some (.fragment forest) := h.shows_root.tree? linked h.has

/-- The nodes of the forest are those below the fragment. -/
theorem mem_iff : m ∈ ids ↔ Relation.TransGen s.IsChild m root := by
  constructor
  · intro hm
    obtain ⟨c, hc, below⟩ := h.shows.below_of_mem linked hm
    exact .tail' below ((linked.linked c root).2 hc)
  · intro below
    induction below using Relation.TransGen.head_induction_on with
    | single link => exact h.shows.sublist.subset ((linked.linked _ root).1 link)
    | @head a b link _ ih => exact h.shows.children_subset ih ((linked.linked a b).1 link)

theorem elementsBelow_eq (tag : String) :
    s.elementsBelow root tag = ids.filter fun n => (s.kind n).tag? == some tag := by
  have size := h.shows_root.length_le linked h.has
  rw [List.length_cons] at size
  have read : (s.children root).flatMap (s.preorderWithin (s.cells.size + 1)) = ids :=
    h.shows.flatMap_preorderWithin (by omega)
  exact congrArg (List.filter _) read

theorem nodup_elementsBelow (tag : String) : (s.elementsBelow root tag).Nodup := by
  rw [h.elementsBelow_eq linked]
  exact (h.shows.nodup linked (linked.distinct root)
    fun _ ha _ hb => linked.eq_of_below_of_mem ha hb).filter _

theorem mem_elementsBelow_iff : m ∈ s.elementsBelow root tag ↔
    Relation.TransGen s.IsChild m root ∧ (s.kind m).tag? = some tag := by
  rw [h.elementsBelow_eq linked, List.mem_filter, h.mem_iff linked, beq_iff_eq]

/-- An element below the fragment has a parent. -/
theorem exists_parent (hm : m ∈ s.elementsBelow root tag) : ∃ p, s.parent? m = some p := by
  obtain ⟨p, link, -⟩ :=
    Relation.TransGen.head'_iff.1 ((h.mem_elementsBelow_iff linked).1 hm).1
  exact ⟨p, link⟩

theorem mem_elementsBelow_iff_of_mem (hm : m ∈ ids) :
    m ∈ s.elementsBelow root tag ↔ (s.kind m).tag? = some tag := by
  rw [h.mem_elementsBelow_iff linked, and_iff_right ((h.mem_iff linked).1 hm)]

/-- The elements below the fragment are those of the forest. -/
theorem elements (tag : String) :
    List.Forall₂ (fun m t => ∃ inner, Shows s [m] [t] inner) (s.elementsBelow root tag)
      (Node.findAll (·.hasTag tag) forest) := by
  rw [h.elementsBelow_eq linked]
  refine List.rel_filter (fun m t related => ?_)
    (h.shows.each.imp fun m t ⟨inner, _, shows⟩ => ⟨inner, shows⟩)
  obtain ⟨inner, shows⟩ := related
  simp [Node.hasTag, shows.tag?_eq]

end HoldsForest

/-! ### Rules in place -/

/-- What becomes of a node in place is what a rule makes of it. -/
inductive Treated (rule : Rule) (s s' : Store) (put : Nat → List Nat) (m : Nat) : Prop
  | stays (kind : s'.kind m = s.kind m) (here : put m = [m])
      (children : s'.children m = (s.children m).flatMap put)
      (rule : ∀ tag attrs, s.kind m = .element tag attrs → rule tag attrs = .stays attrs)
  | becomes {tag : String} {attrs : Attrs} {nodes : List Node} {numbers : List Nat}
      (kind : s.kind m = .element tag attrs) (rule : rule tag attrs = .becomes nodes)
      (shows : Shows s' (put m) nodes numbers)

theorem replaceIn_assemble {k : NodeKind} {cs : List Node}
    (leaf : k.holdsChildren = false → cs = [])
    (stays : ∀ tag attrs, k = .element tag attrs → rule tag attrs = .stays attrs) :
    replaceIn rule (assemble k cs) = [assemble k (replaceAmong rule cs)] := by
  cases k with
  | element tag attrs => simp [assemble, replaceIn, stays tag attrs rfl]
  | fragment => rfl
  | _ =>
    rw [leaf rfl]
    rfl

/-- When every node of some trees is treated by a rule, the rule is applied to the trees. -/
theorem Shows.replaceAmong (h : Shows s ns ts numbers)
    (treated : ∀ m ∈ numbers, Treated rule s s' put m) :
    ∃ numbers', Shows s' (ns.flatMap put) (replaceAmong rule ts) numbers' := by
  induction h with
  | nil => exact ⟨[], .nil⟩
  | @cons n ns cs ts inner rest leaf inside after ih ih' =>
    obtain ⟨below, inside⟩ := ih fun m hm => treated m (by simp [hm])
    obtain ⟨later, after⟩ := ih' fun m hm => treated m (by simp [hm])
    rw [Expand.replaceAmong, List.flatMap_cons]
    cases treated n (by simp) with
    | stays kind here children stays =>
      rw [replaceIn_assemble leaf stays, here, ← kind]
      refine ⟨_, .append (.single (fun bare => ?_) (children ▸ inside)) after⟩
      rw [kind] at bare
      rw [leaf bare]
      rfl
    | becomes kind becomes shows =>
      rw [kind, assemble, replaceIn, becomes]
      exact ⟨_, shows.append after⟩

/-- When the elements with one tag give way to others, a rule for the tag is applied to the
forest. -/
theorem HoldsForest.replaceAmong {new : Attrs → List Node} (h : HoldsForest s root forest ids)
    (linked : WellLinked s) (has : s'.Has root)
    (rule_eq : ∀ t attrs, rule t attrs = if t == tag then .becomes (new attrs) else .stays attrs)
    (stays : ∀ m, s.Has m → m ∉ s.elementsBelow root tag → s'.kind m = s.kind m ∧ put m = [m] ∧
      s'.children m = (s.children m).flatMap put)
    (becomes : ∀ m ∈ s.elementsBelow root tag,
      ∃ inner, Shows s' (put m) (new (s.kind m).attrs) inner) :
    ∃ ids', HoldsForest s' root (Expand.replaceAmong rule forest) ids' := by
  obtain ⟨kind, -, children⟩ := stays root h.has h.root_not_mem_elementsBelow
  have inside : ∀ m ∈ ids, s.Has m := h.shows.has linked fun m hm => linked.has_of_mem hm
  have treated : ∀ m ∈ ids, Treated rule s s' put m := fun m hm => by
    by_cases here : m ∈ s.elementsBelow root tag
    · have same := (h.mem_elementsBelow_iff_of_mem linked hm).1 here
      obtain ⟨inner, shows⟩ := becomes m here
      cases kind : s.kind m with
      | element t attrs =>
        obtain rfl : t = tag := by simpa [kind, NodeKind.tag?] using same
        rw [kind] at shows
        exact .becomes kind ((rule_eq t attrs).trans (if_pos (beq_self_eq_true t))) shows
      | _ => simp [kind, NodeKind.tag?] at same
    · obtain ⟨kept, alone, children⟩ := stays m (inside m hm) here
      refine .stays kept alone children fun t attrs kind => ?_
      have other : ¬ (t == tag) = true := fun same => here <|
        (h.mem_elementsBelow_iff_of_mem linked hm).2 <| by
          rw [kind, NodeKind.tag?, beq_iff_eq.1 same]
      rw [rule_eq, if_neg other]
  obtain ⟨ids', shows⟩ := h.shows.replaceAmong treated
  rw [← children] at shows
  exact ⟨ids', kind.trans h.kind, has, shows⟩

end Markup.Store

end HtmlTemplate
