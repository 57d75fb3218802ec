import HtmlTemplate.Proofs.FailedEdits
import HtmlTemplate.Proofs.HeldForests
import HtmlTemplate.Proofs.OwnNodes
import HtmlTemplate.Proofs.Supplanting
import Mathlib.Data.Fintype.EquivFin

/-!
# Copies stand apart

The copy of a tree is the same tree on new nodes, and nothing that is done to the nodes of one of
the two, nodes made on the way included, touches the other (`copy_stands_apart`). What may be done is
any sequence of operations and assignments (`Change`), whether they succeed or fail. Every node of a
well linked store is the root of a tree (`exists_shows`), so that it has a copy when all nodes below
it have a kind.
-/

namespace HtmlTemplate.Markup.Store

variable {own : Nat → Prop} {s s' : Store} {n m f : Nat} {t : Node} {ts : List Node}
  {ns numbers : List Nat}

/-! ### Every node is the root of a tree -/

/-- What is true of a node when it is true of its children is true of all nodes. -/
theorem WellLinked.induction (linked : WellLinked s) {P : Nat → Prop}
    (step : ∀ n, (∀ m ∈ s.children n, P m) → P n) (n : Nat) : P n := by
  have bare {n : Nat} (absent : ¬ s.Has n) : P n := step n fun m mem =>
    absurd (has_of_mem_children mem) absent
  by_cases here : s.Has n
  · have : IsTrans (Fin s.cells.size) fun a b => Relation.TransGen s.IsChild a b :=
      ⟨fun _ _ _ => Relation.TransGen.trans⟩
    have : Std.Irrefl fun a b : Fin s.cells.size => Relation.TransGen s.IsChild a b :=
      ⟨fun a => linked.acyclic a⟩
    have founded := Finite.wellFounded_of_trans_of_irrefl
      fun a b : Fin s.cells.size => Relation.TransGen s.IsChild a b
    have all : ∀ a : Fin s.cells.size, P a := fun a => founded.induction a fun a ih =>
      step a fun m mem => ih ⟨m, linked.has_of_mem mem⟩ (.single ((linked.linked m a).2 mem))
    exact all ⟨n, here⟩
  · exact bare here

theorem exists_shows_of_each (h : ∀ n ∈ ns, ∃ t numbers, Shows s [n] [t] numbers) :
    ∃ ts numbers, Shows s ns ts numbers := by
  induction ns with
  | nil => exact ⟨[], [], .nil⟩
  | cons n ns ih =>
    obtain ⟨t, first, shown⟩ := h n List.mem_cons_self
    obtain ⟨ts, rest, later⟩ := ih fun m mem => h m (List.mem_cons_of_mem n mem)
    exact ⟨[t] ++ ts, first ++ rest, shown.append later⟩

/-- Every node is the root of a tree. -/
theorem WellLinked.exists_shows (linked : WellLinked s) (bare : s.LeavesBare) (n : Nat) :
    ∃ t numbers, Shows s [n] [t] numbers := by
  refine linked.induction (P := fun n => ∃ t numbers, Shows s [n] [t] numbers) (fun n below => ?_) n
  obtain ⟨cs, inner, inside⟩ := exists_shows_of_each below
  refine ⟨_, _, .single (fun leaf => ?_) inside⟩
  rw [bare n leaf] at inside
  cases inside
  rfl

/-- A tree can be copied when all its nodes have a kind. -/
theorem Shows.isCopyable (h : Shows s [n] [t] numbers) (kinds : ∀ m ∈ numbers, s.kind m ≠ .blank) :
    isCopyable t = true := by
  have each := h.each
  rw [Node.preorders_singleton] at each
  unfold Store.isCopyable
  rw [List.all_eq_true]
  intro u hu
  obtain ⟨m, hm, inner, -, shown⟩ := forall₂_exists_of_mem each.flip hu
  obtain ⟨-, -, same, -, -⟩ := shown.of_single
  rw [same]
  cases kind : s.kind m with
  | blank => exact absurd kind (kinds m hm)
  | _ => rfl

/-! ### Changes -/

/-- A change of linked nodes. -/
inductive Change
  /-- A call of an operation. -/
  | edit (e : Edit)
  | setAttr (n : Nat) (name value : String)
  | setData (n : Nat) (data : String)
  /-- Any other change of the tag, the attributes or the data of a node. -/
  | become (n : Nat) (kind : NodeKind)

namespace Change

/-- The store after a change, a failed one included. -/
def run (s : Store) : Change → Store
  | edit e => e.run s
  | setAttr n name value => (Store.setAttr n name value s).2
  | setData n data => (Store.setData n data s).2
  | become n kind => s.modify n fun c => { c with kind := kind }

/-- The nodes that are changed or linked to others. -/
def nodes : Change → List Nat
  | edit e => e.nodes
  | setAttr n _ _ => [n]
  | setData n _ => [n]
  | become n _ => [n]

end Change

/-- The store after a sequence of changes. -/
def changeAll (s : Store) (changes : List Change) : Store := changes.foldl Change.run s

/-- A change stays in a territory when the nodes that it names are there. -/
theorem stays_change {c : Change} (mine : ∀ n ∈ c.nodes, own n) : Stays own s (c.run s) := by
  cases c with
  | edit e => exact stays_run mine
  | setAttr n name value =>
    have hn : own n := mine n List.mem_cons_self
    show Stays own s (Store.setAttr n name value s).2
    unfold Store.setAttr
    split
    · exact stays_setKind hn _
    · exact .refl s
  | setData n data =>
    have hn : own n := mine n List.mem_cons_self
    show Stays own s (Store.setData n data s).2
    unfold Store.setData
    split
    · exact stays_setKind hn _
    · exact stays_setKind hn _
    · exact stays_setKind hn _
    · exact .refl s
  | become n kind => exact stays_setKind (mine n List.mem_cons_self) kind

theorem stays_changeAll {changes : List Change} (mine : ∀ c ∈ changes, ∀ n ∈ c.nodes, own n) :
    Stays own s (s.changeAll changes) :=
  stays_foldl (fun _ c hc => stays_change (mine c hc)) s

/-- What is not below a node without a parent is a territory, with all that is yet to come. -/
theorem territory_outside (linked : WellLinked s) (here : s.Has f) (top : s.parent? f = none) :
    Territory (fun n => ¬ s.Below n f) s := by
  refine ⟨fun n absent below => ?_, fun n p outside link below => ?_,
    fun p n outside mem below => ?_⟩
  · rcases Relation.ReflTransGen.cases_head below with rfl | ⟨p, link, -⟩
    · exact absent here
    · exact absent (has_of_parent?_eq_some link)
  · exact outside (.head link below)
  · rcases Relation.ReflTransGen.cases_head below with rfl | ⟨q, link, rest⟩
    · rw [(linked.linked n p).2 mem] at top
      cases top
    · obtain rfl : q = p := rightUnique_isChild s link ((linked.linked n p).2 mem)
      exact outside rest

/-- A tree is still there when its nodes are as they were and no node is lost. -/
theorem Shows.tree?_of_cells (linked : WellLinked s) (h : Shows s [n] [t] numbers) (here : s.Has n)
    (grown : ∀ m, s.Has m → s'.Has m) (same : ∀ m, s.Below m n → s'.cell m = s.cell m) :
    s'.tree? n = some t := by
  have below {m : Nat} (hm : m ∈ numbers) : s.Below m n := by
    obtain ⟨a, ha, below⟩ := h.below_of_mem linked hm
    rwa [List.mem_singleton.1 ha] at below
  have still : Shows s' [n] [t] numbers := h.congr fun m hm =>
    ⟨congrArg Cell.kind (same m (below hm)), congrArg Cell.children (same m (below hm))⟩
  have more : s.cells.size ≤ s'.cells.size := by
    by_contra fewer
    exact Nat.lt_irrefl _ (grown s'.cells.size (Nat.lt_of_not_le fewer))
  have enough := Nat.le_trans (h.length_le linked here) more
  have read := still.mapM_treeWithin (Nat.le_succ_of_le enough)
  simpa [Store.tree?, Option.bind_eq_some_iff] using read

/-! ### The copy and the original -/

/-- A node with a tree of nodes that all have a kind is copied to new nodes. -/
theorem copy_eq (linked : WellLinked s) (here : s.Has n)
    (shows : Shows s [n] [t] numbers) (kinds : ∀ m, s.Below m n → s.kind m ≠ .blank) :
    copy n s = (.ok s.cells.size, (s.load t).2) := by
  have copyable : isCopyable t = true := shows.isCopyable fun m hm => by
    obtain ⟨a, ha, below⟩ := shows.below_of_mem linked hm
    rw [List.mem_singleton.1 ha] at below
    exact kinds m below
  unfold Store.copy
  rw [shows.tree? linked here]
  simp only [copyable, if_true, load_fst]

/-- Adding a tree leaves all nodes as they were. -/
theorem unchanged_load (linked : WellLinked s) (t : Node) : Unchanged s (s.load t).2 := by
  intro m hm
  obtain ⟨kind, children⟩ := (loadedTree_load s t).same m hm
  exact cell_eq kind ((loaded_load linked t).grown.parent? hm) children

/-- A node of any tree whose nodes have a kind can be copied. The copy is the same tree, has no
parent, consists of new nodes with links that agree, and leaves all nodes as they were. Whatever is
done to nodes of the copy, or to nodes made on the way, leaves all nodes that were there before as
they were, and whatever is done to other nodes leaves those of the copy as they were made. -/
theorem copy_stands_apart (linked : WellLinked s) (bare : s.LeavesBare) (here : s.Has n)
    (kinds : ∀ m, s.Below m n → s.kind m ≠ .blank) :
    ∃ t m s', copy n s = (.ok m, s') ∧ s.tree? n = some t ∧ s'.tree? m = some t ∧
      s'.parent? m = none ∧ WellLinked s' ∧ (∀ k, s'.Below k m → ¬ s.Has k) ∧ Unchanged s s' ∧
      (∀ changes : List Change, (∀ c ∈ changes, ∀ k ∈ c.nodes, s'.InsideOf m k) →
        Unchanged s (s'.changeAll changes) ∧ (s'.changeAll changes).tree? n = some t) ∧
      ∀ changes : List Change, (∀ c ∈ changes, ∀ k ∈ c.nodes, ¬ s'.Below k m) →
        (∀ k, s'.Below k m → (s'.changeAll changes).cell k = s'.cell k) ∧
          (s'.changeAll changes).tree? m = some t := by
  obtain ⟨t, numbers, shows⟩ := linked.exists_shows bare n
  have loaded := loaded_load linked t
  have added := (loadedTree_load s t).shows
  have same := unchanged_load linked t
  rw [load_fst] at loaded
  have fresh (k : Nat) (below : (s.load t).2.Below k s.cells.size) : ¬ s.Has k := fun hk =>
    loaded.fresh (loaded.grown.has_of_below linked hk below)
  refine ⟨t, s.cells.size, (s.load t).2, copy_eq linked here shows kinds, shows.tree? linked here,
    added.tree? loaded.wellLinked loaded.has, loaded.top, loaded.wellLinked, fresh, same,
    fun changes mine => ?_, fun changes mine => ?_⟩
  · obtain ⟨-, grown, apart⟩ :=
      stays_changeAll mine (territory_of_fragment loaded.wellLinked loaded.top)
    have kept : Unchanged s ((s.load t).2.changeAll changes) := fun k hk => by
      refine (apart k ?_).trans (same k hk)
      rintro (below | absent)
      · exact fresh k below hk
      · exact absent (loaded.grown.has hk)
    refine ⟨kept, shows.tree?_of_cells linked here (fun k hk => grown k (loaded.grown.has hk))
      fun k below => kept k ?_⟩
    rcases Relation.ReflTransGen.cases_head below with rfl | ⟨p, link, -⟩
    · exact here
    · exact has_of_parent?_eq_some link
  · obtain ⟨-, grown, apart⟩ :=
      stays_changeAll mine (territory_outside loaded.wellLinked loaded.has loaded.top)
    have kept (k : Nat) (below : (s.load t).2.Below k s.cells.size) :
        ((s.load t).2.changeAll changes).cell k = (s.load t).2.cell k :=
      apart k (not_not.2 below)
    exact ⟨kept, added.tree?_of_cells loaded.wellLinked loaded.has grown kept⟩

/-- The list is copied. Emptying the copy leaves the list as it is, and so do changes of the list
and its items the copy. -/
theorem copy_stands_apart_sampleList :
    WellLinked sampleList ∧ sampleList.LeavesBare ∧ sampleList.Has 3 ∧
      ∃ t m s', copy 3 sampleList = (.ok m, s') ∧ sampleList.tree? 3 = some t ∧
        s'.tree? m = some t ∧ (s'.changeAll [.edit (.clear m)]).tree? 3 = some t ∧
        (s'.changeAll [.setAttr 3 "id" "x", .setData 1 "z", .edit (.unwrap 3)]).tree? m = some t := by
  have linked : WellLinked sampleList :=
    wellLinked_runAll wellLinked_empty (allAllowed_of_isAllAllowed (by decide +kernel))
  have bare : sampleList.LeavesBare := by decide +kernel
  have here : sampleList.Has 3 := by decide +kernel
  have whole : ∀ m < sampleList.cells.size, sampleList.kind m ≠ .blank := by decide +kernel
  have kinds (m : Nat) (below : sampleList.Below m 3) : sampleList.kind m ≠ .blank := by
    rcases Relation.ReflTransGen.cases_head below with rfl | ⟨p, link, -⟩
    · exact whole 3 here
    · exact whole m (has_of_parent?_eq_some link)
  obtain ⟨t, m, s', run, original, copied, -, -, fresh, -, inside, outside⟩ :=
    copy_stands_apart linked bare here kinds
  refine ⟨linked, bare, here, t, m, s', run, original, copied, (inside _ ?_).2, (outside _ ?_).2⟩
  · have mine : s'.InsideOf m m := .inl .refl
    simpa [Change.nodes, Edit.nodes] using mine
  · have old : ∀ k ∈ [1, 3], ¬ s'.Below k m := fun k hk below => by
      have : ∀ k ∈ [1, 3], sampleList.Has k := by decide +kernel
      exact fresh k below (this k hk)
    have first := old 1 (by decide)
    have third := old 3 (by decide)
    simp [Change.nodes, Edit.nodes, first, third]

end HtmlTemplate.Markup.Store
