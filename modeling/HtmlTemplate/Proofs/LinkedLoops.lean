import HtmlTemplate.Proofs.LinkedStacks
import HtmlTemplate.Proofs.OwnNodes
import HtmlTemplate.Proofs.Stops

/-!
# Loops in place

`loopAt` replaces a loop in a tree of linked nodes. In each round the children of the loop are
copied into a new fragment, rewritten there and taken out; when all rounds are done their nodes take
the place of the loop. A rewriting that works inside its fragment (`WorksInside`) makes nodes that
neither the tree nor another round has (`Made`), so that the loop gives way to trees of its own
(`ends_loopAt`), and one that fails leaves all nodes of the tree as they were (`fails_loopAt`).
-/

namespace HtmlTemplate.Expand

open HtmlTemplate.Markup HtmlTemplate.Markup.Store HtmlTemplate.Stacks

variable {V ε : Type}

/-- Work on linked nodes that may fail. -/
abbrev InPlace (ε α : Type) := ExceptT ε (StateM Store) α

section Definitions

variable (refused : Obstacle → ε) (rewrite : V → Nat → InPlace ε Unit) (q : Nat)

/-- Copies the children of a node into a new fragment. -/
def copyInside : InPlace ε Nat := do
  let copies ← (copyAll ((← get).children q)).adapt refused
  modifyGet fun s => (s.cells.size, (Edit.make .fragment copies).run s)

/-- The nodes that a round of a loop makes for a member. -/
def roundAt (v : V) : InPlace ε (List Nat) := do
  let f ← copyInside refused q
  rewrite v f
  let roots := (← get).children f
  modify (·.clear f)
  return roots

/-- The nodes that the rounds of a loop make. -/
def roundsAt : List V → InPlace ε (List (List Nat))
  | [] => return []
  | v :: vs => do
    let roots ← roundAt refused rewrite q v
    let more ← roundsAt vs
    return roots :: more

/-- Replaces a loop by the nodes that its rounds make. -/
def loopAt (vs : List V) : InPlace ε (List (List Nat)) := do
  let made ← roundsAt refused rewrite q vs
  let _ ← (onStore (Store.replaceWith q made.flatten)).adapt refused
  return made

end Definitions

/-- What is done with a fragment consists of steps on what is inside it, whatever it comes to. -/
def WorksInside (x : Nat → InPlace ε Unit) : Prop :=
  ∀ (s : Store) f, WellLinked s → s.parent? f = none →
    Relation.ReflTransGen (Step (s.InsideOf f)) s (x f s).2

/-- In place, one forest is made into another. -/
def Makes (x : Nat → InPlace ε Unit) (forest forest' : List Node) : Prop :=
  ∀ (s : Store) f ids, WellLinked s → HoldsForest s f forest ids → s.parent? f = none →
    ∃ s' ids', Ends (x f) s () s' ∧ HoldsForest s' f forest' ids'

/-- In place, the rewriting of a forest fails. -/
def Breaks (x : Nat → InPlace ε Unit) (forest : List Node) (e : ε) : Prop :=
  ∀ (s : Store) f ids, WellLinked s → HoldsForest s f forest ids → s.parent? f = none →
    ∃ s', Fails (x f) s e s'

theorem ends_adapt {ε' α : Type} {x : ExceptT ε (StateM Store) α} {s s' : Store} {a : α}
    (run : Ends x s a s') (g : ε → ε') : Ends (x.adapt g) s a s' := by
  show @Eq (Except ε' α × Store) ((x s).1.mapError g, (x s).2) (.ok a, s')
  rw [run]
  rfl

theorem fails_adapt {ε' α : Type} {x : ExceptT ε (StateM Store) α} {s s' : Store} {e : ε}
    (run : Fails x s e s') (g : ε → ε') : Fails (x.adapt g) s (g e) s' := by
  show @Eq (Except ε' α × Store) ((x s).1.mapError g, (x s).2) (.error (g e), s')
  rw [run]
  rfl

variable (refused : Obstacle → ε) {rewrite : V → Nat → InPlace ε Unit} {s s' t t' : Store}
  {f q p n : Nat} {ids ms : List Nat} {forest nodes : List Node} {v : V} {vs : List V} {e : ε}

/-! ### Untouched nodes -/

/-- The nodes of a store are as they were; others may have been added. -/
structure Keeps (s s' : Store) : Prop where
  wellLinked : WellLinked s'
  has : ∀ n, s.Has n → s'.Has n
  cell : ∀ n, s.Has n → s'.cell n = s.cell n

namespace Keeps

theorem refl (linked : WellLinked s) : Keeps s s := ⟨linked, fun _ => id, fun _ _ => rfl⟩

theorem trans (first : Keeps s t) (later : Keeps t s') : Keeps s s' :=
  ⟨later.wellLinked, fun n hn => later.has n (first.has n hn),
    fun n hn => (later.cell n (first.has n hn)).trans (first.cell n hn)⟩

variable (h : Keeps s s')
include h

theorem kind (hn : s.Has n) : s'.kind n = s.kind n := congrArg Cell.kind (h.cell n hn)

theorem parent? (hn : s.Has n) : s'.parent? n = s.parent? n := congrArg Cell.parent? (h.cell n hn)

theorem children (hn : s.Has n) : s'.children n = s.children n :=
  congrArg Cell.children (h.cell n hn)

theorem sameAt (hn : s.Has n) : SameAt s s' n := ⟨h.kind hn, h.children hn⟩

theorem grown : Extends s' s := ⟨fun hn => h.has _ hn, fun hn => h.parent? hn⟩

/-- What a loop shows it shows afterwards. -/
theorem shows_children (linked : WellLinked s) (hq : s.Has q)
    (shows : Shows s (s.children q) forest ids) : Shows s' (s'.children q) forest ids := by
  rw [h.children hq]
  refine shows.congr fun m hm => h.sameAt ?_
  exact shows.has linked (fun a ha => linked.has_of_mem ha) m hm

end Keeps

/-! ### Copies -/

theorem keeps_of_copied (copied : Copied s forest ms t) : Keeps s t :=
  ⟨copied.wellLinked, fun _ hn => copied.grown.has hn, fun n hn =>
    cell_eq (copied.same n hn).1 (copied.grown.parent? hn) (copied.same n hn).2⟩

theorem fails_copy (linked : WellLinked s) {tree : Node} (h : Stands s n tree)
    (uncopyable : isCopyable tree = false) :
    Fails (onStore (Store.copy n)) s (.link .uncopyable) s := by
  obtain ⟨here, numbers, shows⟩ := h
  have refuses : Store.copy n s = (.error .uncopyable, s) := by
    unfold Store.copy
    rw [shows.tree? linked here]
    simp only [uncopyable]
    rfl
  unfold Fails onStore
  rw [refuses]

/-- Trees one of which cannot be copied are not copied. -/
theorem fails_copyAll {ns : List Nat} (linked : WellLinked s)
    (h : List.Forall₂ (Stands s) ns forest) (uncopyable : forest.all isCopyable = false) :
    ∃ s', Fails (copyAll ns) s (.link .uncopyable) s' ∧ Keeps s s' := by
  induction ns generalizing s forest with
  | nil =>
    cases h
    cases uncopyable
  | cons n ns ih =>
    cases h with
    | @cons _ tree _ trees hn hns =>
      by_cases copyable : isCopyable tree = true
      · obtain ⟨s₁, run, first⟩ := ends_copy linked hn copyable
        have still : List.Forall₂ (Stands s₁) ns trees := hns.imp fun m u hm =>
          hm.of_sameAt linked (first.grown.has hm.1) first.same
        rw [List.all_cons, copyable, Bool.true_and] at uncopyable
        obtain ⟨s', fails, keeps⟩ := ih first.wellLinked still uncopyable
        refine ⟨s', ?_, (keeps_of_copied first).trans keeps⟩
        exact fails_bind_iff.2 (.inr ⟨_, s₁, run, fails_bind_iff.2 (.inl fails)⟩)
      · have fails := fails_copy linked hn (Bool.eq_false_iff.2 copyable)
        exact ⟨s, fails_bind_iff.2 (.inl fails), .refl linked⟩

/-! ### Copies in a fragment -/

/-- Nodes were put at the end of the children of a node. -/
structure Appended (s : Store) (p : Nat) (ms : List Nat) (s' : Store) : Prop where
  has : ∀ n, s'.Has n ↔ s.Has n
  last : s'.children p = s.children p ++ ms
  kind : ∀ n, s'.kind n = s.kind n
  children : ∀ n, n ≠ p → s'.children n = s.children n
  parent? : ∀ n, n ∉ ms → s'.parent? n = s.parent? n

theorem appended_appendAll (hp : s.Has p) (hms : ∀ m ∈ ms, s.Has m)
    (free : ∀ m ∈ ms, s.parent? m = none) (distinct : ms.Nodup) :
    Appended s p ms (s.appendAll p ms) := by
  induction ms generalizing s with
  | nil =>
    exact ⟨fun _ => .rfl, (List.append_nil _).symm, fun _ => rfl, fun _ _ => rfl, fun _ _ => rfl⟩
  | cons m ms ih =>
    obtain ⟨fresh, distinct⟩ := List.nodup_cons.1 distinct
    have hm := hms m List.mem_cons_self
    have one : s.appendChild p m = s.attachAt p (s.children p).length m := by
      rw [appendChild, detach_of_parent?_eq_none (free m List.mem_cons_self)]
    have parents (n : Nat) :
        (s.appendChild p m).parent? n = if n = m then some p else s.parent? n := by
      rw [one, parent?_attachAt hm]
    have later := ih (s := s.appendChild p m) ((has_appendChild ..).2 hp)
      (fun a ha => (has_appendChild ..).2 (hms a (List.mem_cons_of_mem m ha)))
      (fun a ha => by
        rw [parents, if_neg (ne_of_mem_of_not_mem ha fresh)]
        exact free a (List.mem_cons_of_mem m ha)) distinct
    refine ⟨fun n => (later.has n).trans (has_appendChild ..), ?_, fun n => ?_, fun n other => ?_,
      fun n absent => ?_⟩
    · apply later.last.trans
      rw [one, children_attachAt hp, if_pos rfl]
      simp
    · apply (later.kind n).trans
      rw [one, kind_attachAt]
    · apply (later.children n other).trans
      rw [one, children_attachAt hp, if_neg other]
    · obtain ⟨other, absent⟩ := not_or.1 (mt List.mem_cons.2 absent)
      apply (later.parent? n absent).trans
      rw [parents, if_neg other]

/-- A forest was put into a new fragment. -/
structure CopiedInto (s : Store) (f : Nat) (forest : List Node) (s' : Store) : Prop where
  keeps : Keeps s s'
  holds : ∃ ids, HoldsForest s' f forest ids
  top : s'.parent? f = none
  fresh : ¬ s.Has f

theorem run_make_fragment (s : Store) (ms : List Nat) :
    (Edit.make .fragment ms).run s = (s.new .fragment).2.appendAll s.cells.size ms := by
  have holds : ((s.new .fragment).2.kind s.cells.size).holdsChildren = true := by
    rw [kind_new, if_pos rfl]
    rfl
  show (onHolder s.cells.size (·.appendAll s.cells.size ms) (s.new .fragment).2).2 = _
  rw [onHolder, if_pos holds]

/-- Copies become the children of a new fragment. -/
theorem copiedInto_of_copied (copied : Copied s forest ms t) :
    CopiedInto s t.cells.size forest ((Edit.make .fragment ms).run t) := by
  have linked := wellLinked_make copied.wellLinked .fragment fun m hm => copied.has hm
  rw [run_make_fragment] at linked ⊢
  have root : (t.new .fragment).2.Has t.cells.size := (has_new t _ _).2 (.inr rfl)
  have grown {n : Nat} (hn : t.Has n) : (t.new .fragment).2.Has n := (has_new t _ n).2 (.inl hn)
  have appended : Appended (t.new .fragment).2 t.cells.size ms _ :=
    appended_appendAll root (fun m hm => grown (copied.has hm))
      (fun m hm => by
        rw [parent?_new]
        exact copied.free m hm) copied.nodup
  have bare : t.cell t.cells.size = ⟨.blank, none, []⟩ := cell_of_not_has (Nat.lt_irrefl _)
  have same {n : Nat} (hn : t.Has n) :
      SameAt t ((t.new .fragment).2.appendAll t.cells.size ms) n := by
    have other : n ≠ t.cells.size := Nat.ne_of_lt hn
    obtain ⟨kind, children⟩ := sameAt_new (k := .fragment) hn
    exact ⟨(appended.kind n).trans kind, (appended.children n other).trans children⟩
  refine ⟨⟨linked, fun n hn => ?_, fun n hn => ?_⟩,
    ⟨List.range' s.cells.size (Node.preorders forest).length, ?_, ?_, ?_⟩, ?_, fun hf => ?_⟩
  · exact (appended.has n).2 (grown (copied.grown.has hn))
  · have outside : n ∉ ms := fun mem => copied.not_has mem hn
    rw [← (keeps_of_copied copied).cell n hn]
    obtain ⟨kind, children⟩ := same (copied.grown.has hn)
    refine cell_eq kind ?_ children
    rw [appended.parent? n outside, parent?_new]
  · rw [appended.kind, kind_new, if_pos rfl]
  · exact (appended.has _).2 root
  · rw [appended.last, children_new, Store.children, bare, List.nil_append]
    refine copied.shows.congr fun m hm => same ?_
    rw [Has, copied.size]
    exact (List.mem_range'_1.1 hm).2
  · rw [appended.parent? _ fun mem => Nat.lt_irrefl _ (copied.has mem), parent?_new, Store.parent?,
      bare]
  · exact Nat.lt_irrefl _ (copied.grown.has hf)

theorem stands_children (linked : WellLinked s) (shows : Shows s (s.children q) forest ids) :
    List.Forall₂ (Stands s) (s.children q) forest :=
  forall₂_imp_of_mem shows.roots fun _ hm _ _ ⟨inner, _, shown⟩ =>
    ⟨linked.has_of_mem hm, inner, shown⟩

/-- What is in a node can be copied into a new fragment. -/
theorem ends_copyInside (linked : WellLinked s) (shows : Shows s (s.children q) forest ids)
    (copyable : ∀ t ∈ forest, isCopyable t = true) :
    ∃ f s', Ends (copyInside refused q) s f s' ∧ CopiedInto s f forest s' := by
  have stand := stands_children linked shows
  obtain ⟨ms, t, run, copied⟩ := ends_copyAll linked stand copyable
  refine ⟨t.cells.size, _, ?_, copiedInto_of_copied copied⟩
  refine ends_get_bind_iff.2 (ends_bind_iff.2 ⟨ms, t, ends_adapt run refused, ?_⟩)
  exact ends_modifyGet_iff.2 rfl

/-- Where something in a node cannot be copied, no fragment comes of it. -/
theorem fails_copyInside (linked : WellLinked s) (shows : Shows s (s.children q) forest ids)
    (uncopyable : forest.all isCopyable = false) :
    ∃ s', Fails (copyInside refused q) s (refused (.link .uncopyable)) s' ∧ Keeps s s' := by
  obtain ⟨s', fails, keeps⟩ := fails_copyAll linked (stands_children linked shows) uncopyable
  refine ⟨s', (run_get_bind _ s).trans ?_, keeps⟩
  exact fails_bind_iff.2 (.inl (fails_adapt fails refused))

/-! ### Rounds -/

/-- What was there before is not inside the fragment. -/
theorem CopiedInto.not_insideOf (h : CopiedInto s f forest t) (linked : WellLinked s)
    (hn : s.Has n) : ¬ t.InsideOf f n := by
  rintro (below | absent)
  · exact h.fresh (h.keeps.grown.has_of_below linked hn below)
  · exact absent (h.keeps.has n hn)

/-- Steps inside the fragment, taken together, stay there. -/
theorem CopiedInto.stays (h : CopiedInto s f forest t)
    (steps : Relation.ReflTransGen (Step (t.InsideOf f)) t t') :
    WellLinked t' ∧ Territory (t.InsideOf f) t' ∧ (∀ n, t.Has n → t'.Has n) ∧
      ∀ n, ¬ t.InsideOf f n → t'.cell n = t.cell n := by
  obtain ⟨linked, stays⟩ := stays_of_steps steps h.keeps.wellLinked
  exact ⟨linked, stays (territory_of_fragment h.keeps.wellLinked h.top)⟩

/-- Work inside the fragment leaves what was there before as it is. -/
theorem CopiedInto.keeps_of_steps (h : CopiedInto s f forest t) (linked : WellLinked s)
    (steps : Relation.ReflTransGen (Step (t.InsideOf f)) t t') : Keeps s t' := by
  obtain ⟨linked', -, grown, same⟩ := h.stays steps
  refine ⟨linked', fun n hn => grown n (h.keeps.has n hn), fun n hn => ?_⟩
  exact (same n (h.not_insideOf linked hn)).trans (h.keeps.cell n hn)

/-- What a round has made: the roots, their trees and the numbers of all nodes in these. -/
structure MadeRound where
  roots : List Nat
  nodes : List Node
  numbers : List Nat

/-- Rounds have made trees out of new nodes, no two of them with a common node. The roots have no
parent yet. -/
structure Made (s : Store) (rounds : List MadeRound) (s' : Store) : Prop where
  keeps : Keeps s s'
  shows : ∀ r ∈ rounds, Shows s' r.roots r.nodes r.numbers
  free : ∀ r ∈ rounds, ∀ m ∈ r.roots, s'.parent? m = none
  has : ∀ m ∈ rounds.flatMap MadeRound.numbers, s'.Has m
  fresh : ∀ m ∈ rounds.flatMap MadeRound.numbers, ¬ s.Has m
  distinct : (rounds.flatMap MadeRound.numbers).Nodup

theorem made_nil (linked : WellLinked s) : Made s [] s :=
  ⟨.refl linked, nofun, nofun, nofun, nofun, List.nodup_nil⟩

/-- Later rounds leave alone what earlier ones have made. -/
theorem Made.cons {r : MadeRound} {rounds : List MadeRound} (first : Made s [r] t)
    (later : Made t rounds s') : Made s (r :: rounds) s' := by
  have shown := first.shows r (List.mem_singleton_self r)
  have numbers : [r].flatMap MadeRound.numbers = r.numbers := List.flatMap_singleton ..
  have here : ∀ m ∈ r.numbers, t.Has m := numbers ▸ first.has
  have fresh : ∀ m ∈ r.numbers, ¬ s.Has m := numbers ▸ first.fresh
  refine ⟨first.keeps.trans later.keeps, fun r' hr => ?_, fun r' hr m hm => ?_, fun m hm => ?_,
    fun m hm => ?_, ?_⟩
  · rcases List.mem_cons.1 hr with rfl | hr
    · exact shown.congr fun m hm => later.keeps.sameAt (here m hm)
    · exact later.shows r' hr
  · rcases List.mem_cons.1 hr with rfl | hr
    · rw [later.keeps.parent? (here m (shown.sublist.subset hm))]
      exact first.free r' (List.mem_singleton_self r') m hm
    · exact later.free r' hr m hm
  · rcases List.mem_append.1 hm with hm | hm
    · exact later.keeps.has m (here m hm)
    · exact later.has m hm
  · rcases List.mem_append.1 hm with hm | hm
    · exact fresh m hm
    · exact fun old => later.fresh m hm (first.keeps.has m old)
  · rw [List.flatMap_cons, List.nodup_append']
    exact ⟨numbers ▸ first.distinct, later.distinct, fun m hm hm' => later.fresh m hm' (here m hm)⟩

/-- What is taken out of the fragment is new. -/
theorem CopiedInto.made (h : CopiedInto s f forest t) (linked : WellLinked s)
    (steps : Relation.ReflTransGen (Step (t.InsideOf f)) t t')
    (holds : HoldsForest t' f nodes ids) :
    Made s [⟨t'.children f, nodes, ids⟩] (t'.clear f) := by
  obtain ⟨linked', territory, -, -⟩ := h.stays steps
  have keeps := h.keeps_of_steps linked steps
  have hf : t.InsideOf f f := .inl .refl
  obtain ⟨-, grown, same⟩ := stays_clear hf territory
  have below : ∀ m ∈ ids, Relation.TransGen t'.IsChild m f := fun m => (holds.mem_iff linked').1
  have mine : ∀ m ∈ ids, t.InsideOf f m := fun m hm =>
    territory.own_of_below linked' hf (below m hm).to_reflTransGen
  have other : ∀ m ∈ ids, m ≠ f := by
    rintro m hm rfl
    exact linked'.acyclic m (below m hm)
  have alone : [(⟨t'.children f, nodes, ids⟩ : MadeRound)].flatMap MadeRound.numbers = ids :=
    List.flatMap_singleton ..
  refine ⟨⟨linked'.clear f, fun n hn => grown n (keeps.has n hn), fun n hn => ?_⟩, fun r hr => ?_,
    fun r hr m hm => ?_, ?_, ?_, ?_⟩
  · exact (same n (h.not_insideOf linked hn)).trans (keeps.cell n hn)
  · rw [List.mem_singleton.1 hr]
    refine holds.shows.congr fun m hm => ⟨kind_clear .., ?_⟩
    rw [WellLinked.children_clear, if_neg (other m hm)]
  · rw [List.mem_singleton.1 hr] at hm
    rw [linked'.parent?_clear, if_pos hm]
  · rw [alone]
    intro m hm
    exact (has_clear ..).2 (holds.shows.has linked' (fun a ha => linked'.has_of_mem ha) m hm)
  · rw [alone]
    exact fun m hm old => h.not_insideOf linked old (mine m hm)
  · rw [alone]
    exact holds.shows.nodup linked' (linked'.distinct f) fun _ ha _ hb =>
      linked'.eq_of_below_of_mem ha hb

section Rounds

variable (linked : WellLinked s) (copyable : ∀ t ∈ forest, isCopyable t = true)
  (shows : Shows s (s.children q) forest ids)
include linked copyable shows

/-- A round makes out of new nodes what the rewriting of the body makes of it. -/
theorem ends_roundAt (inside : WorksInside (rewrite v)) (makes : Makes (rewrite v) forest nodes) :
    ∃ roots numbers s', Ends (roundAt refused rewrite q v) s roots s' ∧
      Made s [⟨roots, nodes, numbers⟩] s' := by
  obtain ⟨f, t, run, copied⟩ := ends_copyInside refused linked shows copyable
  obtain ⟨ids', held⟩ := copied.holds
  obtain ⟨t', numbers, rewritten, holds⟩ := makes t f ids' copied.keeps.wellLinked held copied.top
  have steps := inside t f copied.keeps.wellLinked copied.top
  rw [rewritten] at steps
  refine ⟨t'.children f, numbers, t'.clear f, ?_, copied.made linked steps holds⟩
  refine ends_bind_iff.2 ⟨f, t, run, ends_bind_iff.2 ⟨(), t', rewritten, ?_⟩⟩
  refine ends_get_bind_iff.2 (ends_bind_iff.2 ⟨⟨⟩, _, ends_modify_iff.2 rfl, ?_⟩)
  exact ends_pure_iff.2 ⟨rfl, rfl⟩

/-- A rewriting that fails leaves what was there as it was. -/
theorem fails_roundAt (inside : WorksInside (rewrite v)) (breaks : Breaks (rewrite v) forest e) :
    ∃ s', Fails (roundAt refused rewrite q v) s e s' ∧ Keeps s s' := by
  obtain ⟨f, t, run, copied⟩ := ends_copyInside refused linked shows copyable
  obtain ⟨ids', held⟩ := copied.holds
  obtain ⟨t', failed⟩ := breaks t f ids' copied.keeps.wellLinked held copied.top
  have steps := inside t f copied.keeps.wellLinked copied.top
  rw [failed] at steps
  refine ⟨t', ?_, copied.keeps_of_steps linked steps⟩
  exact fails_bind_iff.2 (.inr ⟨f, t, run, fails_bind_iff.2 (.inl failed)⟩)

end Rounds

section Loops

variable (linked : WellLinked s) (shows : Shows s (s.children q) forest ids) (hq : s.Has q)
  {results : List (List Node)}
  (makes : List.Forall₂ (fun v nodes => WorksInside (rewrite v) ∧ Makes (rewrite v) forest nodes)
    vs results)
include linked shows hq makes

/-- The rounds make, one after another, what the rewriting makes of the body. -/
theorem ends_roundsAt (copyable : vs ≠ [] → ∀ t ∈ forest, isCopyable t = true) :
    ∃ made s', Ends (roundsAt refused rewrite q vs) s (made.map MadeRound.roots) s' ∧
      made.map MadeRound.nodes = results ∧ Made s made s' := by
  induction makes generalizing s with
  | nil => exact ⟨[], s, ends_pure_iff.2 ⟨rfl, rfl⟩, rfl, made_nil linked⟩
  | cons here _ ih =>
    have copyable := copyable (List.cons_ne_nil _ _)
    obtain ⟨roots, numbers, t, run, first⟩ :=
      ends_roundAt refused linked copyable shows here.1 here.2
    obtain ⟨made, s', rest, same, later⟩ := ih first.keeps.wellLinked
      (first.keeps.shows_children linked hq shows) (first.keeps.has q hq) fun _ => copyable
    refine ⟨_ :: made, s', ?_, congrArg _ same, first.cons later⟩
    exact ends_bind_iff.2 ⟨roots, t, run, ends_bind_iff.2 ⟨_, s', rest,
      ends_pure_iff.2 ⟨rfl, rfl⟩⟩⟩

/-- When all rewritings before one that fails have ended, the rounds fail as this one does. -/
theorem fails_roundsAt (copyable : ∀ t ∈ forest, isCopyable t = true)
    (inside : WorksInside (rewrite v)) (breaks : Breaks (rewrite v) forest e)
    (later : List V) :
    ∃ s', Fails (roundsAt refused rewrite q (vs ++ v :: later)) s e s' ∧ Keeps s s' := by
  induction makes generalizing s with
  | nil =>
    obtain ⟨s', failed, keeps⟩ :=
      fails_roundAt refused linked copyable shows inside breaks
    exact ⟨s', fails_bind_iff.2 (.inl failed), keeps⟩
  | cons here _ ih =>
    obtain ⟨roots, numbers, t, run, first⟩ :=
      ends_roundAt refused linked copyable shows here.1 here.2
    obtain ⟨s', failed, keeps⟩ := ih first.keeps.wellLinked
      (first.keeps.shows_children linked hq shows) (first.keeps.has q hq)
    refine ⟨s', ?_, first.keeps.trans keeps⟩
    exact fails_bind_iff.2 (.inr ⟨roots, t, run, fails_bind_iff.2 (.inl failed)⟩)

end Loops

/-! ### Loops -/

/-- A loop gave way to what its rounds made: trees of new nodes, no two of them with a common node.
All other nodes are as they were, but for the list of children that the loop stood in. -/
structure Unrolled (s : Store) (q : Nat) (results : List (List Node)) (made : List (List Nat))
    (s' : Store) : Prop where
  wellLinked : WellLinked s'
  trees : made.map (·.map s'.tree?) = results.map (·.map some)
  distinct : (made.flatten.flatMap s'.preorder).Nodup
  fresh : ∀ m ∈ made.flatten.flatMap s'.preorder, ¬ s.Has m
  kind : ∀ n, s.Has n → s'.kind n = s.kind n
  children : ∀ n, s.Has n → s'.children n = putFor q made.flatten (s.children n)
  parent? : ∀ n, s.Has n → s'.parent? n = if n = q then none else s.parent? n

section Shows

variable {ns : List Nat}

/-- Trees that are shown can be read off. -/
theorem map_tree?_of_shows (linked : WellLinked s) (shows : Shows s ns nodes ids)
    (here : ∀ n ∈ ns, s.Has n) : ns.map s.tree? = nodes.map some := by
  have each : List.Forall₂ (fun n t => s.tree? n = some t) ns nodes :=
    forall₂_imp_of_mem shows.roots fun n hn t _ ⟨_, _, shown⟩ => shown.tree? linked (here n hn)
  have same : List.Forall₂ Eq (ns.map s.tree?) (nodes.map some) :=
    List.forall₂_map_left_iff.2 (List.forall₂_map_right_iff.2 each)
  rwa [List.forall₂_eq_eq_eq] at same

/-- The numbers of different nodes are read off below the roots. -/
theorem flatMap_preorder_of_shows (shows : Shows s ns nodes ids) (distinct : ids.Nodup)
    (here : ∀ m ∈ ids, s.Has m) : ns.flatMap s.preorder = ids := by
  have sub : ids ⊆ List.range s.cells.size := fun m hm => List.mem_range.2 (here m hm)
  have few : ids.length ≤ s.cells.size := by simpa using distinct.length_le_of_subset sub
  exact shows.flatMap_preorderWithin (Nat.le_succ_of_le few)

theorem shows_flatMap {rounds : List MadeRound}
    (shows : ∀ r ∈ rounds, Shows s r.roots r.nodes r.numbers) :
    Shows s (rounds.flatMap MadeRound.roots) (rounds.flatMap MadeRound.nodes)
      (rounds.flatMap MadeRound.numbers) := by
  induction rounds with
  | nil => exact .nil
  | cons r rounds ih =>
    have later := ih fun r' hr => shows r' (List.mem_cons_of_mem r hr)
    exact (shows r List.mem_cons_self).append later

end Shows

section Loops

variable (linked : WellLinked s) (shows : Shows s (s.children q) forest ids)
  (link : s.parent? q = some p) {results : List (List Node)}
  (makes : List.Forall₂ (fun v nodes => WorksInside (rewrite v) ∧ Makes (rewrite v) forest nodes)
    vs results)
include linked shows link makes

/-- A loop whose bodies can be rewritten gives way to what they come to. -/
theorem ends_loopAt (copyable : vs ≠ [] → ∀ t ∈ forest, isCopyable t = true) :
    ∃ made s', Ends (loopAt refused rewrite q vs) s made s' ∧ Unrolled s q results made s' := by
  have hq : s.Has q := has_of_parent?_eq_some link
  have hp : s.Has p := has_of_mem_children ((linked.linked q p).1 link)
  obtain ⟨rounds, t, run, rfl, made⟩ :=
    ends_roundsAt refused linked shows hq makes copyable
  have roots : (rounds.map MadeRound.roots).flatten = rounds.flatMap MadeRound.roots := rfl
  have all := shows_flatMap made.shows
  have old {m : Nat} (hm : m ∈ rounds.flatMap MadeRound.roots) : ¬ s.Has m :=
    made.fresh m (all.sublist.subset hm)
  have link' : t.parent? q = some p := (made.keeps.parent? hq).trans link
  obtain ⟨s', replaced, by_rounds⟩ := made.keeps.wellLinked.replacedBy link'
    (fun m hm => made.has m (all.sublist.subset hm))
    (fun m hm => by
      obtain ⟨r, hr, hm⟩ := List.mem_flatMap.1 hm
      exact made.free r hr m hm)
    (made.distinct.sublist all.sublist)
    fun m hm below => old hm (made.keeps.grown.has_of_below linked hp below)
  -- the loop stands in the list of an old node, so that no new list changes
  have calm {m : Nat} (hm : m ∈ rounds.flatMap MadeRound.numbers) : SameAt t s' m := by
    refine ⟨by_rounds.kind m, ?_⟩
    rw [by_rounds.children, putFor_of_not_mem]
    intro mem
    have same : p = m := Option.some.inj
      (link'.symm.trans ((made.keeps.wellLinked.linked q m).2 mem))
    exact made.fresh m hm (same ▸ hp)
  have here {m : Nat} (hm : m ∈ rounds.flatMap MadeRound.numbers) : s'.Has m := by
    have := made.has m hm
    rwa [Has, ← by_rounds.size] at this
  have numbers : (rounds.flatMap MadeRound.roots).flatMap s'.preorder =
      rounds.flatMap MadeRound.numbers :=
    flatMap_preorder_of_shows (all.congr fun m => calm) made.distinct fun m => here
  refine ⟨_, s', ends_bind_iff.2 ⟨_, t, run, ends_bind_iff.2 ⟨_, s',
    ends_adapt (ends_onStore replaced) refused, ends_pure_iff.2 ⟨rfl, rfl⟩⟩⟩,
    by_rounds.wellLinked, ?_, ?_, ?_, fun n hn => ?_, fun n hn => ?_, fun n hn => ?_⟩
  · rw [List.map_map, List.map_map]
    refine List.map_congr_left fun r hr => ?_
    have mem {m : Nat} (hm : m ∈ r.numbers) : m ∈ rounds.flatMap MadeRound.numbers :=
      List.mem_flatMap.2 ⟨r, hr, hm⟩
    have shown : Shows s' r.roots r.nodes r.numbers :=
      (made.shows r hr).congr fun m hm => calm (mem hm)
    exact map_tree?_of_shows by_rounds.wellLinked shown fun m hm =>
      here (mem (shown.sublist.subset hm))
  · rw [roots, numbers]
    exact made.distinct
  · rw [roots, numbers]
    exact made.fresh
  · rw [by_rounds.kind, made.keeps.kind hn]
  · rw [by_rounds.children, made.keeps.children hn, roots]
  · rw [by_rounds.parent?, made.keeps.parent? hn, if_neg fun mem => old mem hn]

omit link makes in
/-- A loop whose body cannot be copied fails in its first round. -/
theorem fails_loopAt_of_uncopyable (uncopyable : forest.all isCopyable = false) (v : V)
    (later : List V) :
    ∃ s', Fails (loopAt refused rewrite q (v :: later)) s (refused (.link .uncopyable)) s' ∧
      Keeps s s' := by
  obtain ⟨s', copying, keeps⟩ := fails_copyInside refused linked shows uncopyable
  have round : Fails (roundAt refused rewrite q v) s (refused (.link .uncopyable)) s' :=
    fails_bind_iff.2 (.inl copying)
  exact ⟨s', fails_bind_iff.2 (.inl (fails_bind_iff.2 (.inl round))), keeps⟩

/-- A loop one of whose bodies cannot be rewritten fails as the first of these does, and all nodes
are as they were. -/
theorem fails_loopAt (copyable : ∀ t ∈ forest, isCopyable t = true)
    (inside : WorksInside (rewrite v)) (breaks : Breaks (rewrite v) forest e)
    (later : List V) :
    ∃ s', Fails (loopAt refused rewrite q (vs ++ v :: later)) s e s' ∧ Keeps s s' := by
  obtain ⟨s', failed, keeps⟩ := fails_roundsAt refused linked shows
    (has_of_parent?_eq_some link) makes copyable inside breaks later
  exact ⟨s', fails_bind_iff.2 (.inl failed), keeps⟩

end Loops

end HtmlTemplate.Expand
