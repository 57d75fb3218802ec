import HtmlTemplate.Proofs.AddedTrees
import HtmlTemplate.Proofs.Edits

/-!
# Work on one's own nodes

Some nodes of a store are a `Territory` when no link leads into it or out of it and every new node
comes to it. Work that names no other nodes stays there (`Stays`): it leaves the cells of all others
as they are. This is shown for every operation on linked nodes (`stays_run`), and so for every
sequence of steps (`stays_of_steps`). What is below a fragment without a parent, with all that is
yet to come, is a territory (`territory_of_fragment`).
-/

namespace HtmlTemplate.Markup.Store

variable {own : Nat → Prop} {s s' s'' : Store} {n m p f : Nat} {ns : List Nat}

/-- No link leads from one's own nodes to others or back, and all new nodes are one's own. -/
structure Territory (own : Nat → Prop) (s : Store) : Prop where
  free : ∀ n, ¬ s.Has n → own n
  parents : ∀ n p, own n → s.parent? n = some p → own p
  children : ∀ p n, own p → n ∈ s.children p → own n

/-- Work in a territory keeps it, loses no node and leaves the cells of other nodes as they are. -/
def Stays (own : Nat → Prop) (s s' : Store) : Prop :=
  Territory own s →
    Territory own s' ∧ (∀ n, s.Has n → s'.Has n) ∧ ∀ n, ¬ own n → s'.cell n = s.cell n

theorem Stays.refl (s : Store) : Stays own s s := fun t => ⟨t, fun _ => id, fun _ _ => rfl⟩

theorem Stays.trans (first : Stays own s s') (later : Stays own s' s'') : Stays own s s'' := by
  intro t
  obtain ⟨t', grown, same⟩ := first t
  obtain ⟨t'', grown', same'⟩ := later t'
  exact ⟨t'', fun n hn => grown' n (grown n hn), fun n hn => (same' n hn).trans (same n hn)⟩

/-- All new nodes are one's own. -/
theorem Territory.own_size (t : Territory own s) : own s.cells.size :=
  t.free _ (Nat.lt_irrefl _)

/-- What is below one's own nodes is one's own. -/
theorem Territory.own_of_below (linked : WellLinked s) (t : Territory own s) (hf : own f)
    (below : s.Below n f) : own n := by
  induction below using Relation.ReflTransGen.head_induction_on with
  | refl => exact hf
  | head link _ ih => exact t.children _ _ ih ((linked.linked _ _).1 link)

/-! ### Single changes -/

theorem cell_modify_of_ne (h : m ≠ n) (g : Cell → Cell) : (s.modify n g).cell m = s.cell m := by
  rw [cell_modify, if_neg fun both => h both.1]

theorem has_modify (g : Cell → Cell) : (s.modify n g).Has m ↔ s.Has m := by
  simp [Has, modify]

/-- A change of one cell stays in a territory when the links it makes do. -/
theorem stays_modify (hn : own n) {g : Cell → Cell}
    (parent : Territory own s → ∀ p, (g (s.cell n)).parent? = some p → own p)
    (children : Territory own s → ∀ m ∈ (g (s.cell n)).children, own m) :
    Stays own s (s.modify n g) := by
  intro t
  refine ⟨⟨fun m hm => t.free m (mt (has_modify g).2 hm), fun m p hm link => ?_,
    fun p m hp mem => ?_⟩, fun m hm => (has_modify g).2 hm, fun m hm => cell_modify_of_ne ?_ g⟩
  · rw [parent?, cell_modify] at link
    split at link
    · rename_i same
      exact parent t p (same.1 ▸ link)
    · exact t.parents m p hm link
  · rw [Store.children, cell_modify] at mem
    split at mem
    · rename_i same
      exact children t m (same.1 ▸ mem)
    · exact t.children p m hp mem
  · rintro rfl
    exact hm hn

theorem stays_setParent (hn : own n) {p? : Option Nat} (hp : ∀ p, p? = some p → own p) :
    Stays own s (s.setParent n p?) :=
  stays_modify hn (fun _ => hp) fun t m mem => t.children n m hn mem

theorem stays_unlink (hn : own n) : Stays own s (s.setParent n none) :=
  stays_setParent hn fun _ link => nomatch link

theorem stays_setChildren (hp : own p) (hns : Territory own s → ∀ n ∈ ns, own n) :
    Stays own s (s.setChildren p ns) :=
  stays_modify hp (fun t q link => t.parents p q hp link) hns

theorem stays_setKind (hn : own n) (k : NodeKind) :
    Stays own s (s.modify n fun c => { c with kind := k }) :=
  stays_modify hn (fun t p link => t.parents n p hn link) fun t m mem => t.children n m hn mem

theorem stays_new (k : NodeKind) : Stays own s (s.new k).2 := by
  intro t
  have grown (m : Nat) (hm : s.Has m) : (s.new k).2.Has m := (has_new s k m).2 (.inl hm)
  refine ⟨⟨fun m hm => t.free m (mt (grown m) hm), fun m p hm link => ?_, fun p m hp mem => ?_⟩,
    grown, fun m hm => ?_⟩
  · rw [parent?_new] at link
    exact t.parents m p hm link
  · rw [children_new] at mem
    exact t.children p m hp mem
  · rw [cell_new, if_neg]
    rintro rfl
    exact hm t.own_size

theorem stays_foldl {α : Type} {step : Store → α → Store} {as : List α}
    (h : ∀ s, ∀ a ∈ as, Stays own s (step s a)) (s : Store) : Stays own s (as.foldl step s) := by
  induction as generalizing s with
  | nil => exact .refl s
  | cons a as ih =>
    have first := h s a List.mem_cons_self
    exact first.trans (ih (fun s a ha => h s a (List.mem_cons_of_mem _ ha)) (step s a))

/-! ### Operations -/

theorem stays_detach (hn : own n) : Stays own s (s.detach n) := by
  unfold detach
  cases link : s.parent? n with
  | none => exact .refl s
  | some p =>
    intro t
    have hp : own p := t.parents n p hn link
    have shorter := stays_setChildren (s := s) (p := p) hp fun t m
      (mem : m ∈ (s.children p).eraseIdx ((s.index? n).getD ((s.children p).length - 1))) =>
        t.children p m hp (List.mem_of_mem_eraseIdx mem)
    exact shorter.trans (stays_unlink hn) t

theorem stays_attachAt (hp : own p) (hn : own n) (place : Nat) :
    Stays own s (s.attachAt p place n) := by
  refine (stays_setChildren hp fun t m mem => ?_).trans
    (stays_setParent hn fun q same => Option.some.inj same ▸ hp)
  rcases List.mem_append.1 mem with mem | mem
  · exact t.children p m hp (List.mem_of_mem_take mem)
  · rcases List.mem_cons.1 mem with rfl | mem
    · exact hn
    · exact t.children p m hp (List.mem_of_mem_drop mem)

theorem stays_insertChild (hp : own p) (hn : own n) (position : Int) :
    Stays own s (s.insertChild p position n) :=
  (stays_detach hn).trans (stays_attachAt hp hn _)

theorem stays_appendChild (hp : own p) (hn : own n) : Stays own s (s.appendChild p n) :=
  (stays_detach hn).trans (stays_attachAt hp hn _)

theorem stays_appendAll (hp : own p) (hns : ∀ n ∈ ns, own n) : Stays own s (s.appendAll p ns) :=
  stays_foldl (fun _ n hn => stays_appendChild hp (hns n hn)) s

theorem stays_clear (hp : own p) : Stays own s (s.clear p) := by
  intro t
  have parents : Stays own s ((s.children p).foldl (fun s n => s.setParent n none) s) :=
    stays_foldl (fun _ n hn => stays_unlink (t.children p n hp hn)) s
  exact parents.trans (stays_setChildren hp fun _ _ mem => absurd mem List.not_mem_nil) t

theorem stays_replaceWith (hn : own n) (hns : ∀ m ∈ ns, own m) :
    Stays own s (replaceWith n ns s).2 := by
  unfold replaceWith
  cases link : s.parent? n with
  | none => exact .refl s
  | some p =>
    intro t
    have hp : own p := t.parents n p hn link
    have taken : Stays own s (ns.foldl detach s) :=
      stays_foldl (fun _ m hm => stays_detach (hns m hm)) s
    have put (place stop : Nat) : Stays own (ns.foldl detach s) ((ns.foldl detach s).setChildren p
        (((ns.foldl detach s).children p).take place ++ ns ++
          ((ns.foldl detach s).children p).drop stop)) := by
      refine stays_setChildren hp fun t m mem => ?_
      rcases List.mem_append.1 mem with mem | mem
      · rcases List.mem_append.1 mem with mem | mem
        · exact t.children p m hp (List.mem_of_mem_take mem)
        · exact hns m mem
      · exact t.children p m hp (List.mem_of_mem_drop mem)
    have linked (s : Store) : Stays own s (ns.foldl (fun s m => s.setParent m (some p)) s) :=
      stays_foldl (fun _ m hm => stays_setParent (hns m hm) fun q same =>
        Option.some.inj same ▸ hp) s
    exact taken.trans ((put _ _).trans ((linked _).trans (stays_unlink hn))) t

theorem stays_unwrap (hn : own n) : Stays own s (unwrap n s).2 := by
  intro t
  have inside : ∀ m ∈ s.children n, own m := fun m mem => t.children n m hn mem
  exact (stays_clear hn).trans (stays_replaceWith hn inside) t

mutual

/-- A tree is added on new nodes. -/
theorem stays_load {s : Store} : (t : Node) → Stays own s (s.load t).2
  | .text d => stays_new (.text d)
  | .comment d => stays_new (.comment d)
  | .directive d => stays_new (.directive d)
  | .blank => stays_new .blank
  | .element tag attrs cs => fun t =>
    ((stays_new (.element tag attrs)).trans (stays_loadChildren t.own_size cs)) t
  | .fragment cs => fun t => ((stays_new .fragment).trans (stays_loadChildren t.own_size cs)) t

theorem stays_loadChildren {s : Store} {p : Nat} (hp : own p) :
    (ts : List Node) → Stays own s (s.loadChildren p ts)
  | [] => .refl s
  | t :: ts => fun mine => by
    have root : own (s.load t).1 := load_fst s t ▸ mine.own_size
    exact ((stays_load t).trans ((stays_attachAt hp root _).trans (stays_loadChildren hp ts))) mine

end

theorem stays_copy (n : Nat) : Stays own s (copy n s).2 := by
  unfold copy
  cases s.tree? n with
  | none => exact .refl s
  | some t =>
    by_cases copyable : isCopyable t = true
    · simp only [copyable, if_true]
      exact stays_load t
    · simp only [copyable]
      exact .refl s

/-! ### Steps -/

/-- The nodes that a call changes, or links to others; a node that is copied is only read. -/
def Edit.nodes : Edit → List Nat
  | make _ children => children
  | remove n => [n]
  | replace n ns => n :: ns
  | append p n => [p, n]
  | prepend p n => [p, n]
  | insert p _ n => [p, n]
  | extend p ns => p :: ns
  | clear p => [p]
  | takeChildren p => [p]
  | unwrap n => [n]
  | clone _ => []

theorem Stays.onHolder {change : Store → Store} (h : Stays own s (change s)) (p : Nat) :
    Stays own s (onHolder p change s).2 := by
  unfold Store.onHolder
  split
  · exact h
  · exact .refl s

/-- A call stays in a territory when the nodes that it changes are there. -/
theorem stays_run {e : Edit} (mine : ∀ n ∈ e.nodes, own n) : Stays own s (e.run s) := by
  cases e with
  | make k children =>
    intro t
    have filled : Stays own (s.new k).2 ((s.new k).2.appendAll s.cells.size children) :=
      stays_appendAll t.own_size mine
    exact (stays_new k).trans (filled.onHolder _) t
  | remove n =>
    have hn : own n := by simpa [Edit.nodes] using mine
    exact stays_detach hn
  | replace n ns =>
    obtain ⟨hn, hns⟩ : own n ∧ ∀ m ∈ ns, own m := by simpa [Edit.nodes] using mine
    exact stays_replaceWith hn hns
  | append p n =>
    obtain ⟨hp, hn⟩ : own p ∧ own n := by simpa [Edit.nodes] using mine
    exact (stays_appendChild hp hn).onHolder p
  | prepend p n =>
    obtain ⟨hp, hn⟩ : own p ∧ own n := by simpa [Edit.nodes] using mine
    exact (stays_insertChild hp hn 0).onHolder p
  | insert p position n =>
    obtain ⟨hp, hn⟩ : own p ∧ own n := by simpa [Edit.nodes] using mine
    exact (stays_insertChild hp hn position).onHolder p
  | extend p ns =>
    obtain ⟨hp, hns⟩ : own p ∧ ∀ m ∈ ns, own m := by simpa [Edit.nodes] using mine
    exact (stays_appendAll hp hns).onHolder p
  | clear p =>
    have hp : own p := by simpa [Edit.nodes] using mine
    exact (stays_clear hp).onHolder p
  | takeChildren p =>
    have hp : own p := by simpa [Edit.nodes] using mine
    exact (stays_clear hp).onHolder p
  | unwrap n =>
    have hn : own n := by simpa [Edit.nodes] using mine
    show Stays own s (if (s.kind n).holdsChildren then (Store.unwrap n s).2 else s)
    split
    · exact stays_unwrap hn
    · exact .refl s
  | clone n => exact stays_copy n

/-- A step of work on one's own nodes: an allowed call, or a change of what a node is. -/
inductive Step (own : Nat → Prop) : Store → Store → Prop
  | edit {s : Store} (e : Edit) (allowed : e.Allowed s) (mine : ∀ n ∈ e.nodes, own n) :
    Step own s (e.run s)
  | become {s : Store} (n : Nat) (k : NodeKind) (mine : own n) :
    Step own s (s.modify n fun c => { c with kind := k })

theorem WellLinked.setKind (h : WellLinked s) (n : Nat) (k : NodeKind) :
    WellLinked (s.modify n fun c => { c with kind := k }) := by
  have parents (m : Nat) :
      (s.modify n fun c => { c with kind := k }).parent? m = s.parent? m := by
    unfold parent?
    rw [cell_modify]
    split <;> rfl
  have lists (m : Nat) :
      (s.modify n fun c => { c with kind := k }).children m = s.children m := by
    unfold children
    rw [cell_modify]
    split <;> rfl
  refine ⟨fun m p => ?_, fun p => ?_, acyclic_of_lost h.acyclic fun a b link => ?_⟩
  · rw [parents, lists, h.linked]
  · rw [lists]
    exact h.distinct p
  · rwa [IsChild, parents] at link

/-- A step keeps the links and stays in the territory. -/
theorem Step.keeps (step : Step own s s') (linked : WellLinked s) :
    WellLinked s' ∧ Stays own s s' := by
  cases step with
  | edit e allowed mine => exact ⟨wellLinked_run linked allowed, stays_run mine⟩
  | become n k mine => exact ⟨linked.setKind n k, stays_setKind mine k⟩

/-- So do any number of steps. -/
theorem stays_of_steps (steps : Relation.ReflTransGen (Step own) s s') (linked : WellLinked s) :
    WellLinked s' ∧ Stays own s s' := by
  induction steps with
  | refl => exact ⟨linked, .refl s⟩
  | tail _ step ih =>
    obtain ⟨linked', stays⟩ := ih
    obtain ⟨linked'', stays'⟩ := step.keeps linked'
    exact ⟨linked'', stays.trans stays'⟩

/-! ### Inside a fragment -/

/-- The nodes below a node, and those that are yet to come. -/
def InsideOf (s : Store) (f n : Nat) : Prop := s.Below n f ∨ ¬ s.Has n

theorem territory_of_fragment (linked : WellLinked s) (top : s.parent? f = none) :
    Territory (s.InsideOf f) s := by
  refine ⟨fun n hn => .inr hn, fun n p hn link => ?_, fun p n hp mem => ?_⟩
  · rcases hn with below | absent
    · rcases Relation.ReflTransGen.cases_head below with rfl | ⟨q, link', rest⟩
      · rw [top] at link
        cases link
      · exact .inl (rightUnique_isChild s link link' ▸ rest)
    · exact absurd (has_of_parent?_eq_some link) absent
  · rcases hp with below | absent
    · exact .inl (below.head ((linked.linked n p).2 mem))
    · exact absurd (has_of_mem_children mem) absent

end HtmlTemplate.Markup.Store
