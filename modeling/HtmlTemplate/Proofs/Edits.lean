import HtmlTemplate.Proofs.WellLinked

/-!
# Sequences of edits

An `Edit` is one call of an operation on linked nodes, `Edit.run` its effect, a failed call's
included. It is `Edit.Allowed` when its nodes exist, it puts no node below itself or below a node
that is below it, and a node is replaced by different other nodes. Such an edit keeps the links
(`wellLinked_run`), and so does a sequence of them (`wellLinked_runAll`): after it the parent of a
node, the children of that parent, the place of the node among them and its neighbours all agree
(`links_agree`).
-/

namespace HtmlTemplate.Markup.Store

/-! ### Neighbours -/

namespace WellLinked

variable {s : Store} (h : WellLinked s)
include h

/-- A node has a place exactly when it has a parent. -/
theorem index?_eq_none_iff {n : Nat} : s.index? n = none ↔ s.parent? n = none := by
  cases link : s.parent? n with
  | none => simp [index?, link]
  | some p =>
    obtain ⟨i, index, -⟩ := h.exists_index? ((h.linked n p).1 link)
    simp [index]

theorem nextSibling?_eq_some_iff {m n : Nat} :
    s.nextSibling? m = some n ↔
      ∃ p i, (s.children p)[i]? = some m ∧ (s.children p)[i + 1]? = some n := by
  unfold nextSibling? laterSiblings
  constructor
  · intro next
    cases link : s.parent? m with
    | none => simp [link] at next
    | some p =>
      obtain ⟨i, index, here⟩ := h.exists_index? ((h.linked m p).1 link)
      simp only [link, index, List.head?_drop] at next
      exact ⟨p, i, here, next⟩
  · rintro ⟨p, i, here, next⟩
    have link : s.parent? m = some p := (h.linked m p).2 (List.mem_of_getElem? here)
    have index : s.index? m = some i := h.index?_eq_some_iff.2 ⟨p, link, here⟩
    simp only [link, index, List.head?_drop]
    exact next

theorem previousSibling?_eq_some_iff {m n : Nat} :
    s.previousSibling? n = some m ↔
      ∃ p i, (s.children p)[i]? = some m ∧ (s.children p)[i + 1]? = some n := by
  unfold previousSibling?
  constructor
  · intro previous
    cases link : s.parent? n with
    | none => simp [link] at previous
    | some p =>
      obtain ⟨i, index, here⟩ := h.exists_index? ((h.linked n p).1 link)
      cases i with
      | zero => simp [link, index] at previous
      | succ i =>
        simp only [link, index] at previous
        exact ⟨p, i, previous, here⟩
  · rintro ⟨p, i, previous, here⟩
    have link : s.parent? n = some p := (h.linked n p).2 (List.mem_of_getElem? here)
    have index : s.index? n = some (i + 1) := h.index?_eq_some_iff.2 ⟨p, link, here⟩
    simp only [link, index]
    exact previous

end WellLinked

/-! ### Edits -/

/-- A call of an operation on linked nodes. -/
inductive Edit
  /-- A new node, with nodes that become its children. -/
  | make (kind : NodeKind) (children : List Nat)
  | remove (n : Nat)
  | replace (n : Nat) (ns : List Nat)
  | append (p n : Nat)
  | prepend (p n : Nat)
  | insert (p : Nat) (position : Int) (n : Nat)
  | extend (p : Nat) (ns : List Nat)
  | clear (p : Nat)
  /-- All children are taken out and handed to the caller. -/
  | takeChildren (p : Nat)
  | unwrap (n : Nat)
  | clone (n : Nat)

namespace Edit

/-- The store after a call. -/
def run (s : Store) : Edit → Store
  | make kind children =>
    let (p, s) := s.new kind
    (onHolder p (·.appendAll p children) s).2
  | remove n => s.detach n
  | replace n ns => (replaceWith n ns s).2
  | append p n => (onHolder p (·.appendChild p n) s).2
  | prepend p n => (onHolder p (·.prependChild p n) s).2
  | insert p position n => (onHolder p (·.insertChild p position n) s).2
  | extend p ns => (onHolder p (·.appendAll p ns) s).2
  | clear p => (onHolder p (·.clear p) s).2
  | takeChildren p => (onHolder p (·.clear p) s).2
  | unwrap n => if (s.kind n).holdsChildren then (Store.unwrap n s).2 else s
  | clone n => (copy n s).2

/-- Nodes that are in a store and can be put below a node. -/
def Insertable (s : Store) (p : Nat) (ns : List Nat) : Prop :=
  s.Has p ∧ ∀ n ∈ ns, s.Has n ∧ ¬ s.Below p n

/-- The nodes of a call are in the store, it puts none below itself or a node below it, and it
replaces a node by different other ones. -/
def Allowed (s : Store) : Edit → Prop
  | make _ children => ∀ n ∈ children, s.Has n
  | replace n ns => s.Has n ∧ (∀ m ∈ ns, s.Has m) ∧ ns.Nodup ∧ n ∉ ns ∧
      ∀ p, s.parent? n = some p → ∀ m ∈ ns, ¬ s.Below p m
  | append p n => Insertable s p [n]
  | prepend p n => Insertable s p [n]
  | insert p _ n => Insertable s p [n]
  | extend p ns => Insertable s p ns
  | remove n => s.Has n
  | clear p => s.Has p
  | takeChildren p => s.Has p
  | unwrap n => s.Has n
  | clone n => s.Has n

end Edit

/-- The store after a sequence of calls. -/
def runAll (s : Store) (edits : List Edit) : Store := edits.foldl Edit.run s

/-- Every call of a sequence is allowed when it is made. -/
def AllAllowed : Store → List Edit → Prop
  | _, [] => True
  | s, e :: edits => e.Allowed s ∧ AllAllowed (e.run s) edits

/-! ### Checking a sequence -/

/-- A node and the nodes above it, if they are at most `fuel`. -/
def lineWithin (s : Store) : Nat → Nat → Option (List Nat)
  | 0, _ => none
  | fuel + 1, n =>
    match s.parent? n with
    | none => some [n]
    | some p => (lineWithin s fuel p).map (n :: ·)

theorem below_iff_of_lineWithin {s : Store} {fuel n : Nat} {line : List Nat}
    (h : s.lineWithin fuel n = some line) (m : Nat) : s.Below n m ↔ m ∈ line := by
  induction fuel generalizing n line with
  | zero => cases h
  | succ fuel ih =>
    rw [Below, Relation.ReflTransGen.cases_head_iff]
    cases link : s.parent? n with
    | none =>
      simp only [lineWithin, link] at h
      cases h
      simp [IsChild, link, eq_comm]
    | some p =>
      simp only [lineWithin, link, Option.map_eq_some_iff] at h
      obtain ⟨rest, above, rfl⟩ := h
      simp only [IsChild, link, Option.some.injEq, exists_eq_left', List.mem_cons]
      exact or_congr eq_comm (ih above)

/-- Checks that a node is below none of the given ones. -/
def isApart (s : Store) (p : Nat) (ns : List Nat) : Bool :=
  match s.lineWithin (s.cells.size + 1) p with
  | none => false
  | some line => ns.all fun n => !line.contains n

theorem not_below_of_isApart {s : Store} {p : Nat} {ns : List Nat} (h : s.isApart p ns) :
    ∀ n ∈ ns, ¬ s.Below p n := by
  intro n mem below
  unfold isApart at h
  split at h
  · cases h
  · rename_i line above
    have inside : n ∈ line := (below_iff_of_lineWithin above n).1 below
    have outside := List.all_eq_true.1 h n mem
    simp [inside] at outside

namespace Edit

/-- Checks that a call is allowed. -/
def isAllowed (s : Store) : Edit → Bool
  | make _ children => children.all fun n => decide (s.Has n)
  | replace n ns => decide (s.Has n) && ns.all (fun m => decide (s.Has m)) && decide ns.Nodup &&
      !ns.contains n && (s.parent? n).all fun p => s.isApart p ns
  | append p n => isInsertable s p [n]
  | prepend p n => isInsertable s p [n]
  | insert p _ n => isInsertable s p [n]
  | extend p ns => isInsertable s p ns
  | remove n => decide (s.Has n)
  | clear p => decide (s.Has p)
  | takeChildren p => decide (s.Has p)
  | unwrap n => decide (s.Has n)
  | clone n => decide (s.Has n)
where
  isInsertable (s : Store) (p : Nat) (ns : List Nat) : Bool :=
    decide (s.Has p) && ns.all (fun n => decide (s.Has n)) && s.isApart p ns

theorem insertable_of_isInsertable {s : Store} {p : Nat} {ns : List Nat}
    (h : isAllowed.isInsertable s p ns) : Insertable s p ns := by
  simp only [isAllowed.isInsertable, Bool.and_eq_true, decide_eq_true_eq, List.all_eq_true] at h
  obtain ⟨⟨hp, hns⟩, apart⟩ := h
  exact ⟨hp, fun n mem => ⟨hns n mem, not_below_of_isApart apart n mem⟩⟩

theorem allowed_of_isAllowed {s : Store} {e : Edit} (h : e.isAllowed s) : e.Allowed s := by
  cases e with
  | make kind children =>
    intro n mem
    exact of_decide_eq_true (List.all_eq_true.1 h n mem)
  | replace n ns =>
    simp only [isAllowed, Bool.and_eq_true, decide_eq_true_eq, List.all_eq_true, Bool.not_eq_true',
      Option.all_eq_true] at h
    obtain ⟨⟨⟨⟨hn, hns⟩, distinct⟩, other⟩, apart⟩ := h
    refine ⟨hn, hns, distinct, fun mem => ?_, fun p link => not_below_of_isApart (apart p link)⟩
    simp [mem] at other
  | append p n => exact insertable_of_isInsertable h
  | prepend p n => exact insertable_of_isInsertable h
  | insert p position n => exact insertable_of_isInsertable h
  | extend p ns => exact insertable_of_isInsertable h
  | remove n => exact of_decide_eq_true (p := s.Has n) h
  | clear p => exact of_decide_eq_true (p := s.Has p) h
  | takeChildren p => exact of_decide_eq_true (p := s.Has p) h
  | unwrap n => exact of_decide_eq_true (p := s.Has n) h
  | clone n => exact of_decide_eq_true (p := s.Has n) h

end Edit

/-- Checks that every call of a sequence is allowed. -/
def isAllAllowed : Store → List Edit → Bool
  | _, [] => true
  | s, e :: edits => e.isAllowed s && isAllAllowed (e.run s) edits

theorem allAllowed_of_isAllAllowed {s : Store} {edits : List Edit} (h : s.isAllAllowed edits) :
    AllAllowed s edits := by
  induction edits generalizing s with
  | nil => trivial
  | cons e edits ih =>
    simp only [isAllAllowed, Bool.and_eq_true] at h
    exact ⟨Edit.allowed_of_isAllowed h.1, ih h.2⟩

/-! ### What a sequence keeps -/

theorem WellLinked.onHolder {s : Store} (h : WellLinked s) (p : Nat) {change : Store → Store}
    (changed : WellLinked (change s)) : WellLinked (Store.onHolder p change s).2 := by
  unfold Store.onHolder
  split
  · exact changed
  · exact h

theorem Edit.Insertable.single {s : Store} {p n : Nat} (h : Insertable s p [n]) :
    s.Has n ∧ s.Has p ∧ ¬ s.Below p n := by
  obtain ⟨hn, apart⟩ := h.2 n List.mem_cons_self
  exact ⟨hn, h.1, apart⟩

/-- A new node can be given any children that were there before it. -/
theorem wellLinked_make {s : Store} (h : WellLinked s) (kind : NodeKind) {ns : List Nat}
    (hns : ∀ n ∈ ns, s.Has n) : WellLinked ((Edit.make kind ns).run s) := by
  have root := loaded_new h kind
  have apart (n : Nat) (mem : n ∈ ns) : ¬ (s.new kind).2.Below (s.new kind).1 n := by
    have other : n ≠ (s.new kind).1 := fun same => root.fresh (same ▸ hns n mem)
    exact not_below_of_parent?_eq_none root.top other
  have filled := root.wellLinked.appendAll root.has
    (fun n mem => root.grown.has (hns n mem)) apart
  exact root.wellLinked.onHolder _ filled

/-- An allowed call keeps the links. -/
theorem wellLinked_run {s : Store} (h : WellLinked s) {e : Edit} (allowed : e.Allowed s) :
    WellLinked (e.run s) := by
  cases e with
  | make kind children => exact wellLinked_make h kind allowed
  | remove n => exact h.detach n
  | replace n ns =>
    obtain ⟨-, hns, distinct, other, apart⟩ := allowed
    exact h.replaceWith hns distinct other apart
  | append p n =>
    obtain ⟨hn, hp, apart⟩ := Edit.Insertable.single allowed
    exact h.onHolder p (h.appendChild hn hp apart)
  | prepend p n =>
    obtain ⟨hn, hp, apart⟩ := Edit.Insertable.single allowed
    exact h.onHolder p (h.prependChild hn hp apart)
  | insert p position n =>
    obtain ⟨hn, hp, apart⟩ := Edit.Insertable.single allowed
    exact h.onHolder p (h.insertChild hn hp apart position)
  | extend p ns =>
    have hns (n : Nat) (mem : n ∈ ns) : s.Has n := (allowed.2 n mem).1
    have apart (n : Nat) (mem : n ∈ ns) : ¬ s.Below p n := (allowed.2 n mem).2
    exact h.onHolder p (h.appendAll allowed.1 hns apart)
  | clear p => exact h.onHolder p (h.clear p)
  | takeChildren p => exact h.onHolder p (h.clear p)
  | unwrap n =>
    change WellLinked (if (s.kind n).holdsChildren then (Store.unwrap n s).2 else s)
    split
    · exact h.unwrap n
    · exact h
  | clone n => exact h.copy n

/-- A sequence of allowed calls keeps the links. -/
theorem wellLinked_runAll {s : Store} (h : WellLinked s) {edits : List Edit}
    (allowed : AllAllowed s edits) : WellLinked (s.runAll edits) := by
  induction edits generalizing s with
  | nil => exact h
  | cons e edits ih => exact ih (wellLinked_run h allowed.1) allowed.2

/-- After any sequence of allowed calls the parent of a node is the one whose children it is in,
which are those of one node at most, once each. No node is above itself, the place of a node is
where it stands among the children of its parent, and the next and the previous sibling undo each
other. -/
theorem links_agree (edits : List Edit) (allowed : AllAllowed {} edits) :
    let s := runAll {} edits
    (∀ n p, s.parent? n = some p ↔ n ∈ s.children p) ∧
      (∀ n p q, n ∈ s.children p → n ∈ s.children q → p = q) ∧
      (∀ p, (s.children p).Nodup) ∧
      (∀ n, ¬ Relation.TransGen s.IsChild n n) ∧
      (∀ n i, s.index? n = some i ↔ ∃ p, s.parent? n = some p ∧ (s.children p)[i]? = some n) ∧
      (∀ n, s.index? n = none ↔ s.parent? n = none) ∧
      (∀ m n, s.nextSibling? m = some n ↔ s.previousSibling? n = some m) := by
  intro s
  have h : WellLinked s := wellLinked_runAll wellLinked_empty allowed
  refine ⟨h.linked, fun n p q hp hq => h.parent_unique hp hq, h.distinct, h.acyclic,
    fun n i => h.index?_eq_some_iff, fun n => h.index?_eq_none_iff, fun m n => ?_⟩
  rw [h.nextSibling?_eq_some_iff, h.previousSibling?_eq_some_iff]

/-- The items of a list in a fragment are reordered, one is replaced by a later one, and a copy of
the list is put before it and unwrapped. -/
def sampleEdits : List Edit :=
  [.make .fragment [], .make (.text "x") [], .make (.text "y") [], .make (.element "ul" []) [1, 2],
    .append 0 3, .make (.text "z") [], .insert 3 (-1) 4, .insert 3 7 1, .replace 4 [1],
    .clone 3, .extend 0 [5, 3], .unwrap 5]

theorem links_agree_sampleEdits :
    AllAllowed {} sampleEdits ∧
      let s := runAll {} sampleEdits
      s.children 0 = [6, 7, 3] ∧ (s.parent? 7 = some 0 ↔ 7 ∈ s.children 0) ∧
        (s.nextSibling? 7 = some 3 ↔ s.previousSibling? 3 = some 7) := by
  have allowed : AllAllowed {} sampleEdits := allAllowed_of_isAllAllowed (by decide +kernel)
  obtain ⟨linked, -, -, -, -, -, siblings⟩ := links_agree sampleEdits allowed
  exact ⟨allowed, by decide +kernel, linked 7 0, siblings 7 3⟩

end HtmlTemplate.Markup.Store
