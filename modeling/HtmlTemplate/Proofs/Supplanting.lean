import HtmlTemplate.Proofs.AddedTrees
import HtmlTemplate.Proofs.Edits

/-!
# Replacing a node by any others

The nodes that replace a node may come from anywhere: from other parents, from before or behind the
node, from inside it, and the node may be one of them. They are taken out first, and a node among
its own replacements goes with them. `parent?_replaceWith` and `children_replaceWith` say where all
nodes are afterwards. The replacements stand in the place of the node, with all links in order,
exactly when the node is none of them (`replaceWith_supplants_iff`).
-/

namespace HtmlTemplate.Markup.Store

variable {s s' : Store} {n m p : Nat} {ns : List Nat}

/-- The children of a node when all of some nodes have been taken out. -/
theorem WellLinked.children_detachAll (linked : WellLinked s) (ns : List Nat) (q : Nat) :
    (ns.foldl Store.detach s).children q = (s.children q).filter (· ∉ ns) := by
  induction ns generalizing s with
  | nil => simp
  | cons n ns ih =>
    rw [List.foldl_cons, ih (linked.detach n), linked.children_detach,
      (linked.distinct q).erase_eq_filter, List.filter_filter]
    refine List.filter_congr fun m _ => Bool.eq_iff_iff.2 ?_
    simp [and_comm]

/-- Where the replacements of a node go among what is left of the children of its parent: in the
place of the node or, when it has been taken out as one of them, before the last child. -/
def splice (n : Nat) (ns kept : List Nat) : List Nat :=
  if n ∈ ns then kept.dropLast ++ ns ++ kept.getLast?.toList else putFor n ns kept

theorem drop_length_sub_one (cs : List Nat) : cs.drop (cs.length - 1) = cs.getLast?.toList := by
  rcases List.eq_nil_or_concat cs with rfl | ⟨before, last, rfl⟩
  · rfl
  · simp

section Replaced

variable (linked : WellLinked s) (link : s.parent? n = some p)
include linked link

/-- All replacements are taken out and put among the children of the parent, and the node loses its
parent. -/
theorem replaceWith_eq : replaceWith n ns s = (.ok ns.length,
    (ns.foldl (fun s m => s.setParent m (some p)) ((ns.foldl detach s).setChildren p
      (splice n ns ((s.children p).filter (· ∉ ns))))).setParent n none) := by
  have taken := linked.detachAll ns
  have kept := linked.children_detachAll ns p
  by_cases mem : n ∈ ns
  · have away : (ns.foldl detach s).index? n = none := by
      rw [index?, linked.parent?_detachAll, if_pos mem]
      rfl
    simp only [replaceWith, link, away, splice, if_pos mem, kept, drop_length_sub_one,
      List.dropLast_eq_take]
  · have stays : (ns.foldl detach s).parent? n = some p := by
      rw [linked.parent?_detachAll, if_neg mem, link]
    obtain ⟨i, index, place⟩ := taken.exists_index? ((taken.linked n p).1 stays)
    have here := putFor_eq (taken.distinct p) place ns
    rw [kept] at here
    simp only [replaceWith, link, index, splice, if_neg mem, kept, here]

/-- The replacements have the parent of the node, which has none, even where it is one of them. -/
theorem parent?_replaceWith (here : ∀ m ∈ ns, s.Has m) (m : Nat) :
    (replaceWith n ns s).2.parent? m =
      if m = n then none else if m ∈ ns then some p else s.parent? m := by
  have hn : (ns.foldl detach s).Has n := (has_detachAll ..).2 (has_of_parent?_eq_some link)
  have inside : ∀ m ∈ ns, (ns.foldl detach s).Has m := fun m hm => (has_detachAll ..).2 (here m hm)
  rw [replaceWith_eq linked link,
    parent?_setParent _ ((has_setParents ..).2 ((has_setChildren ..).2 hn)),
    parent?_setParents _ fun m hm => (has_setChildren ..).2 (inside m hm), parent?_setChildren,
    linked.parent?_detachAll]
  split_ifs <;> rfl

/-- The lists of children lose the replacements; that of the parent has them spliced in. -/
theorem children_replaceWith (ns : List Nat) (q : Nat) :
    (replaceWith n ns s).2.children q =
      if q = p then splice n ns ((s.children p).filter (· ∉ ns))
      else (s.children q).filter (· ∉ ns) := by
  have hp : (ns.foldl detach s).Has p :=
    (has_detachAll ..).2 (has_of_mem_children ((linked.linked n p).1 link))
  rw [replaceWith_eq linked link, children_setParent, children_setParents, children_setChildren _ hp,
    linked.children_detachAll]

end Replaced

/-- Nodes stand in the place of a child of `p`: they have left the lists that they were in, and have
`p` for their parent. The child has no parent unless it is one of them. -/
structure Supplanted (s : Store) (n p : Nat) (ns : List Nat) (s' : Store) : Prop where
  children : s'.children p = putFor n ns ((s.children p).filter fun m => m = n ∨ m ∉ ns)
  parent? : ∀ m ∈ ns, s'.parent? m = some p
  elsewhere : ∀ q, q ≠ p → s'.children q = (s.children q).filter (· ∉ ns)
  detached : s'.parent? n = none ↔ n ∉ ns

section Supplanted

variable (linked : WellLinked s) (link : s.parent? n = some p) (here : ∀ m ∈ ns, s.Has m)
include linked link here

/-- Others take the place of a node; it does not take its own. -/
theorem supplanted_replaceWith_iff : Supplanted s n p ns (replaceWith n ns s).2 ↔ n ∉ ns := by
  have parents := parent?_replaceWith linked link here
  have lists := children_replaceWith linked link ns
  constructor
  · intro moved mem
    have given := moved.parent? n mem
    rw [parents, if_pos rfl] at given
    cases given
  · intro other
    refine ⟨?_, fun m mem => ?_, fun q hq => ?_, ?_⟩
    · rw [lists, if_pos rfl, splice, if_neg other]
      congr 1
      refine List.filter_congr fun m _ => decide_eq_decide.2 ⟨.inr, ?_⟩
      rintro (rfl | absent)
      · exact other
      · exact absent
    · rw [parents, if_neg (ne_of_mem_of_not_mem mem other), if_pos mem]
    · rw [lists, if_neg hq]
    · rw [parents, if_pos rfl]
      exact iff_of_true rfl other

/-- The links agree afterwards unless a node is among its own replacements. -/
theorem wellLinked_replaceWith_iff (distinct : ns.Nodup) (apart : ∀ m ∈ ns, ¬ s.Below p m) :
    WellLinked (replaceWith n ns s).2 ↔ n ∉ ns := by
  constructor
  · intro linked' mem
    have child : n ∈ (replaceWith n ns s).2.children p := by
      rw [children_replaceWith linked link, if_pos rfl, splice, if_pos mem]
      simp [mem]
    have given := (linked'.linked n p).2 child
    rw [parent?_replaceWith linked link here, if_pos rfl] at given
    cases given
  · intro other
    refine linked.replaceWith here distinct other fun q link' => ?_
    obtain rfl : p = q := Option.some.inj (link.symm.trans link')
    exact apart

end Supplanted

/-- A node is replaced by different nodes that its parent is not below: their number is told, they
leave the lists that they were in, and they stand in the place of the node, with all links in order,
exactly when the node is none of them. When it is, it loses its parent and yet is put among the
children of that parent with the others, before the last of those that stay. -/
theorem replaceWith_supplants_iff (linked : WellLinked s) (link : s.parent? n = some p)
    (here : ∀ m ∈ ns, s.Has m) (distinct : ns.Nodup) (apart : ∀ m ∈ ns, ¬ s.Below p m) :
    ∃ s', replaceWith n ns s = (.ok ns.length, s') ∧
      (Supplanted s n p ns s' ↔ n ∉ ns) ∧ (WellLinked s' ↔ n ∉ ns) ∧
      (∀ q, q ≠ p → s'.children q = (s.children q).filter (· ∉ ns)) ∧
      (∀ m ∈ ns, m ≠ n → s'.parent? m = some p) ∧
      (∀ m ∉ ns, m ≠ n → s'.parent? m = s.parent? m) ∧
      (n ∈ ns → s'.parent? n = none ∧
        let kept := (s.children p).filter (· ∉ ns)
        s'.children p = kept.dropLast ++ ns ++ kept.getLast?.toList) := by
  have parents := parent?_replaceWith linked link here
  have lists := children_replaceWith linked link ns
  have answer : (replaceWith n ns s).1 = .ok ns.length := by rw [replaceWith_eq linked link]
  refine ⟨(replaceWith n ns s).2, Prod.ext answer rfl, supplanted_replaceWith_iff linked link here,
    wellLinked_replaceWith_iff linked link here distinct apart, fun q hq => ?_, fun m mem hm => ?_,
    fun m mem hm => ?_, fun mem => ⟨?_, ?_⟩⟩
  · rw [lists, if_neg hq]
  · rw [parents, if_neg hm, if_pos mem]
  · rw [parents, if_neg hm, if_neg mem]
  · rw [parents, if_pos rfl]
  · rw [lists, if_pos rfl, splice, if_pos mem]

/-- A fragment with a list of two items and a paragraph behind it; the paragraph holds an image. -/
def sampleList : Store :=
  runAll {} [.make .fragment [], .make (.text "x") [], .make (.text "y") [],
    .make (.element "ul" []) [1, 2], .make (.element "img" []) [], .make (.element "p" []) [4],
    .extend 0 [3, 5]]

/-- The first item gives way to the image from the paragraph, the other item and a new text. -/
theorem replaceWith_supplants_sampleList :
    let s := (sampleList.new (.text "z")).2
    WellLinked s ∧ s.parent? 1 = some 3 ∧ (∀ m ∈ [4, 2, 6], ¬ s.Below 3 m) ∧
      ∃ s', replaceWith 1 [4, 2, 6] s = (.ok 3, s') ∧
        Supplanted s 1 3 [4, 2, 6] s' ∧ s'.children 3 = [4, 2, 6] ∧ s'.children 5 = [] := by
  intro s
  have linked : WellLinked s := (wellLinked_runAll wellLinked_empty
    (allAllowed_of_isAllAllowed (by decide +kernel))).new _ _
  have link : s.parent? 1 = some 3 := by decide +kernel
  have apart : ∀ m ∈ [4, 2, 6], ¬ s.Below 3 m := not_below_of_isApart (by decide +kernel)
  obtain ⟨s', run, moved, -, lists, -⟩ :=
    replaceWith_supplants_iff linked link (by decide +kernel) (by decide) apart
  have stands := moved.2 (by decide)
  refine ⟨linked, link, apart, s', run, stands, ?_, ?_⟩
  · rw [stands.children]
    decide +kernel
  · rw [lists 5 (by decide)]
    decide +kernel

/-- An item that is to be replaced by itself falls behind the other one, and is no longer linked to
the list. -/
theorem replaceWith_self_misplaced :
    let s := (Store.appendChild (sampleList.new (.text "z")).2 3 6)
    s.children 3 = [1, 2, 6] ∧
      let s' := (replaceWith 1 [1] s).2
      s'.children 3 = [2, 1, 6] ∧ s'.parent? 1 = none ∧ ¬ Supplanted s 1 3 [1] s' := by
  refine ⟨by decide +kernel, by decide +kernel, by decide +kernel, fun moved => ?_⟩
  have given := moved.parent? 1 (by decide)
  revert given
  decide +kernel

end HtmlTemplate.Markup.Store
