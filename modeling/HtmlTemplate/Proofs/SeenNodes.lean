import HtmlTemplate.Proofs.Bindings
import HtmlTemplate.Proofs.Replacement

/-!
# Nodes that expansion comes to

`Seen P forest` says that all nodes of a forest have a property which expansion comes to: those
inside a fragment it leaves as they are. Components put forests together from others, and what is
seen in the result was seen in the parts, provided that a property stays when elements are given
attributes (`seen_distribute`, `seen_project`).
-/

namespace HtmlTemplate.Expand

open HtmlTemplate.Markup

mutual

/-- The nodes of a tree that expansion comes to; what is inside a fragment it leaves as it is. -/
def seenIn : Node → List Node
  | .element tag attrs cs => .element tag attrs cs :: seenAmong cs
  | n => [n]

/-- The nodes of a forest that expansion comes to. -/
def seenAmong : List Node → List Node
  | [] => []
  | n :: ns => seenIn n ++ seenAmong ns

end

theorem seenAmong_append (ms ns : List Node) :
    seenAmong (ms ++ ns) = seenAmong ms ++ seenAmong ns := by
  induction ms with
  | nil => rfl
  | cons m ms ih => simp only [List.cons_append, seenAmong, ih, List.append_assoc]

/-- All nodes that expansion comes to have a property. -/
def Seen (P : Node → Prop) (forest : List Node) : Prop := ∀ n ∈ seenAmong forest, P n

section Seen

variable {P Q : Node → Prop}

theorem seen_nil : Seen P [] := fun _ hn => absurd hn List.not_mem_nil

theorem seen_append_iff {ms ns : List Node} : Seen P (ms ++ ns) ↔ Seen P ms ∧ Seen P ns := by
  simp only [Seen, seenAmong_append, List.mem_append, or_imp, forall_and]

theorem seen_cons_iff {n : Node} {ns : List Node} : Seen P (n :: ns) ↔ Seen P [n] ∧ Seen P ns := by
  rw [← seen_append_iff, List.singleton_append]

theorem seen_element_iff {tag : String} {attrs : Attrs} {cs : List Node} :
    Seen P [.element tag attrs cs] ↔ P (.element tag attrs cs) ∧ Seen P cs := by
  simp [Seen, seenAmong, seenIn]

/-- Expansion comes to nothing inside a node that is no element. -/
theorem seen_leaf_iff {n : Node} (leaf : n.tag? = none) : Seen P [n] ↔ P n := by
  cases n with
  | element tag attrs cs => cases leaf
  | _ => simp [Seen, seenAmong, seenIn]

theorem Seen.of_mem {n : Node} {ns : List Node} (h : Seen P ns) (hn : n ∈ ns) : Seen P [n] := by
  obtain ⟨before, after, rfl⟩ := List.append_of_mem hn
  exact (seen_cons_iff.1 (seen_append_iff.1 h).2).1

theorem seen_of_forall_mem {ns : List Node} (h : ∀ n ∈ ns, Seen P [n]) : Seen P ns := by
  induction ns with
  | nil => exact seen_nil
  | cons n ns ih =>
    exact seen_cons_iff.2 ⟨h n List.mem_cons_self, ih fun m hm => h m (List.mem_cons_of_mem n hm)⟩

theorem Seen.mono {ns : List Node} (h : Seen P ns) (hPQ : ∀ n, P n → Q n) : Seen Q ns :=
  fun n hn => hPQ n (h n hn)

/-! ### All nodes -/

mutual

theorem every_of_seenIn (open_ : ∀ cs, ¬ P (.fragment cs)) : ∀ n : Node, Seen P [n] → Every P [n]
  | .element _ _ cs, h =>
    every_element_iff.2 ⟨(seen_element_iff.1 h).1,
      every_of_seen open_ cs (seen_element_iff.1 h).2⟩
  | .fragment cs, h => absurd ((seen_leaf_iff rfl).1 h) (open_ cs)
  | .text _, h | .comment _, h | .directive _, h | .blank, h =>
    every_leaf rfl ((seen_leaf_iff rfl).1 h)

/-- A property that fragments lack is one of all nodes when it is one of those that expansion comes
to. -/
theorem every_of_seen (open_ : ∀ cs, ¬ P (.fragment cs)) : ∀ ns : List Node, Seen P ns → Every P ns
  | [], _ => every_nil
  | n :: ns, h => every_cons_iff.2 ⟨every_of_seenIn open_ n (seen_cons_iff.1 h).1,
      every_of_seen open_ ns (seen_cons_iff.1 h).2⟩

end

mutual

theorem seenIn_subset : ∀ n : Node, seenIn n ⊆ n.preorder
  | .element _ _ cs => List.cons_subset_cons _ (seenAmong_subset cs)
  | .fragment cs => by simp [seenIn, Node.preorder]
  | .text _ | .comment _ | .directive _ | .blank => List.Subset.refl _

theorem seenAmong_subset : ∀ ns : List Node, seenAmong ns ⊆ Node.preorders ns
  | [] => List.Subset.refl _
  | n :: ns => List.append_subset.2
    ⟨List.subset_append_of_subset_left _ (seenIn_subset n),
      List.subset_append_of_subset_right _ (seenAmong_subset ns)⟩

end

theorem Seen.of_every {ns : List Node} (h : Every P ns) : Seen P ns :=
  fun n hn => h n (seenAmong_subset ns hn)

/-! ### Replacing elements -/

/-- What stays under a rule keeps a property, and what elements become has it. -/
structure Rule.Keeps (rule : Rule) (P : Node → Prop) : Prop where
  stays : ∀ {tag attrs attrs' cs}, rule tag attrs = .stays attrs' →
    P (.element tag attrs cs) → P (.element tag attrs' cs)
  becomes : ∀ {tag attrs nodes}, rule tag attrs = .becomes nodes → Seen P nodes

mutual

theorem seen_replaceIn (shallow : Shallow P) {rule : Rule} (keeps : rule.Keeps P) :
    ∀ n : Node, Seen P [n] → Seen P (replaceIn rule n)
  | .element tag attrs cs, h => by
    obtain ⟨here, hcs⟩ := seen_element_iff.1 h
    have inside := seen_replaceAmong shallow keeps cs hcs
    cases hfate : rule tag attrs with
    | stays attrs' =>
      simpa only [replaceIn, hfate] using
        seen_element_iff.2 ⟨keeps.stays hfate (shallow.element here _), inside⟩
    | opens => simpa only [replaceIn, hfate] using inside
    | becomes nodes => simpa only [replaceIn, hfate] using keeps.becomes hfate
  | .fragment _, h => (seen_leaf_iff rfl).2 (shallow.fragment ((seen_leaf_iff rfl).1 h) _)
  | .text _, h => h
  | .comment _, h => h
  | .directive _, h => h
  | .blank, h => h

/-- Replacing elements brings no nodes but those that elements become. -/
theorem seen_replaceAmong (shallow : Shallow P) {rule : Rule} (keeps : rule.Keeps P) :
    ∀ ns : List Node, Seen P ns → Seen P (replaceAmong rule ns)
  | [], _ => seen_nil
  | n :: ns, h => by
    obtain ⟨hn, hns⟩ := seen_cons_iff.1 h
    exact seen_append_iff.2
      ⟨seen_replaceIn shallow keeps n hn, seen_replaceAmong shallow keeps ns hns⟩

end

/-! ### Attributes -/

/-- Elements keep a property when they are given attributes. -/
def Takes (P : Node → Prop) (merging : MergeRegistry) (given : Attrs) : Prop :=
  ∀ tag attrs cs, P (.element tag attrs cs) → P (.element tag (merging.assign attrs given) cs)

theorem seen_giveFirst {merging : MergeRegistry} {given : Attrs} (takes : Takes P merging given)
    {ns : List Node} (h : Seen P ns) : Seen P (giveFirst merging given ns) := by
  induction ns with
  | nil => exact h
  | cons n ns ih =>
    obtain ⟨hn, hns⟩ := seen_cons_iff.1 h
    cases n with
    | element tag attrs cs =>
      obtain ⟨here, hcs⟩ := seen_element_iff.1 hn
      rw [giveFirst]
      split
      · exact seen_cons_iff.2 ⟨seen_element_iff.2 ⟨takes tag attrs cs here, hcs⟩, hns⟩
      · exact seen_cons_iff.2 ⟨hn, ih hns⟩
    | _ => exact seen_cons_iff.2 ⟨hn, ih hns⟩

/-- Distributing attributes keeps a property that elements keep when they lose a marker and when
they are given what is meant for one. -/
theorem seen_distribute (shallow : Shallow P) {marker : String} {merging : MergeRegistry}
    {given : Attrs} (unmarked : ∀ tag attrs cs, P (.element tag attrs cs) →
      P (.element tag (attrs.erase marker) cs))
    (takes : ∀ slot, Takes P merging (routed marker given slot)) {ns : List Node} (h : Seen P ns) :
    Seen P (distribute marker merging given ns) := by
  have keeps : (markRule marker merging given).Keeps P := by
    refine ⟨fun {tag attrs _ cs} hfate here => ?_, fun hfate => nomatch hfate⟩
    obtain rfl := Fate.stays.inj hfate
    unfold receive
    split
    · exact takes _ tag _ cs (unmarked tag attrs cs here)
    · exact here
  have marked : Seen P (distributeAmong marker merging given ns) := by
    rw [distributeAmong_eq]
    exact seen_replaceAmong shallow keeps ns h
  unfold distribute
  dsimp only
  split
  · exact marked
  · exact seen_giveFirst (takes "") marked

/-! ### Content -/

/-- All nodes of some content that expansion comes to have a property. -/
def ContentSeen (P : Node → Prop) (content : Content) : Prop :=
  Seen P content.main ∧ ∀ name fill, content.fills.get? name = some fill → Seen P fill

theorem contentSeen_add? {fillTag : String} {content content' : Content} {n : Node}
    (added : content.add? fillTag n = some content') (hn : Seen P [n])
    (h : ContentSeen P content) : ContentSeen P content' := by
  unfold Content.add? at added
  split at added
  · rename_i isFill
    obtain ⟨slot, -, rfl⟩ := Option.map_eq_some_iff.1 added
    have children : Seen P n.children := by
      cases n with
      | element tag attrs cs => exact (seen_element_iff.1 hn).2
      | _ => simp [Node.hasTag, Node.tag?] at isFill
    refine ⟨h.1, fun name fill hfill => ?_⟩
    rw [Bindings.get?_put] at hfill
    split at hfill
    · obtain rfl := Option.some.inj hfill
      cases hold : content.fills.get? slot with
      | none => exact children
      | some old => exact seen_append_iff.2 ⟨h.2 slot old hold, children⟩
    · exact h.2 name fill hfill
  · obtain rfl := Option.some.inj added
    exact ⟨seen_append_iff.2 ⟨h.1, hn⟩, h.2⟩

/-- Content has no nodes but those that it is made of. -/
theorem contentSeen_ofNodes? {fillTag : String} {nodes : List Node} {content : Content}
    (made : Content.ofNodes? fillTag nodes = some content) (h : Seen P nodes) :
    ContentSeen P content := by
  have start : ContentSeen P {} :=
    ⟨seen_nil, fun name fill hfill => by simp [Bindings.get?] at hfill⟩
  unfold Content.ofNodes? at made
  generalize ({} : Content) = sofar at made start
  induction nodes generalizing sofar with
  | nil => exact Option.some.inj made ▸ start
  | cons n ns ih =>
    obtain ⟨hn, hns⟩ := seen_cons_iff.1 h
    obtain ⟨next, hnext, made⟩ := Option.bind_eq_some_iff.1 made
    exact ih hns next made (contentSeen_add? hnext hn start)

/-- Projected content brings its own nodes and no others. -/
theorem seen_project (shallow : Shallow P) {yieldTag slotTag : String} {content : Content}
    {tree nodes : List Node} (projected : project yieldTag slotTag content tree = .ok nodes)
    (htree : Seen P tree) (hcontent : ContentSeen P content) : Seen P nodes := by
  have slots : (slotRule slotTag content.fills).Keeps P := by
    constructor
    · intro tag attrs attrs' cs hfate here
      unfold slotRule at hfate
      split at hfate
      · split at hfate <;> cases hfate
      · exact Fate.stays.inj hfate ▸ here
    · intro tag attrs nodes hfate
      unfold slotRule at hfate
      split at hfate
      · split at hfate
        · rename_i fill hfill
          obtain rfl := Fate.becomes.inj hfate
          obtain ⟨name, -, hname⟩ := Option.bind_eq_some_iff.1 hfill
          exact hcontent.2 name _ hname
        · cases hfate
      · cases hfate
  have yields : (yieldRule yieldTag content.main).Keeps P := by
    constructor
    · intro tag attrs attrs' cs hfate here
      unfold yieldRule at hfate
      split at hfate
      · split at hfate <;> cases hfate
      · exact Fate.stays.inj hfate ▸ here
    · intro tag attrs nodes hfate
      unfold yieldRule at hfate
      split at hfate
      · split at hfate
        · cases hfate
        · exact Fate.becomes.inj hfate ▸ hcontent.1
      · cases hfate
  rw [project_ok projected, ← replaceAmong_replaceAmong]
  exact seen_replaceAmong shallow slots _ (seen_replaceAmong shallow yields tree htree)

end Seen

end HtmlTemplate.Expand
