import HtmlTemplate.Expand.Distribution
import HtmlTemplate.Expand.Projection
import HtmlTemplate.Proofs.Occurrence
import Mathlib.Tactic.SplitIfs

/-!
# Replacing elements

A `Rule` says of each element, by its tag and attributes, whether it stays, gives way to its
children or becomes other nodes, and `replaceAmong` applies a rule to a forest from the top down.
Projecting content and distributing attributes are such replacements (`project_ok`,
`distributeAmong_eq`), and one replacement after another is again one (`replaceAmong_replaceAmong`).
Of the elements in a forest a rule only matters for those that it comes to (`metAmong`), and
`replaceAmong_patch_inj` says when two rules that differ in what one kind of element becomes give
the same forest.
-/

namespace HtmlTemplate.Expand

open HtmlTemplate.Markup

/-- What becomes of an element. -/
inductive Fate
  /-- It stays with these attributes, and so do its children unless the rule says otherwise. -/
  | stays (attrs : Attrs)
  /-- It gives way to its children. -/
  | opens
  | becomes (nodes : List Node)

namespace Fate

/-- Whether nothing of an element is left, not even what is inside it. -/
def replaces : Fate → Bool
  | becomes _ => true
  | _ => false

@[simp]
theorem replaces_stays (attrs : Attrs) : (stays attrs).replaces = false := rfl

@[simp]
theorem replaces_opens : opens.replaces = false := rfl

@[simp]
theorem replaces_becomes (nodes : List Node) : (becomes nodes).replaces = true := rfl

end Fate

/-- What becomes of the elements of a tree. -/
abbrev Rule := String → Attrs → Fate

mutual

/-- What a rule makes of a tree. -/
def replaceIn (rule : Rule) : Node → List Node
  | .element tag attrs cs =>
    match rule tag attrs with
    | .stays attrs => [.element tag attrs (replaceAmong rule cs)]
    | .opens => replaceAmong rule cs
    | .becomes nodes => nodes
  | .fragment cs => [.fragment (replaceAmong rule cs)]
  | n => [n]

/-- What a rule makes of a forest. -/
def replaceAmong (rule : Rule) : List Node → List Node
  | [] => []
  | n :: ns => replaceIn rule n ++ replaceAmong rule ns

end

theorem replaceAmong_append (rule : Rule) (ms ns : List Node) :
    replaceAmong rule (ms ++ ns) = replaceAmong rule ms ++ replaceAmong rule ns := by
  induction ms with
  | nil => rfl
  | cons m ms ih => simp only [List.cons_append, replaceAmong, ih, List.append_assoc]

theorem replaceAmong_singleton (rule : Rule) (n : Node) :
    replaceAmong rule [n] = replaceIn rule n := by
  simp only [replaceAmong, List.append_nil]

namespace Rule

/-- One rule after another. -/
def andThen (first second : Rule) : Rule := fun tag attrs =>
  match first tag attrs with
  | .stays attrs => second tag attrs
  | .opens => .opens
  | .becomes nodes => .becomes (replaceAmong second nodes)

end Rule

mutual

theorem replaceAmong_replaceIn (first second : Rule) :
    ∀ n : Node, replaceAmong second (replaceIn first n) = replaceIn (first.andThen second) n
  | .element tag attrs cs => by
    cases h : first tag attrs with
    | stays attrs' =>
      simp only [replaceIn, Rule.andThen, h, replaceAmong_singleton,
        replaceAmong_replaceAmong first second cs]
    | opens => simp only [replaceIn, Rule.andThen, h, replaceAmong_replaceAmong first second cs]
    | becomes nodes => simp only [replaceIn, Rule.andThen, h]
  | .fragment cs => by
    simp only [replaceIn, replaceAmong_singleton, replaceAmong_replaceAmong first second cs]
  | .text _ => rfl
  | .comment _ => rfl
  | .directive _ => rfl
  | .blank => rfl

theorem replaceAmong_replaceAmong (first second : Rule) : ∀ ns : List Node,
    replaceAmong second (replaceAmong first ns) = replaceAmong (first.andThen second) ns
  | [] => rfl
  | n :: ns => by
    simp only [replaceAmong, replaceAmong_append, replaceAmong_replaceIn first second n,
      replaceAmong_replaceAmong first second ns]

end

/-- The rule that changes nothing. -/
def Rule.keep : Rule := fun _ attrs => .stays attrs

mutual

theorem replaceIn_keep : ∀ n : Node, replaceIn .keep n = [n]
  | .element tag attrs cs => by simp only [replaceIn, Rule.keep, replaceAmong_keep cs]
  | .fragment cs => by simp only [replaceIn, replaceAmong_keep cs]
  | .text _ => rfl
  | .comment _ => rfl
  | .directive _ => rfl
  | .blank => rfl

theorem replaceAmong_keep : ∀ ns : List Node, replaceAmong .keep ns = ns
  | [] => rfl
  | n :: ns => by
    rw [replaceAmong, replaceIn_keep n, replaceAmong_keep ns, List.singleton_append]

end

/-! ### What a rule comes to -/

mutual

/-- The elements that a rule comes to on its way down a tree: none inside one that it replaces. -/
def metIn (rule : Rule) : Node → List Node
  | .element tag attrs cs =>
    .element tag attrs cs :: if (rule tag attrs).replaces then [] else metAmong rule cs
  | .fragment cs => metAmong rule cs
  | _ => []

/-- The elements that a rule comes to on its way down a forest. -/
def metAmong (rule : Rule) : List Node → List Node
  | [] => []
  | n :: ns => metIn rule n ++ metAmong rule ns

end

mutual

theorem metIn_subset (rule : Rule) : ∀ n : Node, metIn rule n ⊆ n.preorder
  | .element tag attrs cs => by
    rw [metIn, Node.preorder]
    refine List.cons_subset_cons _ ?_
    split
    · exact List.nil_subset _
    · exact metAmong_subset rule cs
  | .fragment cs => List.subset_cons_of_subset _ (metAmong_subset rule cs)
  | .text _ | .comment _ | .directive _ | .blank => List.nil_subset _

theorem metAmong_subset (rule : Rule) : ∀ ns : List Node, metAmong rule ns ⊆ Node.preorders ns
  | [] => List.Subset.refl _
  | n :: ns => List.append_subset.2
    ⟨List.subset_append_of_subset_left _ (metIn_subset rule n),
      List.subset_append_of_subset_right _ (metAmong_subset rule ns)⟩

end

mutual

theorem mem_preorders_replaceIn {rule : Rule} {tag : String} {attrs attrs' : Attrs}
    {cs : List Node} (stays : rule tag attrs = .stays attrs') : ∀ n : Node,
    .element tag attrs cs ∈ metIn rule n →
      .element tag attrs' (replaceAmong rule cs) ∈ Node.preorders (replaceIn rule n)
  | .element t as ds, met => by
    rcases List.mem_cons.1 met with same | met
    · obtain ⟨rfl, rfl, rfl⟩ := Node.element.inj same
      simp [replaceIn, stays, Node.preorders, Node.preorder]
    · cases fate : rule t as with
      | stays as' =>
        have inside := mem_preorders_replaceAmong stays ds (by simpa [fate] using met)
        simp [replaceIn, fate, Node.preorders, Node.preorder, inside]
      | opens =>
        have inside := mem_preorders_replaceAmong stays ds (by simpa [fate] using met)
        simpa [replaceIn, fate] using inside
      | becomes nodes => simp [fate] at met
  | .fragment ds, met => by
    have inside := mem_preorders_replaceAmong stays ds met
    simp [replaceIn, Node.preorders, Node.preorder, inside]
  | .text _, met | .comment _, met | .directive _, met | .blank, met => absurd met List.not_mem_nil

/-- An element that a rule comes to and lets stay is there afterwards. -/
theorem mem_preorders_replaceAmong {rule : Rule} {tag : String} {attrs attrs' : Attrs}
    {cs : List Node} (stays : rule tag attrs = .stays attrs') : ∀ ns : List Node,
    .element tag attrs cs ∈ metAmong rule ns →
      .element tag attrs' (replaceAmong rule cs) ∈ Node.preorders (replaceAmong rule ns)
  | [], met => absurd met List.not_mem_nil
  | n :: ns, met => by
    rw [replaceAmong, Node.preorders_append]
    rcases List.mem_append.1 met with met | met
    · exact List.mem_append_left _ (mem_preorders_replaceIn stays n met)
    · exact List.mem_append_right _ (mem_preorders_replaceAmong stays ns met)

end

mutual

theorem replaceIn_congr_met {rule rule' : Rule} : ∀ n : Node,
    (∀ t attrs cs, .element t attrs cs ∈ metIn rule n → rule t attrs = rule' t attrs) →
      replaceIn rule n = replaceIn rule' n
  | .element t attrs cs, h => by
    have here := h t attrs cs (by simp [metIn])
    rw [replaceIn, replaceIn, ← here]
    cases fate : rule t attrs with
    | becomes nodes => rfl
    | stays attrs' | opens =>
      simp only [replaceAmong_congr_met cs fun t' attrs' cs' met =>
        h t' attrs' cs' (by simp [metIn, fate, met])]
  | .fragment cs, h => by
    rw [replaceIn, replaceIn, replaceAmong_congr_met cs h]
  | .text _, _ => rfl
  | .comment _, _ => rfl
  | .directive _, _ => rfl
  | .blank, _ => rfl

/-- Two rules do the same to a forest when they agree on the elements that the first comes to. -/
theorem replaceAmong_congr_met {rule rule' : Rule} : ∀ ns : List Node,
    (∀ t attrs cs, .element t attrs cs ∈ metAmong rule ns → rule t attrs = rule' t attrs) →
      replaceAmong rule ns = replaceAmong rule' ns
  | [], _ => rfl
  | n :: ns, h => by
    rw [replaceAmong, replaceAmong,
      replaceIn_congr_met n fun t attrs cs met => h t attrs cs (List.mem_append_left _ met),
      replaceAmong_congr_met ns fun t attrs cs met => h t attrs cs (List.mem_append_right _ met)]

end

/-- Two rules that agree on the elements of a forest do the same to it. -/
theorem replaceAmong_congr {rule rule' : Rule} (ns : List Node)
    (h : ∀ t attrs cs, .element t attrs cs ∈ Node.preorders ns → rule t attrs = rule' t attrs) :
    replaceAmong rule ns = replaceAmong rule' ns :=
  replaceAmong_congr_met ns fun t attrs cs met => h t attrs cs (metAmong_subset rule ns met)

/-! ### The rules of a component -/

/-- Main content takes the place of every element with the tag, unless there is none. -/
def yieldRule (tag : String) (main : List Node) : Rule := fun t attrs =>
  if t == tag then (if main.isEmpty then .opens else .becomes main) else .stays attrs

/-- Fills take the places of the elements with the tag that they are for. -/
def slotRule (tag : String) (fills : Bindings (List Node)) : Rule := fun t attrs =>
  if t == tag then
    match (attrs.get? "name").bind fills.get? with
    | some nodes => .becomes nodes
    | none => .opens
  else .stays attrs

/-- Every element receives the attributes that it is marked for. -/
def markRule (marker : String) (merging : MergeRegistry) (given : Attrs) : Rule := fun _ attrs =>
  .stays (receive marker merging given attrs)

mutual

theorem projectMain_eq (tag : String) (main : List Node) :
    ∀ n : Node, projectMain tag main n = replaceIn (yieldRule tag main) n
  | .element t attrs cs => by
    by_cases ht : t == tag <;> by_cases hm : main.isEmpty <;>
      simp [projectMain, replaceIn, yieldRule, ht, hm, projectMains_eq tag main cs]
  | .fragment cs => by simp only [projectMain, replaceIn, projectMains_eq tag main cs]
  | .text _ => rfl
  | .comment _ => rfl
  | .directive _ => rfl
  | .blank => rfl

theorem projectMains_eq (tag : String) (main : List Node) :
    ∀ ns : List Node, projectMains tag main ns = replaceAmong (yieldRule tag main) ns
  | [] => rfl
  | n :: ns => by
    simp only [projectMains, replaceAmong, projectMain_eq tag main n, projectMains_eq tag main ns]

end

mutual

theorem projectFills_ok (tag : String) (fills : Bindings (List Node)) :
    ∀ (n : Node) (nodes : List Node), projectFills tag fills n = .ok nodes →
      nodes = replaceIn (slotRule tag fills) n
  | .element t attrs cs, nodes, h => by
    by_cases ht : t == tag
    · cases hname : attrs.get? "name" with
      | none => simp [projectFills, ht, hname] at h
      | some name =>
        cases hfill : fills.get? name with
        | none =>
          simp only [projectFills, ht, hname, hfill, if_true] at h
          simpa [replaceIn, slotRule, ht, hname, hfill] using
            projectAllFills_ok tag fills cs nodes h
        | some content =>
          simp only [projectFills, ht, hname, hfill, if_true] at h
          split_ifs at h
          simpa [replaceIn, slotRule, ht, hname, hfill] using (Except.ok.inj h).symm
    · simp only [projectFills, ht] at h
      cases hcs : projectAllFills tag fills cs with
      | error e => simp [hcs, Except.map] at h
      | ok kept =>
        simp [hcs, Except.map] at h
        simp [← h, replaceIn, slotRule, ht, projectAllFills_ok tag fills cs kept hcs]
  | .fragment cs, nodes, h => by
    cases hcs : projectAllFills tag fills cs with
    | error e => simp [projectFills, hcs, Except.map] at h
    | ok kept =>
      simp [projectFills, hcs, Except.map] at h
      simp [← h, replaceIn, projectAllFills_ok tag fills cs kept hcs]
  | .text _, nodes, h => (Except.ok.inj h).symm
  | .comment _, nodes, h => (Except.ok.inj h).symm
  | .directive _, nodes, h => (Except.ok.inj h).symm
  | .blank, nodes, h => (Except.ok.inj h).symm

theorem projectAllFills_ok (tag : String) (fills : Bindings (List Node)) :
    ∀ (ns nodes : List Node), projectAllFills tag fills ns = .ok nodes →
      nodes = replaceAmong (slotRule tag fills) ns
  | [], nodes, h => (Except.ok.inj h).symm
  | n :: ns, nodes, h => by
    cases hn : projectFills tag fills n with
    | error e => simp [projectAllFills, hn] at h
    | ok first =>
      cases hns : projectAllFills tag fills ns with
      | error e => simp [projectAllFills, hn, hns, Except.map] at h
      | ok rest =>
        simp [projectAllFills, hn, hns, Except.map] at h
        rw [replaceAmong, ← projectFills_ok tag fills n first hn,
          ← projectAllFills_ok tag fills ns rest hns, h]

end

/-- Content that can be projected takes the yields first and the slots of all that then. -/
theorem project_ok {yieldTag slotTag : String} {content : Content} {forest nodes : List Node}
    (h : project yieldTag slotTag content forest = .ok nodes) :
    nodes = replaceAmong
      ((yieldRule yieldTag content.main).andThen (slotRule slotTag content.fills)) forest := by
  unfold project at h
  split_ifs at h
  rw [← replaceAmong_replaceAmong, ← projectMains_eq]
  exact projectAllFills_ok slotTag content.fills _ nodes h

mutual

theorem distributeIn_eq (marker : String) (merging : MergeRegistry) (given : Attrs) :
    ∀ n : Node, [distributeIn marker merging given n] = replaceIn (markRule marker merging given) n
  | .element t attrs cs => by
    simp only [distributeIn, replaceIn, markRule, distributeAmong_eq marker merging given cs]
  | .fragment cs => by
    simp only [distributeIn, replaceIn, distributeAmong_eq marker merging given cs]
  | .text _ => rfl
  | .comment _ => rfl
  | .directive _ => rfl
  | .blank => rfl

theorem distributeAmong_eq (marker : String) (merging : MergeRegistry) (given : Attrs) :
    ∀ ns : List Node,
      distributeAmong marker merging given ns = replaceAmong (markRule marker merging given) ns
  | [] => rfl
  | n :: ns => by
    rw [distributeAmong, replaceAmong, ← distributeIn_eq marker merging given n,
      ← distributeAmong_eq marker merging given ns, List.singleton_append]

end

/-! ### Rules that differ in one place -/

/-- A rule under which the elements with a tag become the given nodes. -/
def Rule.patch (tag : String) (nodes : List Node) (rule : Rule) : Rule := fun t attrs =>
  if t == tag then .becomes nodes else rule t attrs

mutual

/-- Whether a rule, going down a tree, comes to an element with the tag. -/
def reachesIn (tag : String) (rule : Rule) : Node → Bool
  | .element t attrs cs =>
    t == tag || (!(rule t attrs).replaces && reachesAmong tag rule cs)
  | .fragment cs => reachesAmong tag rule cs
  | _ => false

/-- Whether a rule, going down a forest, comes to an element with the tag. -/
def reachesAmong (tag : String) (rule : Rule) : List Node → Bool
  | [] => false
  | n :: ns => reachesIn tag rule n || reachesAmong tag rule ns

end

mutual

theorem reachesIn_congr {tag : String} {rule rule' : Rule}
    (h : ∀ t attrs, t ≠ tag → (rule t attrs).replaces = (rule' t attrs).replaces) :
    ∀ n : Node, reachesIn tag rule n = reachesIn tag rule' n
  | .element t attrs cs => by
    by_cases ht : t = tag
    · simp [reachesIn, ht]
    · rw [reachesIn, reachesIn, h t attrs ht, reachesAmong_congr h cs]
  | .fragment cs => reachesAmong_congr h cs
  | .text _ => rfl
  | .comment _ => rfl
  | .directive _ => rfl
  | .blank => rfl

/-- How far a rule comes depends on nothing but which elements it replaces. -/
theorem reachesAmong_congr {tag : String} {rule rule' : Rule}
    (h : ∀ t attrs, t ≠ tag → (rule t attrs).replaces = (rule' t attrs).replaces) :
    ∀ ns : List Node, reachesAmong tag rule ns = reachesAmong tag rule' ns
  | [] => rfl
  | n :: ns => by rw [reachesAmong, reachesAmong, reachesIn_congr h n, reachesAmong_congr h ns]

end

section Patch

variable (tag : String) (rule : Rule)

mutual

theorem replaceIn_patch_of_not_reaches (xs ys : List Node) : ∀ n : Node,
    reachesIn tag rule n = false →
      replaceIn (rule.patch tag xs) n = replaceIn (rule.patch tag ys) n
  | .element t attrs cs, h => by
    simp only [reachesIn, Bool.or_eq_false_iff] at h
    cases hr : rule t attrs with
    | becomes nodes => simp [replaceIn, Rule.patch, h.1, hr]
    | stays attrs' | opens =>
      simp only [hr] at h
      simp [replaceIn, Rule.patch, h.1, hr, replaceAmong_patch_of_not_reaches xs ys cs h.2]
  | .fragment cs, h => by simp only [replaceIn, replaceAmong_patch_of_not_reaches xs ys cs h]
  | .text _, _ => rfl
  | .comment _, _ => rfl
  | .directive _, _ => rfl
  | .blank, _ => rfl

theorem replaceAmong_patch_of_not_reaches (xs ys : List Node) : ∀ ns : List Node,
    reachesAmong tag rule ns = false →
      replaceAmong (rule.patch tag xs) ns = replaceAmong (rule.patch tag ys) ns
  | [], _ => rfl
  | n :: ns, h => by
    simp only [reachesAmong, Bool.or_eq_false_iff] at h
    rw [replaceAmong, replaceAmong, replaceIn_patch_of_not_reaches xs ys n h.1,
      replaceAmong_patch_of_not_reaches xs ys ns h.2]

end

mutual

/-- The number of nodes that a patched rule makes grows with that of the patch, by as many for each
of its nodes as there are places that the rule comes to. -/
theorem length_replaceIn_patch : ∀ n : Node, ∃ fixed places : Nat,
    (reachesIn tag rule n = true → 0 < places) ∧
      ∀ xs : List Node, (Node.preorders (replaceIn (rule.patch tag xs) n)).length =
        fixed + places * (Node.preorders xs).length
  | .element t attrs cs => by
    by_cases ht : t == tag
    · exact ⟨0, 1, fun _ => Nat.one_pos, fun xs => by simp [replaceIn, Rule.patch, ht]⟩
    · obtain ⟨fixed, places, hreach, hsize⟩ := length_replaceAmong_patch cs
      cases hr : rule t attrs with
      | stays attrs' =>
        refine ⟨fixed + 1, places, fun h => hreach (by simpa [reachesIn, ht, hr] using h), ?_⟩
        intro xs
        simp only [replaceIn, Rule.patch, ht, hr, Node.preorders_singleton, Node.preorder,
          List.length_cons, hsize xs, Bool.false_eq_true, if_false]
        omega
      | opens =>
        refine ⟨fixed, places, fun h => hreach (by simpa [reachesIn, ht, hr] using h), ?_⟩
        intro xs
        simp [replaceIn, Rule.patch, ht, hr, hsize xs]
      | becomes nodes =>
        refine ⟨(Node.preorders nodes).length, 0, fun h => ?_, fun xs => ?_⟩
        · simp [reachesIn, ht, hr] at h
        · simp [replaceIn, Rule.patch, ht, hr]
  | .fragment cs => by
    obtain ⟨fixed, places, hreach, hsize⟩ := length_replaceAmong_patch cs
    refine ⟨fixed + 1, places, hreach, fun xs => ?_⟩
    simp only [replaceIn, Node.preorders_singleton, Node.preorder, List.length_cons, hsize xs]
    omega
  | .text _ | .comment _ | .directive _ | .blank =>
    ⟨1, 0, fun h => by simp [reachesIn] at h, fun xs => by
      simp [replaceIn, Node.preorders, Node.preorder]⟩

theorem length_replaceAmong_patch : ∀ ns : List Node, ∃ fixed places : Nat,
    (reachesAmong tag rule ns = true → 0 < places) ∧
      ∀ xs : List Node, (Node.preorders (replaceAmong (rule.patch tag xs) ns)).length =
        fixed + places * (Node.preorders xs).length
  | [] => ⟨0, 0, fun h => by simp [reachesAmong] at h, fun xs => by
      simp [replaceAmong, Node.preorders]⟩
  | n :: ns => by
    obtain ⟨fixed, places, hreach, hsize⟩ := length_replaceIn_patch n
    obtain ⟨fixed', places', hreach', hsize'⟩ := length_replaceAmong_patch ns
    refine ⟨fixed + fixed', places + places', fun h => ?_, fun xs => ?_⟩
    · rcases Bool.or_eq_true_iff.1 h with h | h
      · exact Nat.add_pos_left (hreach h) _
      · exact Nat.add_pos_right _ (hreach' h)
    · rw [replaceAmong, Node.preorders_append, List.length_append, hsize xs, hsize' xs, Nat.add_mul]
      omega

end

mutual

theorem eq_of_replaceIn_patch_eq {xs ys : List Node}
    (size : (Node.preorders xs).length = (Node.preorders ys).length) : ∀ n : Node,
    reachesIn tag rule n = true →
      replaceIn (rule.patch tag xs) n = replaceIn (rule.patch tag ys) n → xs = ys
  | .element t attrs cs, reached, h => by
    by_cases ht : t == tag
    · simpa [replaceIn, Rule.patch, ht] using h
    · cases hr : rule t attrs with
      | stays attrs' =>
        simp [replaceIn, Rule.patch, ht, hr] at h
        exact eq_of_replaceAmong_patch_eq size cs (by simpa [reachesIn, ht, hr] using reached) h
      | opens =>
        simp [replaceIn, Rule.patch, ht, hr] at h
        exact eq_of_replaceAmong_patch_eq size cs (by simpa [reachesIn, ht, hr] using reached) h
      | becomes nodes => simp [reachesIn, ht, hr] at reached
  | .fragment cs, reached, h => by
    simp only [replaceIn, List.cons.injEq, Node.fragment.injEq, and_true] at h
    exact eq_of_replaceAmong_patch_eq size cs reached h
  | .text _, reached, _ | .comment _, reached, _ | .directive _, reached, _
  | .blank, reached, _ => by
    simp [reachesIn] at reached

theorem eq_of_replaceAmong_patch_eq {xs ys : List Node}
    (size : (Node.preorders xs).length = (Node.preorders ys).length) : ∀ ns : List Node,
    reachesAmong tag rule ns = true →
      replaceAmong (rule.patch tag xs) ns = replaceAmong (rule.patch tag ys) ns → xs = ys
  | [], reached, _ => by simp [reachesAmong] at reached
  | n :: ns, reached, h => by
    obtain ⟨fixed, places, -, hsize⟩ := length_replaceIn_patch tag rule n
    obtain ⟨first, rest⟩ := Node.append_inj_of_length_preorders h (by rw [hsize, hsize, size])
    rcases Bool.or_eq_true_iff.1 reached with reached | reached
    · exact eq_of_replaceIn_patch_eq size n reached first
    · exact eq_of_replaceAmong_patch_eq size ns reached rest

end

/-- Two patches show the same exactly when they are the same or the rule comes to no place for
them. -/
theorem replaceAmong_patch_inj {xs ys ns : List Node} :
    replaceAmong (rule.patch tag xs) ns = replaceAmong (rule.patch tag ys) ns ↔
      reachesAmong tag rule ns = false ∨ xs = ys := by
  constructor
  · intro h
    cases reached : reachesAmong tag rule ns with
    | false => exact .inl rfl
    | true =>
      obtain ⟨fixed, places, hreach, hsize⟩ := length_replaceAmong_patch tag rule ns
      have total := congrArg (fun ms => (Node.preorders ms).length) h
      simp only [hsize, Nat.add_left_cancel_iff] at total
      have size := Nat.eq_of_mul_eq_mul_left (hreach reached) total
      exact .inr (eq_of_replaceAmong_patch_eq tag rule size ns reached h)
  · rintro (unreached | rfl)
    · exact replaceAmong_patch_of_not_reaches tag rule xs ys ns unreached
    · rfl

end Patch

end HtmlTemplate.Expand
