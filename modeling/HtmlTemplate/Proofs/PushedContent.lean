import HtmlTemplate.Proofs.Replacement
import HtmlTemplate.Proofs.StackResidue

/-!
# Where pushed content comes to stand

When pushes hold neither pushes nor placeholders, a bucket holds the content of the pushes to it, in
document order, without the elements whose id an earlier one has (`collect_eq`, `get?_pushAll`), and
the forest is the one in which pushes have become nothing and placeholders the content of their
buckets (`forest_resolve`).
-/

namespace HtmlTemplate.Stacks

open HtmlTemplate.Markup HtmlTemplate.Expand

variable {tag pushTag stackTag : String} {buckets : Bindings Bucket}

/-! ### Buckets -/

/-- Whether a later node has the id of an earlier element. -/
def sameId (n m : Node) : Bool := (Bucket.idOf? n).any fun id => Bucket.idOf? m == some id

/-- Nodes without the elements whose id an earlier element has. -/
def keepFirst : List Node → List Node
  | [] => []
  | n :: ns => n :: (keepFirst ns).filter fun m => !sameId n m

/-- The ids of elements. -/
def idsOf (ns : List Node) : List String := ns.filterMap Bucket.idOf?

theorem idsOf_cons (n : Node) (ns : List Node) :
    idsOf (n :: ns) = (Bucket.idOf? n).toList ++ idsOf ns := by
  rw [idsOf, List.filterMap_cons]
  cases Bucket.idOf? n <;> rfl

/-- No id is repeated among the nodes that are kept. -/
theorem nodup_idsOf_keepFirst (ns : List Node) : (idsOf (keepFirst ns)).Nodup := by
  induction ns with
  | nil => exact List.nodup_nil
  | cons n ns ih =>
    have rest : (idsOf ((keepFirst ns).filter fun m => !sameId n m)).Nodup :=
      ih.sublist (List.filter_sublist.filterMap _)
    rw [keepFirst, idsOf_cons]
    cases hid : Bucket.idOf? n with
    | none => exact rest
    | some id =>
      refine List.nodup_cons.2 ⟨fun mem => ?_, rest⟩
      obtain ⟨m, hm, same⟩ := List.mem_filterMap.1 mem
      have other := (List.mem_filter.1 hm).2
      simp [sameId, hid, same] at other

namespace Bucket

theorem takes_add_of_takes {b : Bucket} {n : Node} (h : b.takes n = true) (m : Node) :
    (b.add n).takes m = (!sameId n m && b.takes m) := by
  rw [add, if_pos h, takes, takes, sameId]
  cases hm : idOf? m with
  | none => cases idOf? n <;> rfl
  | some id =>
    cases hn : idOf? n with
    | none => simp
    | some id' => by_cases same : id = id' <;> simp [same]

theorem takes_eq_of_not_takes {b : Bucket} {n : Node} (h : b.takes n = false) (m : Node) :
    (!sameId n m && b.takes m) = b.takes m := by
  rw [takes] at h
  cases hn : idOf? n with
  | none => simp [hn] at h
  | some id =>
    simp only [hn, Bool.not_eq_false', List.contains_iff_mem] at h
    rw [takes, sameId, hn]
    cases hm : idOf? m with
    | none => rfl
    | some id' =>
      by_cases same : id' = id
      · simp [same, h]
      · simp [same]

/-- Of nodes that are added one after another those come in that are kept and new to the bucket. -/
theorem addAll_eq (b : Bucket) (ns : List Node) : b.addAll ns =
    ⟨b.content ++ (keepFirst ns).filter b.takes,
      b.ids ++ idsOf ((keepFirst ns).filter b.takes)⟩ := by
  induction ns generalizing b with
  | nil => simp [addAll, keepFirst, idsOf]
  | cons n ns ih =>
    have step : b.addAll (n :: ns) = (b.add n).addAll ns := rfl
    rw [step, ih, keepFirst]
    cases h : b.takes n with
    | true =>
      have later : (keepFirst ns).filter (b.add n).takes =
          ((keepFirst ns).filter fun m => !sameId n m).filter b.takes := by
        rw [List.filter_filter]
        exact List.filter_congr fun m _ => (takes_add_of_takes h m).trans (Bool.and_comm _ _)
      rw [later, add, if_pos h, List.filter_cons_of_pos h, idsOf_cons]
      simp
    | false =>
      have later : (keepFirst ns).filter b.takes =
          ((keepFirst ns).filter fun m => !sameId n m).filter b.takes := by
        rw [List.filter_filter]
        exact List.filter_congr fun m _ => (takes_eq_of_not_takes h m).symm.trans
          (Bool.and_comm _ _)
      rw [add, h, if_neg Bool.false_ne_true, List.filter_cons_of_neg (by simp [h]), later]

/-- What a bucket holds that nodes were added to when it was empty. -/
theorem addAll_empty (ns : List Node) :
    ({} : Bucket).addAll ns = ⟨keepFirst ns, idsOf (keepFirst ns)⟩ := by
  have all : (keepFirst ns).filter ({} : Bucket).takes = keepFirst ns := by
    refine List.filter_eq_self.2 fun m _ => ?_
    rw [takes]
    cases idOf? m <;> rfl
  rw [addAll_eq, all]
  rfl

theorem addAll_addAll (b : Bucket) (ns ms : List Node) :
    (b.addAll ns).addAll ms = b.addAll (ns ++ ms) := (List.foldl_append ..).symm

end Bucket

/-! ### Collecting -/

/-- The elements of a forest that have a tag, in document order. -/
def elementsOf (tag : String) (forest : List Node) : List Node :=
  Node.findAll (·.hasTag tag) forest

/-- The pushes to one stack. -/
def pushesTo (tag name : String) (forest : List Node) : List Node :=
  (elementsOf tag forest).filter fun p => p.attrs.get? "stack" == some name

/-- The stack that a push names. -/
def stackOf (p : Node) : String := (p.attrs.get? "stack").getD ""

/-- Adds the content of pushes to buckets. -/
def pushAll (buckets : Bindings Bucket) (pushes : List Node) : Bindings Bucket :=
  pushes.foldl (fun buckets p =>
    buckets.put (stackOf p) (((buckets.get? (stackOf p)).getD {}).addAll p.children)) buckets

/-- Pushes to other stacks have no part in a bucket. -/
theorem get?_pushAll (buckets : Bindings Bucket) (pushes : List Node) (name : String) :
    (pushAll buckets pushes).get? name =
      if pushes.filter (stackOf · == name) = [] then buckets.get? name
      else some (((buckets.get? name).getD {}).addAll
        ((pushes.filter (stackOf · == name)).flatMap Node.children)) := by
  induction pushes generalizing buckets with
  | nil => rfl
  | cons p pushes ih =>
    have step : pushAll buckets (p :: pushes) = pushAll (buckets.put (stackOf p)
      (((buckets.get? (stackOf p)).getD {}).addAll p.children)) pushes := rfl
    rw [step, ih, Bindings.get?_put]
    by_cases here : stackOf p = name
    · subst here
      rw [List.filter_cons_of_pos (by simp), if_neg (List.cons_ne_nil _ _), List.flatMap_cons,
        if_pos rfl]
      split_ifs with none
      · rw [none]
        simp
      · rw [Option.getD_some, Bucket.addAll_addAll]
    · rw [if_neg (Ne.symm here), List.filter_cons_of_neg (by simpa using here)]

/-- The rule that makes nothing of pushes. -/
def dropRule (tag : String) : Rule := fun t attrs =>
  if t == tag then .becomes [] else .stays attrs

theorem elementsOf_append (tag : String) (ms ns : List Node) :
    elementsOf tag (ms ++ ns) = elementsOf tag ms ++ elementsOf tag ns := by
  rw [elementsOf, Node.findAll, Node.preorders_append, List.filter_append]
  rfl

theorem elementsOf_of_lacks {ns : List Node} (h : Lacks tag ns) : elementsOf tag ns = [] :=
  List.filter_eq_nil_iff.2 fun n hn => by simp [h n hn]

mutual

theorem withoutPushes_of_lacks : ∀ n : Node, Lacks tag [n] → withoutPushes tag n = n
  | .element t attrs cs, h => by
    obtain ⟨other, inside⟩ := lacks_element_iff.1 h
    rw [withoutPushes, if_neg (by simpa using other), dropPushes_of_lacks cs inside]
  | .fragment cs, h => by
    rw [withoutPushes, dropPushes_of_lacks cs (lacks_fragment_iff.1 h)]
  | .text _, _ | .comment _, _ | .directive _, _ | .blank, _ => rfl

theorem dropPushes_of_lacks : ∀ ns : List Node, Lacks tag ns → dropPushes tag ns = ns
  | [], _ => rfl
  | n :: ns, h => by
    obtain ⟨hn, hns⟩ := lacks_cons_iff.1 h
    rw [dropPushes, lacks_of_hasTag hn, withoutPushes_of_lacks n hn, dropPushes_of_lacks ns hns]
    rfl

end

/-- No push is inside a push. -/
def FlatPushes (tag : String) (forest : List Node) : Prop :=
  ∀ p ∈ elementsOf tag forest, Lacks tag p.children

theorem elementsOf_self (attrs : Attrs) (cs : List Node) :
    elementsOf tag [.element tag attrs cs] = .element tag attrs cs :: elementsOf tag cs := by
  simp [elementsOf, Node.findAll, Node.preorders_singleton, Node.preorder, Node.hasTag, Node.tag?]

theorem elementsOf_element {t : String} (other : t ≠ tag) (attrs : Attrs) (cs : List Node) :
    elementsOf tag [.element t attrs cs] = elementsOf tag cs := by
  simp [elementsOf, Node.findAll, Node.preorders_singleton, Node.preorder, Node.hasTag, Node.tag?,
    other]

theorem elementsOf_fragment (cs : List Node) :
    elementsOf tag [.fragment cs] = elementsOf tag cs := by
  simp [elementsOf, Node.findAll, Node.preorders_singleton, Node.preorder, Node.hasTag, Node.tag?]

theorem elementsOf_cons (n : Node) (ns : List Node) :
    elementsOf tag (n :: ns) = elementsOf tag [n] ++ elementsOf tag ns :=
  elementsOf_append tag [n] ns

theorem FlatPushes.of_cons {n : Node} {ns : List Node} (h : FlatPushes tag (n :: ns)) :
    FlatPushes tag [n] ∧ FlatPushes tag ns := by
  simpa only [FlatPushes, elementsOf_cons n ns, List.mem_append, or_imp, forall_and] using h

theorem lost_of_collectAmong_cons {n : Node} {ns : List Node} {c : Collection}
    (found : (collectAmong tag (n :: ns) c).2.lost = false) :
    (collectIn tag n c).2.lost = false := by
  have rest : (collectAmong tag ns (collectIn tag n c).2).2.lost = false := found
  exact lost_of_collectAmong rest

/-- Every element with a tag has an attribute. -/
def Named (tag attribute_ : String) (forest : List Node) : Prop :=
  ∀ n ∈ elementsOf tag forest, ∃ value, n.attrs.get? attribute_ = some value

section Named

variable {attribute_ : String}

theorem named_nil : Named tag attribute_ [] := fun _ hn => absurd hn List.not_mem_nil

theorem named_cons_iff {n : Node} {ns : List Node} :
    Named tag attribute_ (n :: ns) ↔ Named tag attribute_ [n] ∧ Named tag attribute_ ns := by
  rw [Named, elementsOf_cons]
  exact List.forall_mem_append

theorem named_self_iff {attrs : Attrs} {cs : List Node} :
    Named tag attribute_ [.element tag attrs cs] ↔
      (∃ value, attrs.get? attribute_ = some value) ∧ Named tag attribute_ cs := by
  rw [Named, elementsOf_self]
  exact List.forall_mem_cons

theorem named_element_iff {t : String} (other : t ≠ tag) {attrs : Attrs} {cs : List Node} :
    Named tag attribute_ [.element t attrs cs] ↔ Named tag attribute_ cs := by
  rw [Named, elementsOf_element other]
  rfl

theorem named_fragment_iff {cs : List Node} :
    Named tag attribute_ [.fragment cs] ↔ Named tag attribute_ cs := by
  rw [Named, elementsOf_fragment]
  rfl

theorem named_of_lacks {ns : List Node} (h : Lacks tag ns) : Named tag attribute_ ns := by
  rw [Named, elementsOf_of_lacks h]
  exact List.forall_mem_nil _

end Named

theorem pushAll_append (buckets : Bindings Bucket) (ps qs : List Node) :
    pushAll buckets (ps ++ qs) = pushAll (pushAll buckets ps) qs := List.foldl_append

mutual

theorem collectIn_flat : ∀ (n : Node) (buckets : Bindings Bucket), FlatPushes tag [n] →
    (collectIn tag n ⟨buckets, false⟩).2.lost = false →
      collectIn tag n ⟨buckets, false⟩ =
        (replaceIn (dropRule tag) n, ⟨pushAll buckets (elementsOf tag [n]), false⟩)
  | .element t attrs cs, buckets, flat, found => by
    rw [collectIn, if_neg Bool.false_ne_true] at found ⊢
    by_cases push : t = tag
    · subst push
      have bare : Lacks t cs := flat (.element t attrs cs) (by simp [elementsOf_self])
      have same : cs.map (withoutPushes t) = cs :=
        (List.map_congr_left fun n hn => withoutPushes_of_lacks n (bare.of_mem hn)).trans
          (List.map_id' cs)
      rw [if_pos (beq_self_eq_true t)] at found ⊢
      cases name : attrs.get? "stack" with
      | none => simp [name] at found
      | some stack =>
        simp [collectAmong_of_lacks cs _ bare, same, replaceIn, dropRule, elementsOf_self,
          elementsOf_of_lacks bare, pushAll, stackOf, Node.attrs, name, Node.children,
          Collection.push]
    · have flat' : FlatPushes tag cs := by rwa [FlatPushes, elementsOf_element push] at flat
      have other : ¬ (t == tag) = true := by simpa using push
      rw [if_neg other] at found ⊢
      have inside := collectAmong_flat cs buckets flat' found
      simp [inside, replaceIn, dropRule, push, elementsOf_element push]
  | .fragment cs, buckets, flat, found => by
    have flat' : FlatPushes tag cs := by rwa [FlatPushes, elementsOf_fragment] at flat
    have inside := collectAmong_flat cs buckets flat' found
    simp [collectIn, inside, replaceIn, elementsOf_fragment]
  | .text _, _, _, _ | .comment _, _, _, _ | .directive _, _, _, _ | .blank, _, _, _ => rfl

/-- Collecting flat pushes to the end makes nothing of them, and adds their content to the buckets
one after another. -/
theorem collectAmong_flat : ∀ (ns : List Node) (buckets : Bindings Bucket), FlatPushes tag ns →
    (collectAmong tag ns ⟨buckets, false⟩).2.lost = false →
      collectAmong tag ns ⟨buckets, false⟩ =
        (replaceAmong (dropRule tag) ns, ⟨pushAll buckets (elementsOf tag ns), false⟩)
  | [], _, _, _ => rfl
  | n :: ns, buckets, flat, found => by
    obtain ⟨hn, hns⟩ := flat.of_cons
    have first := collectIn_flat n buckets hn (lost_of_collectAmong_cons found)
    rw [collectAmong, first] at found
    have rest := collectAmong_flat ns (pushAll buckets (elementsOf tag [n])) hns found
    rw [collectAmong, first]
    simp only [rest, replaceAmong, elementsOf_cons n ns, pushAll_append]

end

mutual

theorem named_of_collectIn : ∀ (n : Node) (c : Collection),
    (collectIn tag n c).2.lost = false → Named tag "stack" [n]
  | .element t attrs cs, c, found => by
    rw [collectIn] at found
    split_ifs at found with lost push
    · simp [lost] at found
    · obtain rfl : tag = t := (beq_iff_eq.1 push).symm
      cases name : attrs.get? "stack" with
      | none => simp [name] at found
      | some stack =>
        simp only [name] at found
        exact named_self_iff.2 ⟨⟨stack, name⟩, named_of_collectAmong cs _ found⟩
    · exact (named_element_iff (by simpa using push)).2 (named_of_collectAmong cs c found)
  | .fragment cs, c, found => named_fragment_iff.2 (named_of_collectAmong cs c found)
  | .text _, _, _ | .comment _, _, _ | .directive _, _, _ | .blank, _, _ =>
    named_of_lacks (lacks_leaf rfl rfl tag)

/-- A collection that comes to its end has seen the names of all stacks. -/
theorem named_of_collectAmong : ∀ (ns : List Node) (c : Collection),
    (collectAmong tag ns c).2.lost = false → Named tag "stack" ns
  | [], _, _ => named_nil
  | n :: ns, c, found => named_cons_iff.2
    ⟨named_of_collectIn n c (lost_of_collectAmong_cons found),
      named_of_collectAmong ns (collectIn tag n c).2 found⟩

end

/-! ### Replaying -/

/-- What a placeholder with the given attributes gives way to. -/
def shownFor (buckets : Bindings Bucket) (attrs : Attrs) : List Node :=
  (((attrs.get? "name").bind buckets.get?).map Bucket.content).getD []

/-- The rule that fills placeholders. -/
def fillRule (tag : String) (buckets : Bindings Bucket) : Rule := fun t attrs =>
  if t == tag then .becomes (shownFor buckets attrs) else .stays attrs

mutual

theorem replayIn_eq : ∀ n : Node, (replayIn tag buckets n false).2 = false →
    (replayIn tag buckets n false).1 = replaceIn (fillRule tag buckets) n
  | .element t attrs cs, found => by
    rw [replayIn, if_neg Bool.false_ne_true] at found ⊢
    by_cases placeholder : t = tag
    · have here : (t == tag) = true := beq_iff_eq.2 placeholder
      rw [if_pos here] at found ⊢
      cases name : attrs.get? "name" with
      | none => simp [name] at found
      | some stack => simp [replaceIn, fillRule, here, shownFor, name]
    · have other : ¬ (t == tag) = true := by simpa using placeholder
      rw [if_neg other] at found ⊢
      simp [replayAmong_eq cs found, replaceIn, fillRule, placeholder]
  | .fragment cs, found => by
    rw [replayIn] at found ⊢
    simp [replayAmong_eq cs found, replaceIn]
  | .text _, _ | .comment _, _ | .directive _, _ | .blank, _ => rfl

/-- Replaying to the end fills the placeholders. -/
theorem replayAmong_eq : ∀ ns : List Node, (replayAmong tag buckets ns false).2 = false →
    (replayAmong tag buckets ns false).1 = replaceAmong (fillRule tag buckets) ns
  | [], _ => rfl
  | n :: ns, found => by
    have first : (replayIn tag buckets n false).2 = false := not_lost_of_replayAmong found
    rw [replayAmong] at found ⊢
    simp only [first] at found ⊢
    rw [replayIn_eq n first, replayAmong_eq ns found, replaceAmong]

end

mutual

theorem named_of_replayIn : ∀ n : Node, (replayIn tag buckets n false).2 = false →
    Named tag "name" [n]
  | .element t attrs cs, found => by
    rw [replayIn, if_neg Bool.false_ne_true] at found
    by_cases placeholder : t = tag
    · obtain rfl : tag = t := placeholder.symm
      rw [if_pos (beq_self_eq_true tag)] at found
      cases name : attrs.get? "name" with
      | none => simp [name] at found
      | some stack =>
        simp only [name] at found
        exact named_self_iff.2 ⟨⟨stack, name⟩, named_of_replayAmong cs found⟩
    · rw [if_neg (by simpa using placeholder)] at found
      exact (named_element_iff placeholder).2 (named_of_replayAmong cs found)
  | .fragment cs, found => named_fragment_iff.2 (named_of_replayAmong cs found)
  | .text _, _ | .comment _, _ | .directive _, _ | .blank, _ =>
    named_of_lacks (lacks_leaf rfl rfl tag)

/-- Replaying to the end has seen the names of all placeholders. -/
theorem named_of_replayAmong : ∀ ns : List Node, (replayAmong tag buckets ns false).2 = false →
    Named tag "name" ns
  | [], _ => named_nil
  | n :: ns, found => by
    have first : (replayIn tag buckets n false).2 = false := not_lost_of_replayAmong found
    rw [replayAmong] at found
    simp only [first] at found
    exact named_cons_iff.2 ⟨named_of_replayIn n first, named_of_replayAmong ns found⟩

end

/-- The rule that makes nothing of pushes and fills placeholders. -/
def moveRule (pushTag stackTag : String) (buckets : Bindings Bucket) : Rule := fun t attrs =>
  if t == pushTag then .becomes []
  else if t == stackTag then .becomes (shownFor buckets attrs)
  else .stays attrs

theorem dropRule_andThen_fillRule (pushTag stackTag : String) (buckets : Bindings Bucket) :
    (dropRule pushTag).andThen (fillRule stackTag buckets) = moveRule pushTag stackTag buckets := by
  funext t attrs
  rw [Rule.andThen, dropRule, moveRule]
  split_ifs with push placeholder
  · rfl
  · simp [fillRule, placeholder]
  · simp [fillRule, placeholder]

section Resolve

variable {forest : List Node} (flat : FlatPushes pushTag forest)
  (ok : (resolve pushTag stackTag forest).problem? = none)
include flat ok

theorem collect_eq : collect pushTag forest =
    (replaceAmong (dropRule pushTag) forest, ⟨pushAll [] (elementsOf pushTag forest), false⟩) :=
  collectAmong_flat forest [] flat (resolve_ok ok).1

theorem buckets_resolve : (resolve pushTag stackTag forest).buckets =
    pushAll [] (elementsOf pushTag forest) := by
  rw [resolve, collect_eq flat ok]
  rfl

/-- Pushes become nothing, placeholders what was pushed to their stacks, and all else stays. -/
theorem forest_resolve : (resolve pushTag stackTag forest).forest = replaceAmong
    (moveRule pushTag stackTag (pushAll [] (elementsOf pushTag forest))) forest := by
  obtain ⟨-, replayed, result⟩ := resolve_ok ok
  rw [collect_eq flat ok] at replayed result
  rw [result, replay, replayAmong_eq _ replayed, replaceAmong_replaceAmong,
    dropRule_andThen_fillRule]

end Resolve

end HtmlTemplate.Stacks
