import HtmlTemplate.Proofs.AddedTrees
import HtmlTemplate.Proofs.HeldForests
import HtmlTemplate.Proofs.PushedContent
import HtmlTemplate.Proofs.Runs

/-!
# Moving pushed content in place

`resolveAt` moves pushed content in a tree of linked nodes. The pushes are listed before the first
is emptied and taken out, and the placeholders before the first is replaced; each placeholder gives
way to new copies of the nodes in its bucket. What one push and one placeholder change is
`Collected` and `Filled` for all of them (`ends_collectFrom`, `ends_fill`).
-/

namespace HtmlTemplate.Stacks

open HtmlTemplate.Markup HtmlTemplate.Markup.Store HtmlTemplate.Expand

/-- The nodes that were pushed to one stack. -/
structure LinkedBucket where
  content : List Nat := []
  /-- The ids of the elements in the content. -/
  ids : List String := []

namespace LinkedBucket

/-- Adds a node unless an element with its id is there. -/
def add (s : Store) (b : LinkedBucket) (n : Nat) : LinkedBucket :=
  match (s.kind n).attrs.get? "id" with
  | none => ⟨b.content ++ [n], b.ids⟩
  | some id => if b.ids.contains id then b else ⟨b.content ++ [n], b.ids ++ [id]⟩

/-- Adds nodes one after another. -/
def addAll (s : Store) (b : LinkedBucket) (ns : List Nat) : LinkedBucket := ns.foldl (add s) b

end LinkedBucket

/-- Why pushed content cannot be moved. -/
inductive Obstacle
  | problem (problem : Problem)
  | link (error : LinkError)

/-- Work on linked nodes that may come upon an obstacle. -/
abbrev Moving (α : Type) := ExceptT Obstacle (StateM Store) α

/-- Does an operation on linked nodes. -/
def onStore {α : Type} (x : Linked α) : Moving α := fun s =>
  match x s with
  | (.ok a, s) => (.ok a, s)
  | (.error e, s) => (.error (.link e), s)

/-- The value of an attribute that an element must have. -/
def required (tag name : String) (n : Nat) : Moving String := do
  match ((← get).kind n).attrs.get? name with
  | some value => return value
  | none => throw (.problem (.missingAttribute tag [name]))

/-- Takes the content out of pushes, and the pushes out of the tree. -/
def collectFrom (tag : String) :
    List Nat → Bindings LinkedBucket → Moving (Bindings LinkedBucket)
  | [], buckets => return buckets
  | p :: ps, buckets => do
    let name ← required tag "stack" p
    let content := (← get).children p
    modify (·.clear p)
    let bucket := ((buckets.get? name).getD {}).addAll (← get) content
    modify (·.detach p)
    collectFrom tag ps (buckets.put name bucket)

/-- Copies trees, and tells the roots of the copies. -/
def copyAll : List Nat → Moving (List Nat)
  | [] => return []
  | n :: ns => do
    let m ← onStore (Store.copy n)
    return m :: (← copyAll ns)

/-- Replaces placeholders by copies of what was pushed to their stacks, and tells which. -/
def fill (tag : String) (buckets : Bindings LinkedBucket) :
    List Nat → Moving (List (Nat × List Nat))
  | [] => return []
  | q :: qs => do
    let name ← required tag "name" q
    let copies ← copyAll (((buckets.get? name).map LinkedBucket.content).getD [])
    let _ ← onStore (Store.replaceWith q copies)
    return (q, copies) :: (← fill tag buckets qs)

/-- What was moved in a tree. -/
structure Moves where
  pushes : List Nat
  buckets : Bindings LinkedBucket
  /-- The placeholders with the nodes that took their places. -/
  copies : List (Nat × List Nat)

/-- Moves the pushed content in the tree below a node to its placeholders. -/
def resolveAt (pushTag stackTag : String) (root : Nat) : Moving Moves := do
  let pushes := (← get).elementsBelow root pushTag
  let buckets ← collectFrom pushTag pushes []
  let placeholders := (← get).elementsBelow root stackTag
  let copies ← fill stackTag buckets placeholders
  return ⟨pushes, buckets, copies⟩

variable {s s' : Store} {tag : String} {n p q : Nat} {ns ms qs : List Nat} {t : Node}
  {ts : List Node} {made : List (Nat × List Nat)}

theorem ends_onStore {α : Type} {x : Linked α} {a : α} (h : x s = (.ok a, s')) :
    Ends (onStore x) s a s' := by
  unfold Ends onStore
  rw [h]

theorem ends_required {name value : String} (h : (s.kind n).attrs.get? name = some value)
    (tag : String) : Ends (required tag name n) s value s := by
  refine ends_get_bind_iff.2 ?_
  rw [h]
  exact ends_pure_iff.2 ⟨rfl, rfl⟩

/-! ### Copies -/

/-- Trees were copied to new nodes; those that were there before are as they were. -/
structure Copied (s : Store) (ts : List Node) (ms : List Nat) (s' : Store) : Prop where
  wellLinked : WellLinked s'
  grown : Extends s' s
  shows : Shows s' ms ts (List.range' s.cells.size (Node.preorders ts).length)
  size : s'.cells.size = s.cells.size + (Node.preorders ts).length
  same : ∀ n, s.Has n → SameAt s s' n
  free : ∀ m ∈ ms, s'.parent? m = none

/-- A tree stands in a store. -/
def Stands (s : Store) (n : Nat) (t : Node) : Prop :=
  s.Has n ∧ ∃ numbers, Shows s [n] [t] numbers

theorem Stands.of_sameAt (linked : WellLinked s) (h : Stands s n t) (has : s'.Has n)
    (same : ∀ n, s.Has n → SameAt s s' n) : Stands s' n t := by
  obtain ⟨here, numbers, shows⟩ := h
  refine ⟨has, numbers, shows.congr fun m hm => same m ?_⟩
  exact shows.has linked (fun a ha => by rwa [List.mem_singleton.1 ha]) m hm

theorem ends_copy (linked : WellLinked s) (h : Stands s n t) (copyable : isCopyable t = true) :
    ∃ s', Ends (onStore (Store.copy n)) s s.cells.size s' ∧ Copied s [t] [s.cells.size] s' := by
  obtain ⟨here, numbers, shows⟩ := h
  have added := loadedTree_load s t
  have loaded := loaded_load linked t
  have count : (Node.preorders [t]).length = t.preorder.length := by
    rw [Node.preorders_singleton]
  have top : ∀ m ∈ [s.cells.size], (s.load t).2.parent? m = none := fun m hm => by
    rw [List.mem_singleton.1 hm, ← load_fst s t]
    exact loaded.top
  refine ⟨(s.load t).2, ends_onStore ?_, loaded.wellLinked, loaded.grown, ?_, ?_, added.same, top⟩
  · unfold Store.copy
    rw [shows.tree? linked here]
    simp only [copyable, if_true, load_fst]
  · rw [count]
    exact added.shows
  · rw [count]
    exact added.size

/-- One copy comes after another. -/
theorem Copied.cons {s₁ : Store} {m : Nat} (first : Copied s [t] [m] s₁)
    (later : Copied s₁ ts ms s') : Copied s (t :: ts) (m :: ms) s' := by
  have count : (Node.preorders (t :: ts)).length =
      (Node.preorders [t]).length + (Node.preorders ts).length := by
    rw [Node.preorders_singleton]
    exact List.length_append
  have hm : s₁.Has m := by
    have inside := first.shows.sublist.subset (List.mem_singleton_self m)
    rw [List.mem_range'_1] at inside
    rw [Has, first.size]
    exact inside.2
  refine ⟨later.wellLinked, later.grown.trans first.grown, ?_, ?_, fun a ha => ?_, fun a ha => ?_⟩
  · rw [count, ← List.range'_append_1, ← first.size]
    refine (first.shows.congr fun a ha => later.same a ?_).append later.shows
    rw [Has, first.size]
    exact (List.mem_range'_1.1 ha).2
  · rw [later.size, first.size, count, Nat.add_assoc]
  · obtain ⟨kind, children⟩ := first.same a ha
    obtain ⟨kind', children'⟩ := later.same a (first.grown.has ha)
    exact ⟨kind'.trans kind, children'.trans children⟩
  · rcases List.mem_cons.1 ha with rfl | ha
    · rw [later.grown.parent? hm]
      exact first.free a (List.mem_singleton_self a)
    · exact later.free a ha

/-- Trees that stand in a store can be copied. -/
theorem ends_copyAll (linked : WellLinked s) (h : List.Forall₂ (Stands s) ns ts)
    (copyable : ∀ t ∈ ts, isCopyable t = true) :
    ∃ ms s', Ends (copyAll ns) s ms s' ∧ Copied s ts ms s' := by
  induction ns generalizing s ts with
  | nil =>
    cases h
    exact ⟨[], s, ends_pure_iff.2 ⟨rfl, rfl⟩, linked, .refl s, .nil, rfl, fun _ _ => ⟨rfl, rfl⟩,
      fun m hm => absurd hm List.not_mem_nil⟩
  | cons n ns ih =>
    cases h with
    | @cons _ t _ ts hn hns =>
      obtain ⟨s₁, run, first⟩ := ends_copy linked hn (copyable t List.mem_cons_self)
      have still : List.Forall₂ (Stands s₁) ns ts := hns.imp fun m u hm =>
        hm.of_sameAt linked (first.grown.has hm.1) first.same
      obtain ⟨ms, s', rest, later⟩ := ih first.wellLinked still fun u hu =>
        copyable u (List.mem_cons_of_mem t hu)
      refine ⟨s.cells.size :: ms, s', ?_, first.cons later⟩
      exact ends_bind_iff.2 ⟨_, _, run, ends_bind_iff.2 ⟨_, _, rest, ends_pure_iff.2 ⟨rfl, rfl⟩⟩⟩

/-! ### Placeholders -/

/-- A placeholder was replaced by copies of trees. -/
structure FilledOne (s : Store) (q : Nat) (ts : List Node) (ms : List Nat) (s' : Store) :
    Prop where
  wellLinked : WellLinked s'
  shows : Shows s' ms ts (List.range' s.cells.size (Node.preorders ts).length)
  size : s'.cells.size = s.cells.size + (Node.preorders ts).length
  kind : ∀ n, s.Has n → s'.kind n = s.kind n
  children : ∀ n, s.Has n → s'.children n = putFor q ms (s.children n)
  parent? : ∀ n, s.Has n → n ≠ q → s'.parent? n = s.parent? n

theorem Copied.not_has (h : Copied s ts ms s') {m : Nat} (hm : m ∈ ms) : ¬ s.Has m :=
  Nat.not_lt.2 (List.mem_range'_1.1 (h.shows.sublist.subset hm)).1

theorem Copied.has (h : Copied s ts ms s') {m : Nat} (hm : m ∈ ms) : s'.Has m := by
  rw [Has, h.size]
  exact (List.mem_range'_1.1 (h.shows.sublist.subset hm)).2

theorem Copied.nodup (h : Copied s ts ms s') : ms.Nodup :=
  (List.nodup_range' 1).sublist h.shows.sublist

/-- Copies take the place of a node that has a parent. -/
theorem Copied.filledOne {s₁ : Store} (linked : WellLinked s) (link : s.parent? q = some p)
    (h : Copied s ts ms s₁) :
    ∃ s', Ends (onStore (Store.replaceWith q ms)) s₁ ms.length s' ∧ FilledOne s q ts ms s' := by
  have hq : s.Has q := has_of_parent?_eq_some link
  have hp : s.Has p := has_of_mem_children ((linked.linked q p).1 link)
  have link' : s₁.parent? q = some p := (h.grown.parent? hq).trans link
  obtain ⟨s', run, replaced⟩ := h.wellLinked.replacedBy link' (fun m hm => h.has hm) h.free h.nodup
    fun m hm below => h.not_has hm (h.grown.has_of_below linked hp below)
  have apart {m : Nat} (hm : ¬ s.Has m) : q ∉ s₁.children m := fun mem => by
    have same : p = m := Option.some.inj (link'.symm.trans ((h.wellLinked.linked q m).2 mem))
    exact hm (same ▸ hp)
  refine ⟨s', ends_onStore run, replaced.wellLinked, h.shows.congr fun m hm => ?_, ?_,
    fun m hm => ?_, fun m hm => ?_, fun m hm other => ?_⟩
  · refine ⟨replaced.kind m, ?_⟩
    rw [replaced.children, putFor_of_not_mem (apart (Nat.not_lt.2 (List.mem_range'_1.1 hm).1))]
  · rw [replaced.size, h.size]
  · rw [replaced.kind, (h.same m hm).1]
  · rw [replaced.children, (h.same m hm).2]
  · have old : m ∉ ms := fun mem => h.not_has mem hm
    rw [replaced.parent?, if_neg other, if_neg old, h.grown.parent? hm]

/-- What stands in the place of a node when placeholders have been replaced. -/
def place (made : List (Nat × List Nat)) (n : Nat) : List Nat := (made.lookup n).getD [n]

/-- Placeholders were replaced by copies of what was pushed to their stacks. The copies have the
numbers that were free before. -/
structure Filled (s : Store) (buckets : Bindings Bucket) (qs : List Nat)
    (made : List (Nat × List Nat)) (s' : Store) : Prop where
  wellLinked : WellLinked s'
  placeholders : made.map Prod.fst = qs
  kind : ∀ n, s.Has n → s'.kind n = s.kind n
  children : ∀ n, s.Has n → s'.children n = (s.children n).flatMap (place made)
  parent? : ∀ n, s.Has n → n ∉ qs → s'.parent? n = s.parent? n
  shows : ∃ count, s'.cells.size = s.cells.size + count ∧
    Shows s' (made.flatMap Prod.snd) (qs.flatMap fun q => shownFor buckets (s.kind q).attrs)
      (List.range' s.cells.size count)
  each : ∀ entry ∈ made, ∃ numbers,
    Shows s' entry.2 (shownFor buckets (s.kind entry.1).attrs) numbers

theorem place_of_not_mem (h : n ∉ made.map Prod.fst) : place made n = [n] := by
  have none : made.lookup n = none := by
    rw [List.lookup_eq_none_iff]
    intro entry mem
    have other : n ≠ entry.1 := fun same => h (same ▸ List.mem_map_of_mem mem)
    simpa using other
  rw [place, none]
  rfl

theorem flatMap_place_of_disjoint (h : ns.Disjoint (made.map Prod.fst)) :
    ns.flatMap (place made) = ns := by
  have alone : ∀ n ∈ ns, place made n = [n] := fun n hn => place_of_not_mem (h hn)
  rw [List.flatMap_congr alone, List.flatMap_singleton']

theorem place_cons (entry : Nat × List Nat) (n : Nat) :
    place (entry :: made) n = if n = entry.1 then entry.2 else place made n := by
  rw [place, List.lookup_cons]
  by_cases same : n = entry.1
  · simp [same]
  · have other : (n == entry.1) = false := beq_eq_false_iff_ne.2 same
    rw [other, if_neg same]
    rfl

section Later

variable {s₁ : Store} {buckets : Bindings Bucket}

theorem FilledOne.has (first : FilledOne s q ts ms s₁) (h : s.Has n) : s₁.Has n := by
  rw [Has, first.size]
  exact Nat.lt_add_right _ h

/-- The other placeholders stay where they were. -/
theorem FilledOne.exists_parent (first : FilledOne s q ts ms s₁) (linked : WellLinked s)
    (fresh : q ∉ qs) (links : ∀ a ∈ qs, ∃ b, s.parent? a = some b) (h : n ∈ qs) :
    s.Has n ∧ ∃ b, s.Has b ∧ s₁.parent? n = some b := by
  obtain ⟨b, link⟩ := links n h
  have old := has_of_parent?_eq_some link
  refine ⟨old, b, has_of_mem_children ((linked.linked n b).1 link), ?_⟩
  rw [first.parent? n old (ne_of_mem_of_not_mem h fresh), link]

/-- The copies for one placeholder are none of the others and have none of them below, so that they
stay as they are. -/
theorem FilledOne.still (first : FilledOne s q ts ms s₁) (linked : WellLinked s) (fresh : q ∉ qs)
    (links : ∀ a ∈ qs, ∃ b, s.parent? a = some b) (later : Filled s₁ buckets qs made s') :
    ms.Disjoint (made.map Prod.fst) ∧
      Shows s' ms ts (List.range' s.cells.size (Node.preorders ts).length) := by
  have inside {a : Nat} (ha : a ∈ made.map Prod.fst) :=
    first.exists_parent linked fresh links (later.placeholders ▸ ha)
  have new {m : Nat} (hm : m ∈ List.range' s.cells.size (Node.preorders ts).length) :
      ¬ s.Has m ∧ s₁.Has m := by
    rw [List.mem_range'_1] at hm
    rw [Has, Has, first.size]
    omega
  refine ⟨fun m hm ha => (new (first.shows.sublist.subset hm)).1 (inside ha).1,
    first.shows.congr fun m hm => ?_⟩
  obtain ⟨free, here⟩ := new hm
  have calm : (s₁.children m).Disjoint (made.map Prod.fst) := by
    intro a child ha
    obtain ⟨-, b, hb, link⟩ := inside ha
    have same := Option.some.inj (link.symm.trans ((first.wellLinked.linked a m).2 child))
    exact free (same ▸ hb)
  refine ⟨later.kind m here, ?_⟩
  rw [later.children m here, flatMap_place_of_disjoint calm]

/-- One placeholder is replaced after another. -/
theorem FilledOne.cons (links : ∀ a ∈ qs, ∃ b, s.parent? a = some b) (linked : WellLinked s)
    (fresh : q ∉ qs) (first : FilledOne s q (shownFor buckets (s.kind q).attrs) ms s₁)
    (later : Filled s₁ buckets qs made s') :
    Filled s buckets (q :: qs) ((q, ms) :: made) s' := by
  obtain ⟨apart, still⟩ := first.still linked fresh links later
  have kinds : ∀ a ∈ qs, s₁.kind a = s.kind a := fun a ha =>
    first.kind a (first.exists_parent linked fresh links ha).1
  refine ⟨later.wellLinked, ?_, fun n hn => ?_, fun n hn => ?_, fun n hn other => ?_, ?_, ?_⟩
  · rw [List.map_cons, later.placeholders]
  · rw [later.kind n (first.has hn), first.kind n hn]
  · rw [later.children n (first.has hn), first.children n hn, putFor, List.flatMap_assoc]
    refine List.flatMap_congr fun m _ => ?_
    rw [place_cons]
    by_cases same : m = q
    · rw [if_pos same, if_pos same, flatMap_place_of_disjoint apart]
    · rw [if_neg same, if_neg same, List.flatMap_singleton]
  · obtain ⟨other, others⟩ := not_or.1 (fun h => other (List.mem_cons.2 h))
    rw [later.parent? n (first.has hn) others, first.parent? n hn other]
  · obtain ⟨count, size, shows⟩ := later.shows
    refine ⟨(Node.preorders (shownFor buckets (s.kind q).attrs)).length + count, ?_, ?_⟩
    · rw [size, first.size, Nat.add_assoc]
    · have shown : (qs.flatMap fun q => shownFor buckets (s₁.kind q).attrs) =
          qs.flatMap fun q => shownFor buckets (s.kind q).attrs :=
        List.flatMap_congr fun a ha => by rw [kinds a ha]
      rw [shown, first.size] at shows
      rw [← List.range'_append_1]
      exact still.append shows
  · intro entry mem
    rcases List.mem_cons.1 mem with rfl | mem
    · exact ⟨_, still⟩
    · rw [← kinds entry.1 (later.placeholders ▸ List.mem_map_of_mem mem)]
      exact later.each entry mem

end Later

/-- A bucket of linked nodes is like one of trees. -/
structure LikeBucket (like : Nat → Node → Prop) (b : LinkedBucket) (b' : Bucket) : Prop where
  content : List.Forall₂ like b.content b'.content
  ids : b.ids = b'.ids

/-- Buckets of linked nodes are like buckets of trees. -/
def LikeBuckets (like : Nat → Node → Prop) (bs : Bindings LinkedBucket) (bs' : Bindings Bucket) :
    Prop :=
  ∀ name, Option.Rel (LikeBucket like) (bs.get? name) (bs'.get? name)

section LikeBuckets

variable {like like' : Nat → Node → Prop} {bs : Bindings LinkedBucket} {bs' : Bindings Bucket}

theorem LikeBuckets.imp (h : LikeBuckets like bs bs') (weaker : ∀ n t, like n t → like' n t) :
    LikeBuckets like' bs bs' := by
  intro name
  match bs.get? name, bs'.get? name, h name with
  | _, _, .some h => exact .some ⟨h.content.imp weaker, h.ids⟩
  | _, _, .none => exact .none

theorem LikeBuckets.content (h : LikeBuckets like bs bs') (name : String) :
    List.Forall₂ like (((bs.get? name).map LinkedBucket.content).getD [])
      (((bs'.get? name).map Bucket.content).getD []) := by
  match bs.get? name, bs'.get? name, h name with
  | _, _, .some h => exact h.content
  | _, _, .none => exact .nil

end LikeBuckets

/-- A tree stands in a store, and none of some nodes is below it. -/
def StandsOff (s : Store) (qs : List Nat) (n : Nat) (t : Node) : Prop :=
  s.Has n ∧ ∃ numbers, Shows s [n] [t] numbers ∧ ∀ m ∈ numbers, ∀ q ∈ qs, q ∉ s.children m

theorem StandsOff.stands (h : StandsOff s qs n t) : Stands s n t := by
  obtain ⟨here, numbers, shows, -⟩ := h
  exact ⟨here, numbers, shows⟩

theorem StandsOff.filledOne {s₁ : Store} (linked : WellLinked s) (h : StandsOff s (q :: qs) n t)
    (first : FilledOne s q ts ms s₁) : StandsOff s₁ qs n t := by
  obtain ⟨here, numbers, shows, off⟩ := h
  have has : ∀ m ∈ numbers, s.Has m :=
    shows.has linked fun a ha => by rwa [List.mem_singleton.1 ha]
  have same : ∀ m ∈ numbers, s₁.children m = s.children m := fun m hm => by
    rw [first.children m (has m hm), putFor_of_not_mem (off m hm q List.mem_cons_self)]
  refine ⟨first.has here, numbers,
    shows.congr fun m hm => ⟨first.kind m (has m hm), same m hm⟩, fun m hm a ha => ?_⟩
  rw [same m hm]
  exact off m hm a (List.mem_cons_of_mem q ha)

/-- Placeholders that have a parent and name a stack are replaced one after another. -/
theorem ends_fill (tag : String) {bs : Bindings LinkedBucket} {bs' : Bindings Bucket}
    (linked : WellLinked s)
    (distinct : qs.Nodup) (links : ∀ q ∈ qs, ∃ p, s.parent? q = some p)
    (named : ∀ q ∈ qs, ∃ name, (s.kind q).attrs.get? "name" = some name)
    (copyable : ∀ q ∈ qs, ∀ t ∈ shownFor bs' (s.kind q).attrs, isCopyable t = true)
    (buckets : LikeBuckets (StandsOff s qs) bs bs') :
    ∃ made s', Ends (fill tag bs qs) s made s' ∧ Filled s bs' qs made s' := by
  induction qs generalizing s with
  | nil =>
    refine ⟨[], s, ends_pure_iff.2 ⟨rfl, rfl⟩, linked, rfl, fun _ _ => rfl, fun n _ => ?_,
      fun _ _ _ => rfl, ⟨0, rfl, .nil⟩, fun entry mem => absurd mem List.not_mem_nil⟩
    exact (flatMap_place_of_disjoint (List.disjoint_nil_right _)).symm
  | cons q qs ih =>
    obtain ⟨fresh, distinct⟩ := List.nodup_cons.1 distinct
    obtain ⟨p, link⟩ := links q List.mem_cons_self
    obtain ⟨name, hname⟩ := named q List.mem_cons_self
    have shown : shownFor bs' (s.kind q).attrs = ((bs'.get? name).map Bucket.content).getD [] := by
      rw [shownFor, hname]
      rfl
    have content := (buckets.content name).imp fun m t h => h.stands
    rw [← shown] at content
    obtain ⟨ms, s₁, copied, copies⟩ := ends_copyAll linked content (copyable q List.mem_cons_self)
    obtain ⟨s₂, replaced, first⟩ := copies.filledOne linked link
    have old : ∀ a ∈ qs, s.Has a := fun a ha => by
      obtain ⟨b, link⟩ := links a (List.mem_cons_of_mem q ha)
      exact has_of_parent?_eq_some link
    have kinds : ∀ a ∈ qs, s₂.kind a = s.kind a := fun a ha => first.kind a (old a ha)
    obtain ⟨made, s', rest, later⟩ := ih first.wellLinked distinct
      (fun a ha => by
        rw [first.parent? a (old a ha) (ne_of_mem_of_not_mem ha fresh)]
        exact links a (List.mem_cons_of_mem q ha))
      (fun a ha => by
        rw [kinds a ha]
        exact named a (List.mem_cons_of_mem q ha))
      (fun a ha => by
        rw [kinds a ha]
        exact copyable a (List.mem_cons_of_mem q ha))
      (buckets.imp fun m t h => h.filledOne linked first)
    refine ⟨(q, ms) :: made, s', ?_, first.cons (fun a ha => links a (List.mem_cons_of_mem q ha))
      linked fresh later⟩
    exact ends_bind_iff.2 ⟨_, _, ends_required hname tag, ends_bind_iff.2 ⟨_, _, copied,
      ends_bind_iff.2 ⟨_, _, replaced, ends_bind_iff.2 ⟨_, _, rest, ends_pure_iff.2 ⟨rfl, rfl⟩⟩⟩⟩⟩

/-! ### Pushes -/

/-- Nodes were emptied and taken out. -/
structure Collected (s : Store) (ps : List Nat) (s' : Store) : Prop where
  wellLinked : WellLinked s'
  size : s'.cells.size = s.cells.size
  kind : ∀ n, s'.kind n = s.kind n
  children : ∀ n, s'.children n =
    if n ∈ ps then [] else (s.children n).filter fun m => decide (m ∉ ps)

theorem collected_nil (linked : WellLinked s) : Collected s [] s :=
  ⟨linked, rfl, fun _ => rfl, fun n => by simp⟩

theorem Collected.cons {ps : List Nat} (linked : WellLinked s)
    (later : Collected ((s.clear p).detach p) ps s') : Collected s (p :: ps) s' := by
  refine ⟨later.wellLinked, ?_, fun n => ?_, fun n => ?_⟩
  · rw [later.size, size_detach, size_clear]
  · rw [later.kind, kind_detach, kind_clear]
  · rw [later.children, (linked.clear p).children_detach, WellLinked.children_clear]
    by_cases here : n = p
    · simp [here]
    · rw [if_neg here, (linked.distinct n).erase_eq_filter, List.filter_filter]
      simp only [List.mem_cons, here, false_or]
      refine if_congr Iff.rfl rfl (List.filter_congr fun m _ => ?_)
      by_cases same : m = p <;> simp [same]

section LikeBuckets

variable {like : Nat → Node → Prop} {bs : Bindings LinkedBucket} {bs' : Bindings Bucket}
  (ids : ∀ n t, like n t → (s.kind n).attrs.get? "id" = Bucket.idOf? t)
include ids

theorem LikeBucket.add {b : LinkedBucket} {b' : Bucket} (h : LikeBucket like b b')
    (new : like n t) : LikeBucket like (b.add s n) (b'.add t) := by
  have longer : List.Forall₂ like (b.content ++ [n]) (b'.content ++ [t]) :=
    List.rel_append h.content (.cons new .nil)
  have id := ids n t new
  rw [LinkedBucket.add, Bucket.add, Bucket.takes, id]
  cases Bucket.idOf? t with
  | none => exact ⟨longer, by simp [h.ids]⟩
  | some id =>
    simp only [h.ids]
    by_cases known : b'.ids.contains id = true
    · rw [if_pos known, if_neg (by simpa using known)]
      exact h
    · rw [if_neg known, if_pos (by simpa using known)]
      exact ⟨longer, rfl⟩

theorem LikeBucket.addAll {b : LinkedBucket} {b' : Bucket} (h : LikeBucket like b b')
    (new : List.Forall₂ like ns ts) : LikeBucket like (b.addAll s ns) (b'.addAll ts) := by
  induction new generalizing b b' with
  | nil => exact h
  | cons first _ ih => exact ih (h.add ids first)

omit ids in
theorem LikeBuckets.put (h : LikeBuckets like bs bs') {b : LinkedBucket} {b' : Bucket}
    (new : LikeBucket like b b') (name : String) :
    LikeBuckets like (bs.put name b) (bs'.put name b') := by
  intro other
  rw [Bindings.get?_put, Bindings.get?_put]
  split_ifs with same
  · exact .some new
  · exact h other

omit ids in
/-- A stack that nothing was pushed to is like an empty bucket. -/
theorem LikeBuckets.getD (h : LikeBuckets like bs bs') (name : String) :
    LikeBucket like ((bs.get? name).getD {}) ((bs'.get? name).getD {}) := by
  match bs.get? name, bs'.get? name, h name with
  | _, _, .some h => exact h
  | _, _, .none => exact ⟨.nil, rfl⟩

end LikeBuckets

/-- A node is like the tree of a push. -/
structure LikePush (like : Nat → Node → Prop) (s : Store) (p : Nat) (t : Node) : Prop where
  named : ∃ name, (s.kind p).attrs.get? "stack" = some name
  attrs : t.attrs = (s.kind p).attrs
  content : List.Forall₂ like (s.children p) t.children

/-- Pushes that name a stack, and have no pushes for children, are taken out one after another. The
pushes that are left have the children they had at first. -/
theorem ends_collectFrom {like : Nat → Node → Prop} {s₀ : Store} {ps : List Nat}
    {bs : Bindings LinkedBucket} {bs' : Bindings Bucket}
    (ids : ∀ n t, like n t → (s₀.kind n).attrs.get? "id" = Bucket.idOf? t)
    (apart : ∀ p ∈ ps, ∀ a ∈ ps, a ∉ s₀.children p) (distinct : ps.Nodup)
    (pushes : List.Forall₂ (LikePush like s₀) ps ts) (linked : WellLinked s)
    (kinds : ∀ n, s.kind n = s₀.kind n) (lists : ∀ p ∈ ps, s.children p = s₀.children p)
    (buckets : LikeBuckets like bs bs') :
    ∃ bs₁ s', Ends (collectFrom tag ps bs) s bs₁ s' ∧ Collected s ps s' ∧
      LikeBuckets like bs₁ (pushAll bs' ts) := by
  induction ps generalizing s ts bs bs' with
  | nil =>
    cases pushes
    exact ⟨bs, s, ends_pure_iff.2 ⟨rfl, rfl⟩, collected_nil linked, buckets⟩
  | cons p ps ih =>
    cases pushes with
    | @cons _ t _ ts first pushes =>
      obtain ⟨fresh, distinct⟩ := List.nodup_cons.1 distinct
      obtain ⟨name, hname⟩ := first.named
      have stack : stackOf t = name := by rw [stackOf, first.attrs, hname, Option.getD_some]
      have content : List.Forall₂ like (s.children p) t.children := by
        rw [lists p List.mem_cons_self]
        exact first.content
      have added := buckets.put ((buckets.getD name).addAll (s := s.clear p)
        (fun n u h => by rw [kind_clear, kinds, ids n u h]) content) name
      obtain ⟨bs₁, s', rest, later, collected⟩ := ih
        (fun a ha b hb => apart a (List.mem_cons_of_mem p ha) b (List.mem_cons_of_mem p hb))
        distinct pushes ((linked.clear p).detach p)
        (fun n => by rw [kind_detach, kind_clear, kinds])
        (fun a ha => by
          have ha' := List.mem_cons_of_mem p ha
          rw [(linked.clear p).children_detach, WellLinked.children_clear,
            if_neg (ne_of_mem_of_not_mem ha fresh), lists a ha',
            List.erase_of_not_mem (apart a ha' p List.mem_cons_self)])
        added
      rw [← kinds] at hname
      refine ⟨bs₁, s', ?_, later.cons linked, ?_⟩
      · refine ends_bind_iff.2 ⟨name, s, ends_required hname tag, ends_get_bind_iff.2 ?_⟩
        refine ends_bind_iff.2 ⟨⟨⟩, _, ends_modify_iff.2 rfl, ends_get_bind_iff.2 ?_⟩
        exact ends_bind_iff.2 ⟨⟨⟩, _, ends_modify_iff.2 rfl, rest⟩
      · rw [← stack] at collected
        exact collected

end HtmlTemplate.Stacks
