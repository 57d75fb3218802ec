import HtmlTemplate.Proofs.LinkedStacks

/-!
# Replayed stacks

When no push is in a push and the work comes to its end, a bucket holds the content of the pushes to
its stack, but of the elements with one id only the first; pushes become nothing, placeholders the
content of their buckets, and all else stays (`resolve_moves`). The same is true in place
(`MovedIn`): the nodes that are neither pushes nor placeholders stay between their siblings, and
the placeholders give way to new nodes, none of which is in another copy or in a bucket.
-/

namespace HtmlTemplate.Stacks

open HtmlTemplate.Markup HtmlTemplate.Markup.Store HtmlTemplate.Expand

variable {s s₁ s' : Store} {pushTag stackTag : String} {root n p : Nat} {t : Node}
  {ids ps qs : List Nat} {forest : List Node} {made : List (Nat × List Nat)}

/-! ### Pushes in a forest -/

theorem attrs_get?_id (h : Shows s [n] [t] numbers) :
    (s.kind n).attrs.get? "id" = Bucket.idOf? t := by
  obtain ⟨-, -, same, -, -⟩ := h.of_single
  rw [same, Bucket.idOf?, isElement_assemble, attrs_assemble]
  cases s.kind n <;> rfl

/-- A node stands in a push, and none of the pushes is below it. -/
def Pushed (s : Store) (ps : List Nat) (n : Nat) (t : Node) : Prop :=
  (∃ p ∈ ps, n ∈ s.children p) ∧ ∃ numbers, Shows s [n] [t] numbers ∧ ∀ m ∈ numbers, m ∉ ps

/-- The pushes of a forest are taken out of the fragment that holds it. -/
theorem ends_collect (linked : WellLinked s) (h : HoldsForest s root forest ids)
    (flat : FlatPushes pushTag forest) (named : Named pushTag "stack" forest) :
    ∃ bs s₁, Ends (collectFrom pushTag (s.elementsBelow root pushTag) []) s bs s₁ ∧
      Collected s (s.elementsBelow root pushTag) s₁ ∧
        LikeBuckets (Pushed s (s.elementsBelow root pushTag)) bs
          (pushAll [] (elementsOf pushTag forest)) := by
  set ps := s.elementsBelow root pushTag with hps
  have pushes : List.Forall₂ (LikePush (Pushed s ps) s) ps (elementsOf pushTag forest) := by
    refine forall₂_imp_of_mem (h.elements linked pushTag) fun p hp t ht ⟨inner, related⟩ => ?_
    have same := related.attrs_eq
    obtain ⟨name, hname⟩ := named t ht
    rw [same] at hname
    obtain ⟨below, -, -, -, inside⟩ := related.of_single
    have clear : ∀ m ∈ below, m ∉ ps := fun m hm hm' =>
      inside.tag?_ne (flat t ht) hm ((h.mem_elementsBelow_iff linked).1 hm').2
    refine ⟨⟨name, hname⟩, same, ?_⟩
    refine forall₂_imp_of_mem inside.roots fun n hn u _ ⟨part, sub, shows⟩ => ?_
    exact ⟨⟨p, hp, hn⟩, part, shows, fun m hm => clear m (sub hm)⟩
  have apart : ∀ p ∈ ps, ∀ a ∈ ps, a ∉ s.children p := fun p hp a ha child => by
    obtain ⟨t, -, like⟩ := forall₂_exists_of_mem pushes hp
    obtain ⟨u, -, -, part, shows, clear⟩ := forall₂_exists_of_mem like.content child
    exact clear a (shows.sublist.subset List.mem_cons_self) ha
  exact ends_collectFrom (fun n t ⟨_, part, shows, _⟩ => attrs_get?_id shows) apart
    (h.nodup_elementsBelow linked pushTag) pushes linked (fun _ => rfl) (fun _ _ => rfl)
    fun name => .none

/-- What stands in the place of a node when pushes have been taken out. -/
def leave (ps : List Nat) (n : Nat) : List Nat := if n ∈ ps then [] else [n]

theorem flatMap_leave (ps ns : List Nat) :
    ns.flatMap (leave ps) = ns.filter fun m => decide (m ∉ ps) := by
  induction ns with
  | nil => rfl
  | cons n ns ih =>
    rw [List.flatMap_cons, ih, leave]
    by_cases mem : n ∈ ps <;> simp [mem]

theorem Collected.children_eq (collected : Collected s ps s₁) (kept : n ∉ ps) :
    s₁.children n = (s.children n).flatMap (leave ps) := by
  rw [collected.children, if_neg kept, flatMap_leave]

theorem Collected.has_iff (collected : Collected s ps s₁) : s₁.Has n ↔ s.Has n := by
  rw [Has, Has, collected.size]

/-- What is left is the forest without the pushes. -/
theorem Collected.holdsForest (collected : Collected s (s.elementsBelow root pushTag) s₁)
    (linked : WellLinked s) (h : HoldsForest s root forest ids) :
    ∃ ids₁, HoldsForest s₁ root (replaceAmong (dropRule pushTag) forest) ids₁ := by
  refine h.replaceAmong linked (collected.has_iff.2 h.has) (fun _ _ => rfl)
    (fun m _ kept => ⟨collected.kind m, if_neg kept, collected.children_eq kept⟩) fun m push => ?_
  rw [if_pos push]
  exact ⟨[], .nil⟩

/-- Taking pushes out takes away the links to them and from them. -/
theorem Collected.isChild_iff (collected : Collected s ps s₁) (linked : WellLinked s) {a b : Nat} :
    s₁.IsChild a b ↔ s.IsChild a b ∧ a ∉ ps ∧ b ∉ ps := by
  rw [IsChild, IsChild, collected.wellLinked.linked, linked.linked, collected.children]
  split_ifs with push
  · simp [push]
  · simp [push]

/-- When pushes have been taken out of a tree, a node is left in it unless it was in a push. -/
theorem Collected.transGen_iff (collected : Collected s ps s₁) (linked : WellLinked s)
    (pushes : ∀ p ∈ ps, Relation.TransGen s.IsChild p root) {q : Nat} :
    Relation.TransGen s₁.IsChild q root ↔
      Relation.TransGen s.IsChild q root ∧ ∀ p ∈ ps, ¬ s.Below q p := by
  have link {a b : Nat} : s₁.IsChild a b ↔ s.IsChild a b ∧ a ∉ ps ∧ b ∉ ps :=
    collected.isChild_iff linked
  constructor
  · refine fun left => ⟨Relation.TransGen.mono (fun a b h => (link.1 h).1) _ _ left, ?_⟩
    intro p hp
    induction left using Relation.TransGen.head_induction_on with
    | @single a step =>
      intro below
      obtain ⟨old, kept, -⟩ := link.1 step
      rcases Relation.ReflTransGen.cases_head below with same | ⟨b, first, rest⟩
      · exact kept (same ▸ hp)
      · obtain rfl : b = root := rightUnique_isChild s first old
        exact linked.acyclic p ((pushes p hp).trans_left rest)
    | @head a b step _ ih =>
      intro below
      obtain ⟨old, kept, -⟩ := link.1 step
      rcases Relation.ReflTransGen.cases_head below with same | ⟨c, first, rest⟩
      · exact kept (same ▸ hp)
      · obtain rfl : c = b := rightUnique_isChild s first old
        exact ih rest
  · rintro ⟨inside, outer⟩
    induction inside using Relation.TransGen.head_induction_on with
    | @single a step =>
      refine .single (link.2 ⟨step, fun mem => outer a mem .refl, fun mem => ?_⟩)
      exact linked.acyclic root (pushes root mem)
    | @head a b step _ ih =>
      have above : ∀ p ∈ ps, ¬ s.Below b p := fun p hp below => outer p hp (.head step below)
      refine .head (link.2 ⟨step, fun mem => outer a mem .refl, fun mem => ?_⟩) (ih above)
      exact above b mem .refl

/-- What was pushed stands apart from the tree when the pushes have been taken out of it. -/
theorem Pushed.standsOff (linked : WellLinked s) (collected : Collected s ps s₁)
    (pushes : ∀ p ∈ ps, s.Below p root) (rest : ∀ q ∈ qs, s₁.Below q root)
    (pushed : Pushed s ps n t) : StandsOff s₁ qs n t ∧ s₁.parent? n = none := by
  obtain ⟨⟨p, hp, child⟩, numbers, shows, clear⟩ := pushed
  have link : s.IsChild n p := (linked.linked n p).2 child
  have still : Shows s₁ [n] [t] numbers := shows.congr fun m hm => by
    refine ⟨collected.kind m, ?_⟩
    rw [collected.children_eq (clear m hm), flatMap_leave]
    exact List.filter_eq_self.2 fun c hc => decide_eq_true (clear c (shows.children_subset hm hc))
  have top : s₁.parent? n = none := by
    cases above : s₁.parent? n with
    | none => rfl
    | some a =>
      obtain ⟨old, -, kept⟩ := (collected.isChild_iff linked).1 above
      exact absurd (rightUnique_isChild s link old ▸ hp) kept
  have here : s₁.Has n := by
    rw [Has, collected.size]
    exact linked.has_of_mem child
  -- a node in the tree and below `n` would put the root above `n`, or `n` above the root
  have up : Relation.TransGen s.IsChild n root := .head' link (pushes p hp)
  refine ⟨⟨here, numbers, still, fun m hm q hq below => ?_⟩, top⟩
  obtain ⟨a, ha, part⟩ := still.below_of_mem collected.wellLinked hm
  obtain rfl : a = n := List.mem_singleton.1 ha
  have inside : s₁.Below q a := .head ((collected.wellLinked.linked q m).2 below) part
  rcases Relation.ReflTransGen.total_of_right_unique (rightUnique_isChild s₁) inside (rest q hq)
    with higher | lower
  · rcases Relation.ReflTransGen.cases_head higher with same | ⟨b, step, -⟩
    · exact linked.acyclic a (same ▸ up)
    · rw [IsChild, top] at step
      cases step
  · have old : s.Below root a :=
      Below.of_lost (fun _ _ link => ((collected.isChild_iff linked).1 link).1) lower
    exact linked.acyclic a (up.trans_left old)

/-! ### Placeholders in a forest -/

theorem mem_place (h : n ∈ made.map Prod.fst) : (n, place made n) ∈ made := by
  induction made with
  | nil => cases h
  | cons entry made ih =>
    rw [place_cons]
    by_cases same : n = entry.1
    · rw [if_pos same, same]
      exact List.mem_cons_self
    · rw [if_neg same]
      rw [List.map_cons, List.mem_cons] at h
      exact List.mem_cons_of_mem entry (ih (h.resolve_left same))

theorem Filled.has {bs : Bindings Bucket} (filled : Filled s bs qs made s') (h : s.Has n) :
    s'.Has n := by
  obtain ⟨count, size, -⟩ := filled.shows
  rw [Has, size]
  exact Nat.lt_add_right count h

theorem Filled.has_copy {bs : Bindings Bucket} (filled : Filled s bs qs made s')
    {entry : Nat × List Nat} (mem : entry ∈ made) (hn : n ∈ entry.2) : s'.Has n := by
  obtain ⟨count, size, shows⟩ := filled.shows
  have inside := shows.sublist.subset (List.mem_flatMap.2 ⟨entry, mem, hn⟩)
  rw [Has, size]
  exact (List.mem_range'_1.1 inside).2

/-- A tree that stands off the placeholders stays. -/
theorem StandsOff.filled {bs : Bindings Bucket} (h : StandsOff s qs n t) (linked : WellLinked s)
    (filled : Filled s bs qs made s') :
    ∃ numbers, Shows s' [n] [t] numbers ∧ ∀ m ∈ numbers, s.Has m := by
  obtain ⟨here, numbers, shows, off⟩ := h
  have has : ∀ m ∈ numbers, s.Has m :=
    shows.has linked fun a ha => by rwa [List.mem_singleton.1 ha]
  refine ⟨numbers, shows.congr fun m hm => ⟨filled.kind m (has m hm), ?_⟩, has⟩
  rw [filled.children m (has m hm), flatMap_place_of_disjoint]
  rw [filled.placeholders]
  exact fun c hc hq => off m hm c hq hc

/-- What is made is the forest with the placeholders filled. -/
theorem Filled.holdsForest {bs : Bindings Bucket}
    (filled : Filled s bs (s.elementsBelow root stackTag) made s') (linked : WellLinked s)
    (h : HoldsForest s root forest ids) :
    ∃ ids', HoldsForest s' root (replaceAmong (fillRule stackTag bs) forest) ids' := by
  refine h.replaceAmong linked (filled.has h.has) (fun _ _ => rfl)
    (fun m hm kept => ⟨filled.kind m hm, place_of_not_mem (filled.placeholders ▸ kept),
      filled.children m hm⟩) fun m placeholder => ?_
  exact filled.each _ (mem_place (filled.placeholders ▸ placeholder))

/-- The placeholders of a forest are replaced in the fragment that holds it. -/
theorem ends_replay {bs : Bindings LinkedBucket} {bs' : Bindings Bucket} (linked : WellLinked s)
    (h : HoldsForest s root forest ids) (named : Named stackTag "name" forest)
    (copyable : ∀ q ∈ elementsOf stackTag forest, ∀ t ∈ shown bs' q, isCopyable t = true)
    (buckets : LikeBuckets (StandsOff s (s.elementsBelow root stackTag)) bs bs') :
    ∃ made s', Ends (fill stackTag bs (s.elementsBelow root stackTag)) s made s' ∧
      Filled s bs' (s.elementsBelow root stackTag) made s' := by
  have tree {q : Nat} (hq : q ∈ s.elementsBelow root stackTag) :
      ∃ t ∈ elementsOf stackTag forest, t.attrs = (s.kind q).attrs := by
    obtain ⟨t, ht, _, related⟩ := forall₂_exists_of_mem (h.elements linked stackTag) hq
    exact ⟨t, ht, related.attrs_eq⟩
  refine ends_fill stackTag linked (h.nodup_elementsBelow linked stackTag)
    (fun q hq => h.exists_parent linked hq) (fun q hq => ?_) (fun q hq u hu => ?_) buckets
  · obtain ⟨t, ht, same⟩ := tree hq
    rw [← same]
    exact named t ht
  · obtain ⟨t, ht, same⟩ := tree hq
    rw [← same] at hu
    exact copyable t ht u hu

/-! ### Both -/

/-- What stands in the place of a node when pushed content has been moved. -/
def Moves.place (moves : Moves) (n : Nat) : List Nat :=
  if n ∈ moves.pushes then [] else Stacks.place moves.copies n

/-- All nodes of all copies, in the order of the placeholders. -/
def Moves.copied (moves : Moves) (s : Store) : List Nat :=
  moves.copies.flatMap fun entry => entry.2.flatMap s.preorder

/-- Pushed content was moved in a tree of linked nodes, with a result for the tree that is also
known by value. -/
structure MovedIn (pushTag stackTag : String) (s : Store) (root : Nat) (r : Resolution)
    (moves : Moves) (s' : Store) : Prop where
  pushes : moves.pushes = s.elementsBelow root pushTag
  /-- Every placeholder that is not in a push was replaced. -/
  placeholders : ∀ q, q ∈ moves.copies.map Prod.fst ↔
    q ∈ s.elementsBelow root stackTag ∧ ∀ p ∈ moves.pushes, ¬ s.Below q p
  wellLinked : WellLinked s'
  tree : s'.tree? root = some (.fragment r.forest)
  /-- The buckets hold detached nodes, which are the trees of the buckets known by value. -/
  buckets : LikeBuckets (fun n t => s'.tree? n = some t ∧ s'.parent? n = none) moves.buckets
    r.buckets
  /-- A placeholder gave way to copies of the content of its bucket. -/
  copies : ∀ entry ∈ moves.copies, List.Forall₂ (fun n t => s'.tree? n = some t) entry.2
    (shownFor r.buckets (s.kind entry.1).attrs)
  /-- No two copies have a node in common. -/
  apart : (moves.copied s').Nodup
  /-- No copy has a node in common with a bucket. -/
  detached : ∀ name b, moves.buckets.get? name = some b →
    (b.content.flatMap s'.preorder).Disjoint (moves.copied s')
  kind : ∀ n, s.Has n → s'.kind n = s.kind n
  /-- Between the children of a node that are neither pushes nor placeholders nothing changes. -/
  children : ∀ n, s.Has n → n ∉ moves.pushes →
    s'.children n = (s.children n).flatMap moves.place

/-- The copies have the numbers that were free. -/
theorem Filled.copied_eq {bs : Bindings Bucket} (filled : Filled s bs qs made s') :
    ∃ count, (made.flatMap fun entry => entry.2.flatMap s'.preorder) =
      List.range' s.cells.size count := by
  obtain ⟨count, size, shows⟩ := filled.shows
  refine ⟨count, ?_⟩
  rw [← List.flatMap_assoc]
  refine shows.flatMap_preorderWithin ?_
  rw [List.length_range']
  omega

theorem movedIn {r : Resolution} {bs : Bindings LinkedBucket} (collected : Collected s ps s₁)
    (filled : Filled s₁ r.buckets qs made s')
    (links : ∀ q ∈ qs, ∃ p, s₁.parent? q = some p) (pushes : ps = s.elementsBelow root pushTag)
    (placeholders : ∀ q, q ∈ qs ↔ q ∈ s.elementsBelow root stackTag ∧ ∀ p ∈ ps, ¬ s.Below q p)
    (resting : LikeBuckets (fun n t => StandsOff s₁ qs n t ∧ s₁.parent? n = none) bs r.buckets)
    (tree : s'.tree? root = some (.fragment r.forest)) :
    MovedIn pushTag stackTag s root r ⟨ps, bs, made⟩ s' := by
  have grown {n : Nat} (hn : s.Has n) : s₁.Has n := by
    rw [Has, collected.size]
    exact hn
  obtain ⟨count, copied⟩ := filled.copied_eq
  refine ⟨pushes, filled.placeholders ▸ placeholders, filled.wellLinked, tree,
    resting.imp fun n t rests => ?_, fun entry mem => ?_, ?_, fun name b hb => ?_,
    fun n hn => ?_, fun n hn kept => ?_⟩
  · obtain ⟨off, top⟩ := rests
    obtain ⟨numbers, shows, -⟩ := off.filled collected.wellLinked filled
    have other : n ∉ qs := fun hq => by
      obtain ⟨p, link⟩ := links n hq
      simp [top] at link
    refine ⟨shows.tree? filled.wellLinked (filled.has off.1), ?_⟩
    rw [filled.parent? n off.1 other, top]
  · obtain ⟨numbers, shows⟩ := filled.each entry mem
    rw [collected.kind] at shows
    refine forall₂_imp_of_mem shows.roots fun n hn t _ copy => ?_
    obtain ⟨inner, _, alone⟩ := copy
    exact alone.tree? filled.wellLinked (filled.has_copy mem hn)
  · rw [Moves.copied, copied]
    exact List.nodup_range' 1
  · have content := resting.content name
    rw [hb] at content
    intro m hm hm'
    obtain ⟨n, hn, hm⟩ := List.mem_flatMap.1 hm
    obtain ⟨t, -, off, -⟩ := forall₂_exists_of_mem content hn
    obtain ⟨numbers, shows, has⟩ := off.filled collected.wellLinked filled
    rw [shows.preorder filled.wellLinked (filled.has off.1)] at hm
    rw [Moves.copied, copied, List.mem_range'_1] at hm'
    exact absurd (has m hm) (Nat.not_lt.2 hm'.1)
  · rw [filled.kind n (grown hn), collected.kind]
  · rw [filled.children n (grown hn), collected.children_eq kept, List.flatMap_assoc]
    refine List.flatMap_congr fun m _ => ?_
    rw [leave, Moves.place]
    split_ifs with push
    · rfl
    · exact List.flatMap_singleton ..

/-- Moving pushed content in a fragment that holds a forest gives what moving it by value gives,
with new nodes for every placeholder. -/
theorem ends_resolveAt (flat : FlatPushes pushTag forest)
    (ok : (resolve pushTag stackTag forest).problem? = none) (linked : WellLinked s)
    (bare : s.LeavesBare) (read : s.tree? root = some (.fragment forest))
    (copyable : ∀ q ∈ elementsOf stackTag (collect pushTag forest).1,
      ∀ t ∈ shown (resolve pushTag stackTag forest).buckets q, isCopyable t = true) :
    ∃ moves s', Ends (resolveAt pushTag stackTag root) s moves s' ∧
      MovedIn pushTag stackTag s root (resolve pushTag stackTag forest) moves s' := by
  obtain ⟨ids, h⟩ := exists_holdsForest bare read
  obtain ⟨found, replayed, -⟩ := resolve_ok ok
  obtain ⟨bs, s₁, collect_run, collected, pushed⟩ := ends_collect linked h flat
    (named_of_collectAmong forest {} found)
  obtain ⟨ids₁, h₁⟩ := collected.holdsForest linked h
  have linked₁ := collected.wellLinked
  have pushes : ∀ p ∈ s.elementsBelow root pushTag, Relation.TransGen s.IsChild p root :=
    fun p hp => ((h.mem_elementsBelow_iff linked).1 hp).1
  have resting : LikeBuckets (fun n t => StandsOff s₁ (s₁.elementsBelow root stackTag) n t ∧
      s₁.parent? n = none) bs (pushAll [] (elementsOf pushTag forest)) :=
    pushed.imp fun n t pushed => pushed.standsOff linked collected
      (fun p hp => (pushes p hp).to_reflTransGen)
      fun q hq => ((h₁.mem_elementsBelow_iff linked₁).1 hq).1.to_reflTransGen
  rw [buckets_resolve flat ok] at copyable
  rw [collect_eq flat ok] at copyable replayed
  obtain ⟨made, s', fill_run, filled⟩ := ends_replay linked₁ h₁ (named_of_replayAmong _ replayed)
    copyable (resting.imp fun n t h => h.1)
  obtain ⟨ids', h'⟩ := filled.holdsForest linked₁ h₁
  refine ⟨⟨s.elementsBelow root pushTag, bs, made⟩, s', ?_, ?_⟩
  · refine ends_get_bind_iff.2 (ends_bind_iff.2 ⟨bs, s₁, collect_run, ?_⟩)
    exact ends_get_bind_iff.2 (ends_bind_iff.2 ⟨made, s', fill_run, ends_pure_iff.2 ⟨rfl, rfl⟩⟩)
  · rw [← buckets_resolve flat ok] at filled resting
    refine movedIn collected filled (fun q hq => h₁.exists_parent linked₁ hq) rfl
      (fun q => ?_) resting ?_
    · rw [h₁.mem_elementsBelow_iff linked₁, h.mem_elementsBelow_iff linked, collected.kind,
        collected.transGen_iff linked pushes, and_right_comm]
    · rw [h'.tree? filled.wellLinked, forest_resolve flat ok, ← dropRule_andThen_fillRule,
        ← replaceAmong_replaceAmong]

/-- The bucket of a stack holds what was pushed to it, whatever was pushed to others. -/
theorem get?_buckets_resolve (flat : FlatPushes pushTag forest)
    (ok : (resolve pushTag stackTag forest).problem? = none) (name : String) :
    (resolve pushTag stackTag forest).buckets.get? name =
      if pushesTo pushTag name forest = [] then none
      else some (({} : Bucket).addAll ((pushesTo pushTag name forest).flatMap Node.children)) := by
  have named := named_of_collectAmong forest {} (resolve_ok ok).1
  have same : (elementsOf pushTag forest).filter (stackOf · == name) =
      pushesTo pushTag name forest :=
    List.filter_congr fun p hp => by
      obtain ⟨stack, hstack⟩ := named p hp
      simp [stackOf, hstack]
  rw [buckets_resolve flat ok, get?_pushAll, same]
  rfl

/-- Pushed content is moved to the placeholders, for a forest in which no push is in a push:

* The bucket of a stack holds the content of the pushes to it in document order, without the
  elements whose id an earlier one has, and the ids of what it holds, each once.
* Pushes become nothing, placeholders the content of their buckets, and all else stays.
* In a store that holds the forest as a fragment the same comes about in place, when what is shown
  can be copied. -/
theorem resolve_moves (flat : FlatPushes pushTag forest)
    (ok : (resolve pushTag stackTag forest).problem? = none) :
    let r := resolve pushTag stackTag forest
    (∀ name, r.buckets.get? name =
      let pushed := (pushesTo pushTag name forest).flatMap Node.children
      if pushesTo pushTag name forest = [] then none
      else some ⟨keepFirst pushed, idsOf (keepFirst pushed)⟩) ∧
    (∀ name b, r.buckets.get? name = some b → b.ids = idsOf b.content ∧ b.ids.Nodup) ∧
    r.forest = replaceAmong (moveRule pushTag stackTag r.buckets) forest ∧
    ∀ s root, WellLinked s → s.LeavesBare → s.tree? root = some (.fragment forest) →
      (∀ q ∈ elementsOf stackTag (collect pushTag forest).1,
        ∀ t ∈ shown r.buckets q, isCopyable t = true) →
      ∃ moves s', Ends (resolveAt pushTag stackTag root) s moves s' ∧
        MovedIn pushTag stackTag s root r moves s' := by
  intro r
  have held (name : String) : r.buckets.get? name =
      let pushed := (pushesTo pushTag name forest).flatMap Node.children
      if pushesTo pushTag name forest = [] then none
      else some ⟨keepFirst pushed, idsOf (keepFirst pushed)⟩ := by
    rw [get?_buckets_resolve flat ok, Bucket.addAll_empty]
  refine ⟨held, fun name b hb => ?_, ?_, fun s root linked bare read copyable =>
    ends_resolveAt flat ok linked bare read copyable⟩
  · rw [held] at hb
    dsimp only at hb
    split_ifs at hb
    obtain rfl := Option.some.inj hb
    exact ⟨rfl, nodup_idsOf_keepFirst _⟩
  · rw [forest_resolve flat ok, buckets_resolve flat ok]

/-- Two pushes to one stack, one of them in a placeholder, with an id that they share, and two
stacks that are shown. -/
def sharedStack : List Node :=
  [.element "stack" [("name", "a")] [.element "push" [("stack", "a")]
      [.text "x", .element "b" [("id", "1")] []]],
    .element "p" [] [.element "push" [("stack", "a")] [.element "i" [("id", "1")] [], .text "y"],
      .text "z"],
    .element "stack" [("name", "c")] [], .element "stack" [("name", "a")] []]

theorem resolve_moves_sharedStack :
    FlatPushes "push" sharedStack ∧ (resolve "push" "stack" sharedStack).problem? = none ∧
      (resolve "push" "stack" sharedStack).forest =
        [.text "x", .element "b" [("id", "1")] [], .text "y", .element "p" [] [.text "z"],
          .text "x", .element "b" [("id", "1")] [], .text "y"] ∧
      ∃ moves s', Ends (resolveAt "push" "stack" 0) (({} : Store).load (.fragment sharedStack)).2
          moves s' ∧
        s'.tree? 0 = some (.fragment (resolve "push" "stack" sharedStack).forest) ∧
          (moves.copied s').Nodup := by
  have flat : FlatPushes "push" sharedStack := by
    unfold FlatPushes
    decide +kernel
  have ok : (resolve "push" "stack" sharedStack).problem? = none := rfl
  obtain ⟨-, -, -, inPlace⟩ := resolve_moves flat ok
  obtain ⟨moves, s', run, moved⟩ := inPlace (({} : Store).load (.fragment sharedStack)).2 0
    (loaded_load wellLinked_empty _).wellLinked (by decide +kernel) (by decide +kernel)
    (by decide +kernel)
  exact ⟨flat, ok, by decide +kernel, moves, s', run, moved.tree, moved.apart⟩

end HtmlTemplate.Stacks
