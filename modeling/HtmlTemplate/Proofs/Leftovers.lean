import HtmlTemplate.Proofs.SeenNodes
import HtmlTemplate.Proofs.Steady

/-!
# Constructs that are left over

Expansion replaces every construct that it comes to. The only way for the tag of a construct to get
into the result is as the value of an expression: `leavesNamed_expand` says so of every run. The
proof goes along the expander once more, with the sources that each part hands the evaluator.
-/

namespace HtmlTemplate.Expand

open HtmlTemplate.Markup HtmlTemplate.Component Expansion

/-! ### Tags that expansion comes to -/

/-- The tags of all elements that expansion comes to have a property. -/
def Tags (P : String → Prop) (forest : List Node) : Prop :=
  ∀ n ∈ seenAmong forest, ∀ tag, n.tag? = some tag → P tag

section Tags

variable {P Q : String → Prop}

theorem shallow_tag (P : String → Prop) : Shallow fun n => ∀ tag, n.tag? = some tag → P tag :=
  ⟨fun h _ => h, fun h _ => h⟩

theorem tags_nil : Tags P [] := seen_nil

theorem tags_append_iff {ms ns : List Node} : Tags P (ms ++ ns) ↔ Tags P ms ∧ Tags P ns :=
  seen_append_iff

theorem tags_element_iff {tag : String} {attrs : Attrs} {cs : List Node} :
    Tags P [.element tag attrs cs] ↔ P tag ∧ Tags P cs := by
  simp [Tags, seenAmong, seenIn, Node.tag?]

theorem Tags.of_mem {n : Node} {ns : List Node} (h : Tags P ns) (hn : n ∈ ns) : Tags P [n] :=
  Seen.of_mem h hn

/-- Expansion comes to no tags in a node that is no element. -/
theorem tags_leaf {n : Node} (leaf : n.tag? = none) : Tags P [n] :=
  (seen_leaf_iff leaf).2 (by simp [leaf])

theorem Tags.mono {ns : List Node} (h : Tags P ns) (hPQ : ∀ tag, P tag → Q tag) : Tags Q ns :=
  fun n hn tag htag => hPQ tag (h n hn tag htag)

theorem tags_gaps {ns : List Node} (h : ∀ n ∈ ns, isGap n = true) : Tags P ns :=
  seen_of_forall_mem fun n hn => tags_leaf <| by
    have gap := h n hn
    cases n <;> first | rfl | cases gap

theorem tags_distribute (marker : String) (merging : MergeRegistry) (given : Attrs)
    {ns : List Node} (h : Tags P ns) : Tags P (distribute marker merging given ns) :=
  seen_distribute (shallow_tag P) (fun _ _ _ h => h) (fun _ _ _ _ h => h) h

end Tags

/-! ### Tags and values -/

/-- Whether expansion replaces an element with the tag. -/
def isConstruct (o : Options) (tag : String) : Bool :=
  tag == "if" || tag == "elseif" || tag == "else" || tag == "switch" || tag == "for" ||
    tag == o.dynamicTag || isUse o tag

variable {V W : Type}

/-- The value of one of some expressions, in some scope, is the given text. -/
def Evaluator.Names (ev : Evaluator V W) (sources : List String) (s : String) : Prop :=
  ∃ source ∈ sources, ∃ scope w v w', Ends (ev.evaluate source scope) w v w' ∧ ev.kind v = .text s

theorem Evaluator.Names.mono {ev : Evaluator V W} {sources sources' : List String} {s : String}
    (h : ev.Names sources s) (sub : ∀ source ∈ sources, source ∈ sources') :
    ev.Names sources' s := by
  obtain ⟨source, hsource, value⟩ := h
  exact ⟨source, sub source hsource, value⟩

/-- Expressions name all constructs that expansion comes to in a forest. -/
def OnlyNamed (setting : Setting V W) (sources : List String) (forest : List Node) : Prop :=
  Tags (fun tag => isConstruct setting.options tag = true → setting.evaluator.Names sources tag)
    forest

section OnlyNamed

variable {setting : Setting V W} {first second : List String} {ms ns : List Node}

theorem OnlyNamed.left (h : OnlyNamed setting first ns) :
    OnlyNamed setting (first ++ second) ns :=
  Tags.mono h fun _ named construct =>
    (named construct).mono fun _ hsource => List.mem_append_left second hsource

theorem OnlyNamed.right (h : OnlyNamed setting second ns) :
    OnlyNamed setting (first ++ second) ns :=
  Tags.mono h fun _ named construct =>
    (named construct).mono fun _ hsource => List.mem_append_right first hsource

theorem OnlyNamed.append (hms : OnlyNamed setting first ms) (hns : OnlyNamed setting second ns) :
    OnlyNamed setting (first ++ second) (ms ++ ns) :=
  tags_append_iff.2 ⟨hms.left, hns.right⟩

end OnlyNamed

/-! ### Runs and the sources they hand the evaluator -/

section Leaves

variable {calls : W → List String} {α β : Type}

/-- When an expansion ends, its result and the sources that it has handed the evaluator have a
property. -/
def Leaves (calls : W → List String) (P : List String → α → Prop) (x : Expansion W α) : Prop :=
  ∀ s a t, Ends x s a t → ∃ told, calls t.world = calls s.world ++ told ∧ P told a

theorem leaves_of_stable {x : Expansion W α} (hx : Stable calls x) :
    Leaves calls (fun _ _ => True) x := by
  intro s a t run
  obtain ⟨_, told, -, adds, -⟩ := hx s s a t rfl run
  exact ⟨told, adds.2, trivial⟩

theorem leaves_of_not_ends {P : List String → α → Prop} {x : Expansion W α}
    (h : ∀ s a t, ¬ Ends x s a t) : Leaves calls P x :=
  fun s a t run => absurd run (h s a t)

theorem leaves_pure {P : List String → α → Prop} {a : α} (h : P [] a) :
    Leaves calls P (pure a) := by
  intro s b t run
  obtain ⟨rfl, rfl⟩ := ends_pure_iff.1 run
  exact ⟨[], (List.append_nil _).symm, h⟩

theorem leaves_bind {P : List String → α → Prop} {Q : List String → β → Prop}
    {x : Expansion W α} {f : α → Expansion W β} (hx : Leaves calls P x)
    (hf : ∀ a told, P told a → Leaves calls (fun told' b => Q (told ++ told') b) (f a)) :
    Leaves calls Q (x >>= f) := by
  intro s b t run
  obtain ⟨a, s₁, hxs, hfs⟩ := ends_bind_iff.1 run
  obtain ⟨told, grown, ha⟩ := hx s a s₁ hxs
  obtain ⟨told', grown', hb⟩ := hf a told ha s₁ b t hfs
  exact ⟨told ++ told', by rw [grown', grown, List.append_assoc], hb⟩

theorem Leaves.mono {P Q : List String → α → Prop} {x : Expansion W α} (h : Leaves calls P x)
    (hPQ : ∀ told a, P told a → Q told a) : Leaves calls Q x := by
  intro s a t run
  obtain ⟨told, grown, ha⟩ := h s a t run
  exact ⟨told, grown, hPQ told a ha⟩

theorem leaves_within {P : List String → α → Prop} {x : Expansion W α} (h : Leaves calls P x)
    (f : List Node → List Node) : Leaves calls P (within f x) := by
  intro s a t run
  obtain ⟨s₁, hs, rfl⟩ := ends_within_iff.1 run
  exact h { s with notes := [] } a s₁ hs

theorem leaves_whole {P : List String → α → Prop} {x : Expansion W α} (h : Leaves calls P x) :
    Leaves calls P (whole x) := by
  intro s a t run
  obtain ⟨s₁, hs, rfl⟩ := ends_whole_iff.1 run
  exact h { s with notes := [] } a s₁ hs

theorem leaves_apart {P : List String → α → Prop} {x : Expansion W α} (h : Leaves calls P x)
    (left : W → List Node) : Leaves calls P (apart left x) :=
  fun s a t run => leaves_whole h s a t (ends_apart_iff.1 run)

end Leaves

/-- Expressions that are evaluated on the way name all constructs in the result. -/
abbrev LeavesNamed (setting : Setting V W) (calls : W → List String)
    (x : Expansion W (List Node)) : Prop :=
  Leaves calls (OnlyNamed setting) x

section Constructs

variable {setting : Setting V W} {calls : W → List String}

theorem leavesNamed_after {α : Type} {x : Expansion W α} {f : α → Expansion W (List Node)}
    (hx : Stable calls x) (hf : ∀ a, LeavesNamed setting calls (f a)) :
    LeavesNamed setting calls (x >>= f) :=
  leaves_bind (leaves_of_stable hx) fun a _ _ => (hf a).mono fun _ _ h => h.right

/-- Adding nodes that are no elements adds no constructs. -/
theorem leavesNamed_between {x : Expansion W (List Node)} {before after : List Node}
    (hx : LeavesNamed setting calls x) (hbefore : ∀ n ∈ before, isGap n = true)
    (hafter : ∀ n ∈ after, isGap n = true) :
    LeavesNamed setting calls (x >>= fun body => pure (before ++ body ++ after)) := by
  refine leaves_bind hx fun body told hbody => leaves_pure ?_
  rw [List.append_nil]
  exact tags_append_iff.2 ⟨tags_append_iff.2 ⟨tags_gaps hbefore, hbody⟩, tags_gaps hafter⟩

variable (hev : setting.evaluator.Pure calls)
include hev

theorem leavesNamed_expandText (place : Place V) (data : String) :
    LeavesNamed setting calls (expandText setting place data) :=
  have values := (stable_compositional hev).pieceTexts place.scope _
  leavesNamed_after (stable_compute values place _) fun _ => leaves_pure (tags_leaf rfl)

omit hev in
theorem leavesNamed_expandDynamic (hrec : setting.evaluator.Records calls) (place : Place V)
    (tag : String) (attrs : Attrs) (children : List Node) {inside : Expansion W (List Node)}
    (hinside : LeavesNamed setting calls inside) :
    LeavesNamed setting calls (expandDynamic setting place tag attrs children inside) := by
  unfold expandDynamic
  split
  · exact leaves_of_not_ends fun _ _ _ => not_ends_refuse
  · rename_i source _
    have value : Leaves calls (fun told v => ∀ name, setting.evaluator.kind v = .text name →
        setting.evaluator.Names told name)
        (compute place [Node.element tag attrs children]
          (setting.evaluator.evaluate source place.scope)) := by
      intro s v t run
      obtain ⟨w, hw, rfl⟩ := ends_compute_iff.1 run
      exact ⟨[source], hrec source place.scope s.world v w hw, fun name hname =>
        ⟨source, List.mem_cons_self, place.scope, s.world, v, w, hw, hname⟩⟩
    refine leaves_bind value fun v told hv => leaves_bind (leaves_within hinside _)
      fun cs told' hcs => ?_
    dsimp only
    split
    · exact leaves_pure (hcs.left.right)
    · rename_i name hkind
      split
      · exact leaves_of_not_ends (not_ends_bind fun _ _ _ _ => not_ends_refuse)
      · refine leaves_pure (tags_element_iff.2 ⟨fun _ => ?_, hcs.left.right⟩)
        exact (hv name hkind).mono fun _ hsource => List.mem_append_left _ hsource
    · exact leaves_of_not_ends (not_ends_bind fun _ _ _ _ => not_ends_refuse)

theorem leavesNamed_expandChain (place : Place V) {first : Expandable V W}
    {links : List (Link V W)} (hgaps : ∀ l ∈ links, ∀ n ∈ l.gap, isGap n = true)
    (hinside : ∀ e ∈ first :: links.map Link.branch,
      LeavesNamed setting calls (e.inside (place.inner []))) :
    LeavesNamed setting calls (expandChain setting place first links) := by
  have gaps (some : List (Link V W)) (sub : ∀ l ∈ some, l ∈ links) :
      ∀ n ∈ (some.map Link.gap).flatten, isGap n = true := by
    intro n hn
    obtain ⟨gap, hgap, hn⟩ := List.mem_flatten.1 hn
    obtain ⟨l, hl, rfl⟩ := List.mem_map.1 hgap
    exact hgaps l (sub l hl) n hn
  unfold expandChain
  dsimp only
  split
  · exact leaves_of_not_ends fun _ _ _ => not_ends_refuse
  · have choice := (stable_compositional hev).chosenBranch? place.scope
      ((first :: links.map Link.branch).map Expandable.node) 0
    refine leavesNamed_after (stable_compute choice place _) fun chosen? => ?_
    split
    · exact leaves_pure (tags_gaps (gaps _ fun _ hl => List.mem_of_mem_drop hl))
    · rename_i k chosen found
      exact leavesNamed_between (leaves_within (hinside chosen (mem_of_chosen found)) _)
        (gaps _ fun _ hl => List.mem_of_mem_take hl) (gaps _ fun _ hl => List.mem_of_mem_drop hl)

theorem leavesNamed_expandSwitch (place : Place V) (tag : String) (attrs : Attrs)
    (children : List Node) {insideChild : Nat → Place V → Expansion W (List Node)}
    (hinside : ∀ k, LeavesNamed setting calls (insideChild k place)) :
    LeavesNamed setting calls (expandSwitch setting place tag attrs children insideChild) := by
  unfold expandSwitch
  dsimp only
  split
  · exact leaves_of_not_ends fun _ _ _ => not_ends_refuse
  · rename_i source _
    have compare := steady_bind (hev.settled source place.scope) fun value =>
      (stable_compositional hev).equalCase? place.scope value children 0
    refine leavesNamed_after (stable_compute compare place _) fun equal? => ?_
    split
    · exact leaves_pure tags_nil
    · exact leaves_within (hinside _) _

theorem leavesNamed_expandRounds (place : Place V) (loop : Node) (items : V) (name : String)
    {inside : Place V → Expansion W (List Node)}
    (hinside : ∀ v, LeavesNamed setting calls (inside (place.inner [(name, v)]))) (fuel : Nat) :
    ∀ position, LeavesNamed setting calls
      (expandRounds setting place loop items name inside fuel position) := by
  induction fuel with
  | zero => exact fun position => leaves_of_not_ends fun _ _ _ => not_ends_stop
  | succ fuel ih =>
    intro position
    rw [expandRounds]
    refine leavesNamed_after (stable_compute (hev.member items position) place _) fun v? => ?_
    split
    · exact leaves_pure tags_nil
    · split
      · refine leaves_bind (leaves_apart (hinside _) _) fun body told hbody => ?_
        refine leaves_bind (ih (position + 1)) fun more told' hmore => leaves_pure ?_
        rw [List.append_nil]
        exact hbody.append hmore
      · exact leaves_of_not_ends fun _ _ _ => not_ends_stop

theorem leavesNamed_expandLoop (place : Place V) (tag : String) (attrs : Attrs)
    (children : List Node) {inside : Place V → Expansion W (List Node)}
    (hinside : ∀ bindings, LeavesNamed setting calls (inside (place.inner bindings))) :
    LeavesNamed setting calls (expandLoop setting place tag attrs children inside) := by
  unfold expandLoop
  dsimp only
  split
  · split
    · exact leaves_of_not_ends fun _ _ _ => not_ends_refuse
    · refine leavesNamed_after (stable_compute (hev.settled _ place.scope) place _) fun items => ?_
      refine leavesNamed_after (stable_observe fun w w' => hev.length items w w') fun length? => ?_
      split
      · exact leavesNamed_expandRounds hev place _ items _ (fun v => hinside _) _ 0
      · exact leaves_of_not_ends (not_ends_bind fun _ _ _ _ => not_ends_stop)
  · exact leaves_of_not_ends fun _ _ _ => not_ends_refuse

/-! ### Uses of components -/

section Depth

variable (hrec : setting.evaluator.Records calls) {deeper : ForestExpansion V W} {depth : Nat}
  (hdeeper : ∀ (place : Place V) (forest : List Node), place.stack.length = depth + 1 →
    depth + 1 ≤ setting.limit.value.toNat → LeavesNamed setting calls (deeper place forest))

include hdeeper in
theorem leavesNamed_expandSource (place : Place V) (hplace : place.stack.length = depth)
    (hlimit : depth + 1 ≤ setting.limit.value.toNat) (u : Use) (source : String) :
    Leaves calls (fun told found => OnlyNamed setting told found.1)
      (expandSource setting deeper place u source) := by
  rintro s ⟨tree, left⟩ t run
  obtain ⟨forest, scope, w, core, s₁, hparse, hscripts, hcore, rfl, rfl⟩ :=
    ends_expandSource_iff.1 run
  obtain ⟨_, told, -, adds, -⟩ := hev.scripts _ _ _ s.world s.world _ w rfl hscripts
  have hstack : (place.stack ++ [u.name]).length = depth + 1 := by simp [hplace]
  obtain ⟨told', grown, hcore⟩ := hdeeper _ _ hstack hlimit _ core s₁ hcore
  refine ⟨told ++ told', ?_, tags_distribute _ _ _ hcore.right⟩
  exact (grown.trans (congrArg (· ++ told') adds.2)).trans (List.append_assoc _ _ _)

include hdeeper in
theorem leavesNamed_expandUse (place : Place V) (hplace : place.stack.length = depth) (u : Use)
    {inside : Expansion W (List Node)} (hinside : LeavesNamed setting calls inside) :
    LeavesNamed setting calls (expandUse setting deeper place u inside) := by
  unfold expandUse
  dsimp only
  split
  · exact leaves_of_not_ends fun _ _ _ => not_ends_stop
  · rename_i ok
    have hlimit := length_of_checkDepth ok
    rw [hplace] at hlimit
    refine leavesNamed_after (stable_findSource place u) fun source => ?_
    refine leaves_bind (leavesNamed_expandSource hev hdeeper place hplace hlimit u source)
      fun ⟨tree, attrs⟩ told htree => ?_
    refine leaves_bind (leaves_within hinside _) fun nodes told' hnodes => ?_
    split
    · exact leaves_of_not_ends fun _ _ _ => not_ends_refuse
    · rename_i content hcontent
      split
      · rename_i projected hprojected
        refine leaves_pure (seen_project (shallow_tag _) hprojected htree.left
          (contentSeen_ofNodes? hcontent hnodes.left.right))
      · exact leaves_of_not_ends fun _ _ _ => not_ends_stop
      · exact leaves_of_not_ends fun _ _ _ => not_ends_stop

/-! ### Nodes -/

/-- The expansion of what is inside a node leaves no constructs but those that are named, where
components nest so deep. -/
def Expandable.LeavesNamed (setting : Setting V W) (calls : W → List String) (depth : Nat)
    (e : Expandable V W) : Prop :=
  (∀ place, place.stack.length = depth → Expand.LeavesNamed setting calls (e.inside place)) ∧
    ∀ k place, place.stack.length = depth → Expand.LeavesNamed setting calls (e.insideChild k place)

include hrec hdeeper in
theorem leavesNamed_expandElement (place : Place V) (hplace : place.stack.length = depth)
    (tag : String) (attrs : Attrs) (children : List Node) {e : Expandable V W}
    (hif : tag ≠ "if") (he : e.LeavesNamed setting calls depth) :
    LeavesNamed setting calls (expandElement setting deeper place tag attrs children e) := by
  unfold expandElement
  dsimp only
  split
  · exact leaves_of_not_ends fun _ _ _ => not_ends_refuse
  rename_i hbranch
  split
  · exact leavesNamed_expandSwitch hev place tag attrs children fun k => he.2 k place hplace
  rename_i hswitch
  split
  · exact leavesNamed_expandLoop hev place tag attrs children fun bindings =>
      he.1 (place.inner bindings) hplace
  rename_i hfor
  split
  · exact leavesNamed_expandDynamic hrec place tag attrs children (he.1 place hplace)
  rename_i hdynamic
  split
  · split
    · exact leavesNamed_expandUse hev hdeeper place hplace _ (he.1 place hplace)
    · exact leaves_of_not_ends fun _ _ _ => not_ends_refuse
  rename_i huse
  have plain : isConstruct setting.options tag = false := by
    simp only [isConstruct, Bool.or_eq_false_iff]
    simp only [Bool.or_eq_true, not_or] at hbranch
    refine ⟨⟨⟨⟨⟨⟨?_, ?_⟩, ?_⟩, ?_⟩, ?_⟩, ?_⟩, ?_⟩ <;> simp_all
  refine leaves_bind (leaves_within (he.1 place hplace) _) fun cs told hcs => leaves_pure ?_
  rw [List.append_nil]
  exact tags_element_iff.2 ⟨fun construct => by simp [plain] at construct, hcs⟩

include hrec hdeeper in
theorem leavesNamed_expandNode (place : Place V) (hplace : place.stack.length = depth)
    {e : Expandable V W} (hif : e.node.hasTag "if" = false)
    (he : e.LeavesNamed setting calls depth) :
    LeavesNamed setting calls (expandNode setting deeper place e) := by
  unfold expandNode
  cases hnode : e.node with
  | text data => exact leavesNamed_expandText hev place data
  | element tag attrs children =>
    have htag : tag ≠ "if" := by simpa [hnode, Node.hasTag, Node.tag?] using hif
    exact leavesNamed_after ((stable_compositional hev).evaluateAttrs _ _ _ attrs) fun attrs =>
      leavesNamed_expandElement hev hrec hdeeper (place.inner []) hplace tag attrs children htag he
  | _ => exact leaves_pure (tags_leaf rfl)

/-! ### Rows -/

include hrec hdeeper in
theorem leavesNamed_expandItem (place : Place V) (hplace : place.stack.length = depth)
    {item : RowItem V W} (formed : item.WellFormed)
    (hitem : ∀ e ∈ item.parts, e.LeavesNamed setting calls depth) :
    LeavesNamed setting calls (expandItem setting deeper place item) := by
  cases item with
  | single e =>
    exact leavesNamed_expandNode hev hrec hdeeper place hplace formed (hitem e List.mem_cons_self)
  | chain first links =>
    rw [expandItem]
    cases hnode : first.node with
    | element tag attrs children =>
      have evaluated := (stable_compositional hev).evaluateAttrs (place.inner [])
        (fun attrs => .element tag attrs children :: linkNodes links) attrs.names attrs
      refine leavesNamed_after evaluated fun attrs => ?_
      refine leavesNamed_expandChain hev _ formed.2 fun e he => ?_
      rcases List.mem_cons.1 he with rfl | he
      · exact (hitem first List.mem_cons_self).1 _ hplace
      · exact (hitem e (List.mem_cons_of_mem first he)).1 _ hplace
    | _ =>
      have isIf := formed.1
      simp [hnode, Node.hasTag, Node.tag?] at isIf

end Depth

end Constructs

section Rows

variable {setting : Setting V W} {calls : W → List String}

theorem leavesNamed_expandItems (o : Options) {item : RowItem V W → Expansion W (List Node)}
    (row : List (RowItem V W)) (hitem : ∀ i ∈ row, LeavesNamed setting calls (item i)) :
    LeavesNamed setting calls (expandItems o item row) := by
  induction row with
  | nil => exact leaves_pure tags_nil
  | cons i row ih =>
    rw [expandItems]
    have first : LeavesNamed setting calls (do
        let placed ← item i
        noteStep o placed
        return placed) := by
      refine leaves_bind (hitem i List.mem_cons_self) fun placed told hplaced => ?_
      refine leaves_bind (leaves_of_stable (stable_noteStep o placed)) fun _ told' _ =>
        leaves_pure ?_
      exact hplaced.left
    refine leaves_bind (leaves_within first _) fun placed told hplaced => ?_
    refine leaves_bind (leaves_within (ih fun j hj => hitem j (List.mem_cons_of_mem i hj)) _)
      fun more told' hmore => leaves_pure ?_
    rw [List.append_nil]
    exact hplaced.append hmore

theorem leavesNamed_expandRow (hev : setting.evaluator.Pure calls)
    (hrec : setting.evaluator.Records calls) {deeper : ForestExpansion V W} {depth : Nat}
    (hdeeper : ∀ (place : Place V) (forest : List Node), place.stack.length = depth + 1 →
      depth + 1 ≤ setting.limit.value.toNat → LeavesNamed setting calls (deeper place forest))
    (place : Place V) (hplace : place.stack.length = depth) {es : List (Expandable V W)}
    (hes : ∀ e ∈ es, e.LeavesNamed setting calls depth) :
    LeavesNamed setting calls (expandRow setting deeper place es) :=
  leavesNamed_expandItems setting.options (rowOf es) fun i hi =>
    leavesNamed_expandItem hev hrec hdeeper place hplace (wellFormed_rowOf es i hi)
      fun e he => hes e (parts_rowOf es i hi e he)

/-! ### Trees -/

section Trees

variable {row : Place V → List (Expandable V W) → Expansion W (List Node)} {depth : Nat}

theorem leavesNamed_expandables
    (hrow : ∀ place es, place.stack.length = depth →
      (∀ e ∈ es, e.LeavesNamed setting calls depth) → LeavesNamed setting calls (row place es))
    (ns : List Node) : ∀ e ∈ expandables row ns, e.LeavesNamed setting calls depth := by
  refine expandables_induct
    (fun n _ => ⟨fun _ _ => leaves_pure tags_nil, fun _ _ _ => leaves_pure tags_nil⟩)
    (fun tag attrs children hchildren => ?_) ns
  refine ⟨fun place hplace => hrow place _ hplace hchildren, fun k place hplace => ?_⟩
  dsimp only [expandable]
  split
  · rename_i e he
    exact (hchildren e (List.mem_of_getElem? he)).1 place hplace
  · exact leaves_pure tags_nil

end Trees

/-- The levels that are left always suffice for the components that may still nest: the bare forest
of level zero is never reached. -/
theorem leavesNamed_expandLevels (hev : setting.evaluator.Pure calls)
    (hrec : setting.evaluator.Records calls) (levels : Nat) :
    ∀ (place : Place V) (forest : List Node),
      place.stack.length + levels = setting.limit.value.toNat + 1 →
      place.stack.length ≤ setting.limit.value.toNat →
        LeavesNamed setting calls (expandLevels setting levels place forest) := by
  induction levels with
  | zero =>
    intro place forest hsum hle
    omega
  | succ levels ih =>
    intro place forest hsum hle
    have hdeeper (place' : Place V) (forest : List Node)
        (hplace : place'.stack.length = place.stack.length + 1)
        (hlimit : place.stack.length + 1 ≤ setting.limit.value.toNat) :
        LeavesNamed setting calls (expandLevels setting levels place' forest) :=
      ih place' forest (by omega) (by omega)
    exact leavesNamed_expandRow hev hrec hdeeper place rfl
      (leavesNamed_expandables (fun place' es hplace hes =>
        leavesNamed_expandRow hev hrec hdeeper place' hplace hes) forest)

/-- Expansion leaves no construct but those that the value of an expression names which it has
handed the evaluator on the way. -/
theorem leavesNamed_expand (hev : setting.evaluator.Pure calls)
    (hrec : setting.evaluator.Records calls) (scope : Scope V) (forest : List Node) :
    LeavesNamed setting calls (expand setting scope forest) :=
  leaves_whole (leavesNamed_expandLevels hev hrec _ { scope := scope } forest (Nat.zero_add _)
    (Nat.zero_le _))

end Rows

end HtmlTemplate.Expand
