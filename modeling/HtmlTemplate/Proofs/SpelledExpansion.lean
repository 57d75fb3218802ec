import HtmlTemplate.Proofs.Compositional
import HtmlTemplate.Proofs.Spelling
import HtmlTemplate.Proofs.Uses

/-!
# Expansion keeps nodes spelled

Values of expressions come into texts, into values of attributes and into tags, none of which counts
for whether a node is spelled. So what a spelled forest expands to is spelled (`spelled_expand`),
whatever the values are. The proof goes along the expander; at a use of a component it needs of the
scripts that they leave no attributes under names that the use does not have.
-/

namespace HtmlTemplate.Expand

open HtmlTemplate.Markup HtmlTemplate.Component Expansion

/-! ### What runs end with -/

section Yields

variable {ε σ W α β : Type}

/-- When a computation ends, what it ends with has a property. -/
def Yields (P : α → Prop) (x : ExceptT ε (StateM σ) α) : Prop := ∀ s a t, Ends x s a t → P a

theorem yields_trivial (x : ExceptT ε (StateM σ) α) : Yields (fun _ => True) x :=
  fun _ _ _ _ => trivial

theorem yields_of_not_ends {P : α → Prop} {x : ExceptT ε (StateM σ) α}
    (h : ∀ s a t, ¬ Ends x s a t) : Yields P x :=
  fun s a t run => absurd run (h s a t)

theorem yields_pure {P : α → Prop} {a : α} (h : P a) :
    Yields P (pure a : ExceptT ε (StateM σ) α) := by
  intro s b t run
  obtain ⟨rfl, -⟩ := ends_pure_iff.1 run
  exact h

theorem yields_bind {P : α → Prop} {Q : β → Prop} {x : ExceptT ε (StateM σ) α}
    {f : α → ExceptT ε (StateM σ) β} (hx : Yields P x) (hf : ∀ a, P a → Yields Q (f a)) :
    Yields Q (x >>= f) := by
  intro s b t run
  obtain ⟨a, s₁, hxs, hfs⟩ := ends_bind_iff.1 run
  exact hf a (hx s a s₁ hxs) s₁ b t hfs

/-- What a computation ends with does not matter when it does not for what follows. -/
theorem yields_after {Q : β → Prop} {x : ExceptT ε (StateM σ) α} {f : α → ExceptT ε (StateM σ) β}
    (hf : ∀ a, Yields Q (f a)) : Yields Q (x >>= f) :=
  yields_bind (yields_trivial x) fun a _ => hf a

theorem yields_stop {V : Type} {P : α → Prop} (place : Place V) (left : List Node) (fault : Fault) :
    Yields P (stop place left fault : Expansion W α) :=
  yields_of_not_ends fun _ _ _ => not_ends_stop

theorem yields_within {P : α → Prop} {x : Expansion W α} (h : Yields P x)
    (f : List Node → List Node) : Yields P (within f x) := by
  intro s a t run
  obtain ⟨s₁, hs, -⟩ := ends_within_iff.1 run
  exact h { s with notes := [] } a s₁ hs

theorem yields_whole {P : α → Prop} {x : Expansion W α} (h : Yields P x) :
    Yields P (whole x) := by
  intro s a t run
  obtain ⟨s₁, hs, -⟩ := ends_whole_iff.1 run
  exact h { s with notes := [] } a s₁ hs

theorem yields_apart {P : α → Prop} {x : Expansion W α} (h : Yields P x)
    (left : W → List Node) : Yields P (apart left x) :=
  fun s a t run => yields_whole h s a t (ends_apart_iff.1 run)

end Yields

variable {V W : Type}

/-- Scripts leave no attributes under names that they are not given. -/
def Evaluator.KeepsNames (ev : Evaluator V W) : Prop :=
  ∀ given scope sources, Yields (fun result => result.2.names ⊆ given.names)
    (runScripts ev given scope sources)

/-- A forest that an expansion ends with is spelled. -/
abbrev YieldsSpelled (x : Expansion W (List Node)) : Prop := Yields (Seen Spelled) x

/-! ### Values -/

section Values

variable {setting : Setting V W}

theorem spelled_text (data : String) : Seen Spelled [.text data] := (seen_leaf_iff rfl).2 trivial

theorem spelled_expandText (place : Place V) (data : String) :
    YieldsSpelled (expandText setting place data) :=
  yields_after fun _ => yields_pure (spelled_text _)

/-- Evaluated attributes are readable: their names stand behind a colon in names of attributes. -/
theorem yields_evaluateAttrs (place : Place V) (around : Attrs → List Node) (names : List String) :
    ∀ {attrs : Attrs}, ReadableAttrs attrs →
      Yields ReadableAttrs (evaluateAttrs setting place around names attrs) := by
  induction names with
  | nil => exact fun readable => yields_pure readable
  | cons name names ih =>
    intro attrs readable
    rw [evaluateAttrs]
    split
    · rename_i target source htarget hsource
      have bound : name ∈ attrs.names := List.mem_map_of_mem (Bindings.mem_of_get? hsource)
      have named := readableName_of_evaluatedName? (readable.names name bound) htarget
      refine yields_after fun value? => ?_
      split
      · exact ih ((readable.erase name).put named _)
      · exact ih (readable.erase name)
    · exact ih readable

theorem spelled_expandDynamic (place : Place V) (tag : String) {attrs : Attrs}
    (readable : ReadableAttrs attrs) (children : List Node) {inside : Expansion W (List Node)}
    (hinside : YieldsSpelled inside) :
    YieldsSpelled (expandDynamic setting place tag attrs children inside) := by
  unfold expandDynamic
  split
  · exact yields_stop place _ _
  · refine yields_after fun v => yields_bind (yields_within hinside _) fun cs hcs => ?_
    dsimp only
    split
    · exact yields_pure hcs
    · split
      · exact yields_after fun _ => yields_stop place _ _
      · exact yields_pure (seen_element_iff.2 ⟨readable.erase "tag", hcs⟩)
    · exact yields_after fun _ => yields_stop place _ _

/-! ### Choices and loops -/

theorem spelled_linkNodes {links : List (Link V W)} (h : Seen Spelled (linkNodes links)) :
    ∀ l ∈ links, Seen Spelled l.gap := by
  intro l hl
  refine seen_of_forall_mem fun n hn => h.of_mem ?_
  exact List.mem_flatMap.2 ⟨l, hl, List.mem_append_left _ hn⟩

theorem spelled_gaps {links : List (Link V W)} (h : ∀ l ∈ links, Seen Spelled l.gap) :
    Seen Spelled (links.map Link.gap).flatten := by
  refine seen_of_forall_mem fun n hn => ?_
  obtain ⟨gap, hgap, hn⟩ := List.mem_flatten.1 hn
  obtain ⟨l, hl, rfl⟩ := List.mem_map.1 hgap
  exact (h l hl).of_mem hn

theorem spelled_expandChain (place : Place V) {first : Expandable V W} {links : List (Link V W)}
    (hgaps : ∀ l ∈ links, Seen Spelled l.gap)
    (hinside : ∀ e ∈ first :: links.map Link.branch, ∀ place, YieldsSpelled (e.inside place)) :
    YieldsSpelled (expandChain setting place first links) := by
  unfold expandChain
  dsimp only
  split
  · exact yields_stop place _ _
  · refine yields_after fun chosen? => ?_
    split
    · exact yields_pure (spelled_gaps fun l hl => hgaps l (List.mem_of_mem_drop hl))
    · rename_i k chosen found
      refine yields_bind (yields_within (hinside chosen (mem_of_chosen found) _) _)
        fun body hbody => yields_pure ?_
      exact seen_append_iff.2 ⟨seen_append_iff.2
        ⟨spelled_gaps fun l hl => hgaps l (List.mem_of_mem_take hl), hbody⟩,
        spelled_gaps fun l hl => hgaps l (List.mem_of_mem_drop hl)⟩

theorem spelled_expandSwitch (place : Place V) (tag : String) (attrs : Attrs)
    (children : List Node) {insideChild : Nat → Place V → Expansion W (List Node)}
    (hinside : ∀ k place, YieldsSpelled (insideChild k place)) :
    YieldsSpelled (expandSwitch setting place tag attrs children insideChild) := by
  unfold expandSwitch
  dsimp only
  split
  · exact yields_stop place _ _
  · refine yields_after fun equal? => ?_
    split
    · exact yields_pure seen_nil
    · exact yields_within (hinside _ place) _

theorem spelled_expandRounds (place : Place V) (loop : Node) (items : V) (name : String)
    {inside : Place V → Expansion W (List Node)} (hinside : ∀ place, YieldsSpelled (inside place))
    (fuel : Nat) : ∀ position,
      YieldsSpelled (expandRounds setting place loop items name inside fuel position) := by
  induction fuel with
  | zero => exact fun position => yields_stop place _ _
  | succ fuel ih =>
    intro position
    rw [expandRounds]
    refine yields_after fun v? => ?_
    split
    · exact yields_pure seen_nil
    · split
      · exact yields_bind (yields_apart (hinside _) _) fun body hbody =>
          yields_bind (ih (position + 1)) fun more hmore =>
            yields_pure (seen_append_iff.2 ⟨hbody, hmore⟩)
      · exact yields_stop place _ _

theorem spelled_expandLoop (place : Place V) (tag : String) (attrs : Attrs) (children : List Node)
    {inside : Place V → Expansion W (List Node)} (hinside : ∀ place, YieldsSpelled (inside place)) :
    YieldsSpelled (expandLoop setting place tag attrs children inside) := by
  unfold expandLoop
  dsimp only
  split
  · split
    · exact yields_stop place _ _
    · refine yields_after fun items => yields_after fun length? => ?_
      split
      · exact spelled_expandRounds place _ items _ hinside _ 0
      · exact yields_after fun _ => yields_stop place _ _
  · exact yields_stop place _ _

end Values

/-! ### Uses of components -/

section Uses

variable {setting : Setting V W} (keeps : setting.evaluator.KeepsNames)
  {deeper : ForestExpansion V W}
  (hdeeper : ∀ place {forest}, Seen Spelled forest → YieldsSpelled (deeper place forest))
include keeps hdeeper

theorem spelled_expandSource (place : Place V) {u : Use} (readable : ReadableAttrs u.attrs)
    (source : String) : Yields (fun found => Seen Spelled found.1)
      (expandSource setting deeper place u source) := by
  rintro s ⟨tree, left⟩ t run
  obtain ⟨forest, scope, w, core, s₁, hparse, hscripts, hcore, rfl, -⟩ :=
    ends_expandSource_iff.1 run
  have source : Seen Spelled (forest.filter fun n => !isServerScript n) :=
    .of_every ((spelled_of_parse hparse).subset List.filter_sublist.subset)
  refine spelled_distribute _ (fun name mem => ?_) (hdeeper _ source _ core s₁ hcore)
  exact readable.names name (keeps _ _ _ _ _ _ hscripts mem)

theorem spelled_expandUse (place : Place V) {u : Use} (readable : ReadableAttrs u.attrs)
    {inside : Expansion W (List Node)} (hinside : YieldsSpelled inside) :
    YieldsSpelled (expandUse setting deeper place u inside) := by
  intro s nodes t run
  obtain ⟨-, source, s₁, tree, left, s₂, given, content, -, htree, hgiven, hcontent, hproject⟩ :=
    ends_expandUse_iff.1 run
  have core : Seen Spelled tree :=
    spelled_expandSource keeps hdeeper place readable source s₁ _ s₂ htree
  exact seen_project shallow_spelled hproject core
    (contentSeen_ofNodes? hcontent (yields_within hinside _ s₂ given t hgiven))

/-! ### Nodes -/

/-- A node that is spelled, and so is what its inside expands to. -/
structure Expandable.Spelled (e : Expandable V W) : Prop where
  node : Seen Markup.Spelled [e.node]
  inside : ∀ place, YieldsSpelled (e.inside place)
  insideChild : ∀ k place, YieldsSpelled (e.insideChild k place)

theorem spelled_expandElement (place : Place V) (tag : String) {attrs : Attrs}
    (readable : ReadableAttrs attrs) (children : List Node) {e : Expandable V W}
    (he : e.Spelled) : YieldsSpelled (expandElement setting deeper place tag attrs children e) := by
  unfold expandElement
  dsimp only
  split
  · exact yields_stop place _ _
  split
  · exact spelled_expandSwitch place tag attrs children he.insideChild
  split
  · exact spelled_expandLoop place tag attrs children he.inside
  split
  · exact spelled_expandDynamic place tag readable children (he.inside place)
  split
  · split
    · rename_i u hu
      have used : ReadableAttrs u.attrs := by
        unfold Use.ofElement? at hu
        split at hu
        · obtain ⟨name, -, rfl⟩ := Option.map_eq_some_iff.1 hu
          exact readable.erase "name"
        · exact Option.some.inj hu ▸ readable
      exact spelled_expandUse keeps hdeeper place used (he.inside place)
    · exact yields_stop place _ _
  · exact yields_bind (yields_within (he.inside place) _) fun cs hcs =>
      yields_pure (seen_element_iff.2 ⟨readable, hcs⟩)

theorem spelled_expandNode (place : Place V) {e : Expandable V W} (he : e.Spelled) :
    YieldsSpelled (expandNode setting deeper place e) := by
  have here := he.node
  unfold expandNode
  cases hnode : e.node with
  | text data => exact spelled_expandText place data
  | element tag attrs children =>
    rw [hnode, seen_element_iff] at here
    exact yields_bind (yields_evaluateAttrs _ _ _ here.1) fun attrs readable =>
      spelled_expandElement keeps hdeeper _ tag readable children he
  | _ => exact yields_pure (hnode ▸ here)

/-! ### Rows -/

theorem spelled_expandItem (place : Place V) {item : RowItem V W}
    (nodes : Seen Spelled item.nodes) (hitem : ∀ e ∈ item.parts, e.Spelled) :
    YieldsSpelled (expandItem setting deeper place item) := by
  cases item with
  | single e => exact spelled_expandNode keeps hdeeper place (hitem e List.mem_cons_self)
  | chain first links =>
    obtain ⟨head, rest⟩ := seen_cons_iff.1 nodes
    rw [expandItem]
    cases hnode : first.node with
    | element tag attrs children =>
      refine yields_after fun attrs => spelled_expandChain _ (spelled_linkNodes rest) fun e he => ?_
      rcases List.mem_cons.1 he with rfl | he
      · exact (hitem first List.mem_cons_self).inside
      · exact (hitem e (List.mem_cons_of_mem first he)).inside
    | _ => exact yields_pure (hnode ▸ nodes)

omit keeps hdeeper in
theorem spelled_expandItems (o : Options) {item : RowItem V W → Expansion W (List Node)}
    (row : List (RowItem V W)) (hitem : ∀ i ∈ row, YieldsSpelled (item i)) :
    YieldsSpelled (expandItems o item row) := by
  induction row with
  | nil => exact yields_pure seen_nil
  | cons i row ih =>
    rw [expandItems]
    have first := yields_bind (hitem i List.mem_cons_self) fun placed hplaced =>
      yields_after (x := noteStep o placed) fun _ => yields_pure hplaced
    refine yields_bind (yields_within first _) fun placed hplaced => ?_
    refine yields_bind (yields_within (ih fun j hj => hitem j (List.mem_cons_of_mem i hj)) _)
      fun more hmore => ?_
    exact yields_pure (seen_append_iff.2 ⟨hplaced, hmore⟩)

theorem spelled_expandRow (place : Place V) {es : List (Expandable V W)}
    (hes : ∀ e ∈ es, e.Spelled) : YieldsSpelled (expandRow setting deeper place es) := by
  refine spelled_expandItems setting.options (rowOf es) fun i hi => ?_
  refine spelled_expandItem keeps hdeeper place (seen_of_forall_mem fun n hn => ?_)
    fun e he => hes e (parts_rowOf es i hi e he)
  have sibling : n ∈ es.map Expandable.node := by
    rw [← rowNodes_rowOf]
    exact List.mem_flatMap.2 ⟨i, hi, hn⟩
  obtain ⟨e, he, rfl⟩ := List.mem_map.1 sibling
  exact (hes e he).node

end Uses

/-! ### Trees -/

section Trees

variable {row : Place V → List (Expandable V W) → Expansion W (List Node)}

theorem spelled_expandables
    (hrow : ∀ place es, (∀ e ∈ es, e.Spelled) → YieldsSpelled (row place es)) {ns : List Node}
    (spelled : Seen Spelled ns) : ∀ e ∈ expandables row ns, e.Spelled := by
  have key : ∀ e ∈ expandables row ns, Seen Spelled [e.node] → e.Spelled := by
    refine expandables_induct (fun n _ here => ⟨here, fun _ => yields_pure seen_nil,
      fun _ _ => yields_pure seen_nil⟩) (fun tag attrs children ih here => ?_) ns
    have inside : ∀ e ∈ expandables row children, e.Spelled := fun e he =>
      ih e he ((seen_element_iff.1 here).2.of_mem (mem_of_mem_expandables he))
    refine ⟨here, fun place => hrow place _ inside, fun k place => ?_⟩
    dsimp only [expandable]
    split
    · rename_i e he
      exact (inside e (List.mem_of_getElem? he)).inside place
    · exact yields_pure seen_nil
  exact fun e he => key e he (spelled.of_mem (mem_of_mem_expandables he))

end Trees

section Levels

variable {setting : Setting V W} (keeps : setting.evaluator.KeepsNames)
include keeps

theorem spelled_expandLevels (levels : Nat) : ∀ (place : Place V) {forest : List Node},
    Seen Spelled forest → YieldsSpelled (expandLevels setting levels place forest) := by
  induction levels with
  | zero => exact fun place forest spelled => yields_pure spelled
  | succ levels ih =>
    exact fun place forest spelled => spelled_expandRow keeps ih place
      (spelled_expandables (fun place es hes => spelled_expandRow keeps ih place hes) spelled)

/-- What a spelled forest expands to is spelled. -/
theorem spelled_expand (scope : Scope V) {forest : List Node} (spelled : Seen Spelled forest) :
    YieldsSpelled (expand setting scope forest) :=
  yields_whole (spelled_expandLevels keeps _ _ spelled)

end Levels

end HtmlTemplate.Expand
