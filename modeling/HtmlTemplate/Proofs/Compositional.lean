import HtmlTemplate.Proofs.Rows

/-!
# Properties of expansions that compose

A property of computations that the parts of the expander have, and that is kept when computations
are put together in the ways in which the expander does that, is a property of every expansion:
`Compositional.expandLevels`. The proof follows the construction of the expander, one lemma for each
of its functions.
-/

namespace HtmlTemplate.Expand

open HtmlTemplate.Markup HtmlTemplate.Component Expansion

variable {V W : Type}

/-- A property of the computations of an evaluator and a property of expansions that compose along
the constructs of a setting. -/
structure Compositional (setting : Setting V W) (settled : ∀ {α : Type}, Act W α → Prop)
    (stable : ∀ {α : Type}, Expansion W α → Prop) : Prop where
  act_pure {α : Type} (a : α) : settled (pure a)
  act_bind {α β : Type} {x : Act W α} {f : α → Act W β} :
    settled x → (∀ a, settled (f a)) → settled (x >>= f)
  act_truth (v : V) {α : Type} {x y : Act W α} : settled x → settled y →
    settled (get >>= fun w => if setting.evaluator.truth v w then x else y)
  act_same (u v : V) {α : Type} {x y : Act W α} : settled x → settled y →
    settled (get >>= fun w => if setting.evaluator.same u v w then x else y)
  act_evaluate (source : String) (scope : Scope V) :
    settled (setting.evaluator.evaluate source scope)
  act_evaluateUncaught : settled setting.evaluator.evaluateUncaught
  act_text (v : V) : settled (setting.evaluator.text v)
  act_member (v : V) (position : Nat) : settled (setting.evaluator.member? v position)
  of_pure {α : Type} (a : α) : stable (pure a)
  of_bind {α β : Type} {x : Expansion W α} {f : α → Expansion W β} :
    stable x → (∀ a, stable (f a)) → stable (x >>= f)
  of_stop (place : Place V) (left : List Node) (fault : Fault) {α : Type} :
    stable (stop place left fault : Expansion W α)
  of_stop_shown (place : Place V) (left : List Node) (v : V) (fault : ShownValue → Fault)
    {α : Type} : stable (compute place left (setting.evaluator.shown v) >>= fun value =>
      (stop place left (fault value) : Expansion W α))
  of_compute (place : Place V) (left : List Node) {α : Type} {x : Act W α} :
    settled x → stable (compute place left x)
  of_length (v : V) : stable (observe (setting.evaluator.length? v))
  of_within (f : List Node → List Node) {α : Type} {x : Expansion W α} :
    stable x → stable (within f x)
  of_apart (left : W → List Node) {α : Type} {x : Expansion W α} :
    stable x → stable (apart left x)
  of_noteStep (forest : List Node) : stable (noteStep setting.options forest)
  of_findSource (place : Place V) (u : Use) : stable (findSource place u)
  of_expandSource {deeper : ForestExpansion V W} (place : Place V) (u : Use) (source : String) :
    (∀ place forest, stable (deeper place forest)) →
      stable (expandSource setting deeper place u source)

/-- What is inside a node expands with a property. -/
def Expandable.Inside (stable : ∀ {α : Type}, Expansion W α → Prop) (e : Expandable V W) : Prop :=
  (∀ place, stable (e.inside place)) ∧ ∀ k place, stable (e.insideChild k place)

theorem mem_of_chosen {branches : List (Expandable V W)} {chosen? : Option Nat} {k : Nat}
    {chosen : Expandable V W}
    (found : (chosen?.bind fun k => (branches[k]?).map (k, ·)) = some (k, chosen)) :
    chosen ∈ branches := by
  obtain ⟨j, -, hj⟩ := Option.bind_eq_some_iff.1 found
  obtain ⟨e, he, heq⟩ := Option.map_eq_some_iff.1 hj
  obtain ⟨rfl, rfl⟩ := Prod.mk.inj heq
  exact List.mem_of_getElem? he

namespace Compositional

variable {setting : Setting V W} {settled : ∀ {α : Type}, Act W α → Prop}
  {stable : ∀ {α : Type}, Expansion W α → Prop} (h : Compositional setting settled stable)
include h

/-! ### Values -/

theorem outputText (v : V) : settled (outputText setting.evaluator v) := by
  unfold Expand.outputText
  split
  · exact h.act_pure none
  · exact h.act_bind (h.act_text v) fun s => h.act_pure (some s)

theorem pieceText (scope : Scope V) (p : Text.Piece) :
    settled (pieceText setting.evaluator scope p) := by
  cases p with
  | plain text => exact h.act_pure text
  | hit caught =>
    have shown (v : V) := h.act_bind (h.outputText v) fun s => h.act_pure (s.getD "")
    rw [Expand.pieceText]
    split
    · exact h.act_bind (h.act_evaluate _ scope) shown
    · exact h.act_bind h.act_evaluateUncaught shown

theorem pieceTexts (scope : Scope V) (ps : List Text.Piece) :
    settled (pieceTexts setting.evaluator scope ps) := by
  induction ps with
  | nil => exact h.act_pure []
  | cons p ps ih =>
    exact h.act_bind (h.pieceText scope p) fun s => h.act_bind ih fun ss => h.act_pure (s :: ss)

theorem attributeText (source : String) (scope : Scope V) :
    settled (attributeText setting.evaluator source scope) := by
  refine h.act_bind (h.act_evaluate source scope) fun v => ?_
  split
  · exact h.act_pure _
  · exact h.outputText v

theorem chosenBranch? (scope : Scope V) (ns : List Node) :
    ∀ index, settled (chosenBranch? setting.evaluator scope index ns) := by
  induction ns with
  | nil => exact fun index => h.act_pure none
  | cons n ns ih =>
    intro index
    rw [Expand.chosenBranch?]
    split
    · exact h.act_pure _
    · exact h.act_bind (h.act_evaluate _ scope) fun v =>
        h.act_truth v (h.act_pure _) (ih (index + 1))

theorem equalCase? (scope : Scope V) (value : V) (ns : List Node) :
    ∀ index, settled (equalCase? setting.evaluator scope value index ns) := by
  induction ns with
  | nil => exact fun index => h.act_pure none
  | cons n ns ih =>
    intro index
    rw [Expand.equalCase?]
    split
    · exact h.act_bind (h.act_evaluate _ scope) fun v =>
        h.act_same v value (h.act_pure _) (ih (index + 1))
    · exact ih (index + 1)

/-! ### Substitution -/

theorem expandText (place : Place V) (data : String) : stable (expandText setting place data) :=
  h.of_bind (h.of_compute place _ (h.pieceTexts place.scope _)) fun _ => h.of_pure _

theorem evaluateAttrs (place : Place V) (around : Attrs → List Node) (names : List String) :
    ∀ attrs, stable (evaluateAttrs setting place around names attrs) := by
  induction names with
  | nil => exact fun attrs => h.of_pure attrs
  | cons name names ih =>
    intro attrs
    rw [Expand.evaluateAttrs]
    split
    · refine h.of_bind (h.of_compute place _ (h.attributeText _ place.scope)) fun value? => ?_
      split
      · exact ih _
      · exact ih _
    · exact ih attrs

theorem expandDynamic (place : Place V) (tag : String) (attrs : Attrs) (children : List Node)
    {inside : Expansion W (List Node)} (hinside : stable inside) :
    stable (expandDynamic setting place tag attrs children inside) := by
  unfold Expand.expandDynamic
  split
  · exact h.of_stop place _ _
  · refine h.of_bind (h.of_compute place _ (h.act_evaluate _ place.scope)) fun v => ?_
    refine h.of_bind (h.of_within _ hinside) fun cs => ?_
    dsimp only
    split
    · exact h.of_pure cs
    · split
      · exact h.of_stop_shown place _ v _
      · exact h.of_pure _
    · exact h.of_stop_shown place _ v _

/-! ### Choices and loops -/

theorem expandChain (place : Place V) {first : Expandable V W} {links : List (Link V W)}
    (hinside : ∀ e ∈ first :: links.map Link.branch, ∀ place, stable (e.inside place)) :
    stable (expandChain setting place first links) := by
  unfold Expand.expandChain
  dsimp only
  split
  · exact h.of_stop place _ _
  · refine h.of_bind (h.of_compute place _ (h.chosenBranch? place.scope _ 0)) fun chosen? => ?_
    split
    · exact h.of_pure _
    · rename_i k chosen found
      have inside := hinside chosen (mem_of_chosen found) (place.inner [])
      exact h.of_bind (h.of_within _ inside) fun body => h.of_pure _

theorem expandSwitch (place : Place V) (tag : String) (attrs : Attrs) (children : List Node)
    {insideChild : Nat → Place V → Expansion W (List Node)}
    (hinside : ∀ k place, stable (insideChild k place)) :
    stable (expandSwitch setting place tag attrs children insideChild) := by
  unfold Expand.expandSwitch
  dsimp only
  split
  · exact h.of_stop place _ _
  · rename_i source _
    have compare := h.act_bind (h.act_evaluate source place.scope) fun value =>
      h.equalCase? place.scope value children 0
    refine h.of_bind (h.of_compute place _ compare) fun equal? => ?_
    split
    · exact h.of_pure []
    · exact h.of_within _ (hinside _ place)

theorem expandRounds (place : Place V) (loop : Node) (items : V) (name : String)
    {inside : Place V → Expansion W (List Node)} (hinside : ∀ place, stable (inside place))
    (fuel : Nat) :
    ∀ position, stable (expandRounds setting place loop items name inside fuel position) := by
  induction fuel with
  | zero => exact fun position => h.of_stop place _ _
  | succ fuel ih =>
    intro position
    rw [Expand.expandRounds]
    refine h.of_bind (h.of_compute place _ (h.act_member items position)) fun v? => ?_
    split
    · exact h.of_pure []
    · split
      · exact h.of_bind (h.of_apart _ (hinside _)) fun body =>
          h.of_bind (ih (position + 1)) fun more => h.of_pure _
      · exact h.of_stop place _ _

theorem expandLoop (place : Place V) (tag : String) (attrs : Attrs) (children : List Node)
    {inside : Place V → Expansion W (List Node)} (hinside : ∀ place, stable (inside place)) :
    stable (expandLoop setting place tag attrs children inside) := by
  unfold Expand.expandLoop
  dsimp only
  split
  · split
    · exact h.of_stop place _ _
    · refine h.of_bind (h.of_compute place _ (h.act_evaluate _ place.scope)) fun items => ?_
      refine h.of_bind (h.of_length items) fun length? => ?_
      split
      · exact h.expandRounds place _ items _ hinside _ 0
      · exact h.of_stop_shown place _ items _
  · exact h.of_stop place _ _

/-! ### Uses of components -/

variable {deeper : ForestExpansion V W}

theorem expandUse (hdeeper : ∀ place forest, stable (deeper place forest)) (place : Place V)
    (u : Use) {inside : Expansion W (List Node)} (hinside : stable inside) :
    stable (expandUse setting deeper place u inside) := by
  unfold Expand.expandUse
  dsimp only
  split
  · exact h.of_stop place _ _
  · refine h.of_bind (h.of_findSource place u) fun source => ?_
    refine h.of_bind (h.of_expandSource place u source hdeeper) fun ⟨tree, attrs⟩ => ?_
    refine h.of_bind (h.of_within _ hinside) fun content => ?_
    split
    · exact h.of_stop place _ _
    · split
      · exact h.of_pure _
      · exact h.of_stop place _ _
      · exact h.of_stop _ _ _

/-! ### Nodes -/

theorem expandElement (hdeeper : ∀ place forest, stable (deeper place forest)) (place : Place V)
    (tag : String) (attrs : Attrs) (children : List Node) {e : Expandable V W}
    (he : e.Inside stable) : stable (expandElement setting deeper place tag attrs children e) := by
  unfold Expand.expandElement
  dsimp only
  split
  · exact h.of_stop place _ _
  split
  · exact h.expandSwitch place tag attrs children he.2
  split
  · exact h.expandLoop place tag attrs children he.1
  split
  · exact h.expandDynamic place tag attrs children (he.1 place)
  split
  · split
    · exact h.expandUse hdeeper place _ (he.1 place)
    · exact h.of_stop place _ _
  · exact h.of_bind (h.of_within _ (he.1 place)) fun cs => h.of_pure _

theorem expandNode (hdeeper : ∀ place forest, stable (deeper place forest)) (place : Place V)
    {e : Expandable V W} (he : e.Inside stable) : stable (expandNode setting deeper place e) := by
  unfold Expand.expandNode
  cases e.node with
  | text data => exact h.expandText place data
  | element tag attrs children =>
    exact h.of_bind (h.evaluateAttrs _ _ _ attrs) fun attrs =>
      h.expandElement hdeeper _ tag attrs children he
  | _ => exact h.of_pure _

/-! ### Rows -/

theorem expandItem (hdeeper : ∀ place forest, stable (deeper place forest)) (place : Place V)
    {item : RowItem V W} (hitem : ∀ e ∈ item.parts, e.Inside stable) :
    stable (expandItem setting deeper place item) := by
  cases item with
  | single e => exact h.expandNode hdeeper place (hitem e List.mem_cons_self)
  | chain first links =>
    rw [Expand.expandItem]
    cases first.node with
    | element tag attrs children =>
      refine h.of_bind (h.evaluateAttrs _ _ _ attrs) fun attrs => h.expandChain _ fun e he => ?_
      rcases List.mem_cons.1 he with rfl | he
      · exact (hitem first List.mem_cons_self).1
      · exact (hitem e (List.mem_cons_of_mem first he)).1
    | _ => exact h.of_pure _

theorem expandItems {item : RowItem V W → Expansion W (List Node)} (row : List (RowItem V W))
    (hitem : ∀ i ∈ row, stable (item i)) : stable (expandItems setting.options item row) := by
  induction row with
  | nil => exact h.of_pure []
  | cons i row ih =>
    rw [Expand.expandItems]
    refine h.of_bind (h.of_within _ (h.of_bind (hitem i List.mem_cons_self) fun placed =>
      h.of_bind (h.of_noteStep placed) fun _ => h.of_pure placed)) fun placed => ?_
    exact h.of_bind (h.of_within _ (ih fun j hj => hitem j (List.mem_cons_of_mem i hj))) fun more =>
      h.of_pure _

theorem expandRow (hdeeper : ∀ place forest, stable (deeper place forest)) (place : Place V)
    {es : List (Expandable V W)} (hes : ∀ e ∈ es, e.Inside stable) :
    stable (expandRow setting deeper place es) :=
  h.expandItems (rowOf es) fun i hi =>
    h.expandItem hdeeper place fun e he => hes e (parts_rowOf es i hi e he)

/-! ### Trees -/

theorem expandables {row : Place V → List (Expandable V W) → Expansion W (List Node)}
    (hrow : ∀ place es, (∀ e ∈ es, e.Inside stable) → stable (row place es)) (ns : List Node) :
    ∀ e ∈ expandables row ns, e.Inside stable := by
  refine expandables_induct (fun n _ => ⟨fun _ => h.of_pure [], fun _ _ => h.of_pure []⟩)
    (fun tag attrs children hchildren => ?_) ns
  refine ⟨fun place => hrow place _ hchildren, fun k place => ?_⟩
  dsimp only [expandable]
  split
  · rename_i e he
    exact (hchildren e (List.mem_of_getElem? he)).1 place
  · exact h.of_pure []

/-- The expansion of every forest has a property that composes. -/
theorem expandLevels (levels : Nat) :
    ∀ (place : Place V) (forest : List Node),
      stable (expandLevels setting levels place forest) := by
  induction levels with
  | zero => exact fun place forest => h.of_pure forest
  | succ levels ih =>
    exact fun place forest => h.expandRow ih place
      (h.expandables (fun place es hes => h.expandRow ih place hes) forest)

end Compositional

end HtmlTemplate.Expand
