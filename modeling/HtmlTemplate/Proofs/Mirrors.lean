import HtmlTemplate.Proofs.MutedText
import HtmlTemplate.Proofs.Steady

/-!
# Two expansions that differ in the value of a variable

A variable is bound in the outermost frame of a scope (`Scope.rebind`). `ReadOnlyInTexts` says of a
forest that the variable matters for nothing but the values of expressions in texts: no attribute,
no expression that decides what is expanded, and no script of a component depends on it. Then two
expansions in which the variable has two texts for values go the same way (`mirrors_expandLevels`):
when one ends, so does the other, they hand the evaluator the same, and they come to the same forest
but for the data of texts. A value is never looked at again once it stands in a text.
-/

namespace HtmlTemplate

/-- Binds a name in the outermost of some frames, the innermost of which comes first. -/
def Scope.rebindFrames {α : Type} (name : String) (value : α) :
    Bindings α → List (Bindings α) → Scope α
  | frame, [] => .root (frame.put name value)
  | frame, next :: rest => (rebindFrames name value next rest).child frame

/-- Binds a name in the outermost frame. -/
def Scope.rebind {α : Type} (s : Scope α) (name : String) (value : α) : Scope α :=
  rebindFrames name value s.frame s.outer

namespace Expand

open HtmlTemplate.Markup HtmlTemplate.Component HtmlTemplate.Text

/-! ### Computations with related results -/

section FollowsAs

variable {ε σ ρ τ α α' β β' : Type} {view : σ → ρ} {log : σ → List τ} {seen : ρ}
  {related : α → α' → Prop} {related' : β → β' → Prop}

/-- Where one computation ends, another one ends with a related result, when both start in states
with the given view; both keep the view and add the same entries to the log. -/
def FollowsAs (view : σ → ρ) (log : σ → List τ) (seen : ρ) (related : α → α' → Prop)
    (x : ExceptT ε (StateM σ) α) (y : ExceptT ε (StateM σ) α') : Prop :=
  ∀ s s' a t, view s = seen → view s' = seen → Ends x s a t →
    ∃ b t' told, Ends y s' b t' ∧ related a b ∧ Adds view log told s t ∧ Adds view log told s' t'

theorem followsAs_pure {a : α} {b : α'} (h : related a b) :
    FollowsAs view log seen related (pure a : ExceptT ε (StateM σ) α) (pure b) := by
  intro s s' c t _ _ run
  obtain ⟨rfl, rfl⟩ := ends_pure_iff.1 run
  exact ⟨b, s', [], ends_pure_iff.2 ⟨rfl, rfl⟩, h, adds_nil s, adds_nil s'⟩

theorem followsAs_bind {x : ExceptT ε (StateM σ) α} {y : ExceptT ε (StateM σ) α'}
    {f : α → ExceptT ε (StateM σ) β} {g : α' → ExceptT ε (StateM σ) β'}
    (hx : FollowsAs view log seen related x y)
    (hf : ∀ a b, related a b → FollowsAs view log seen related' (f a) (g b)) :
    FollowsAs view log seen related' (x >>= f) (y >>= g) := by
  intro s s' c t hs hs' run
  obtain ⟨a, s₁, hxs, hfs⟩ := ends_bind_iff.1 run
  obtain ⟨b, s₁', told, hys, hab, adds, adds'⟩ := hx s s' a s₁ hs hs' hxs
  obtain ⟨d, t', told', hgs, hcd, adds₁, adds₁'⟩ :=
    hf a b hab s₁ s₁' c t (adds.1.trans hs) (adds'.1.trans hs') hfs
  exact ⟨d, t', told ++ told', ends_bind_iff.2 ⟨b, s₁', hys, hgs⟩, hcd, adds.trans adds₁,
    adds'.trans adds₁'⟩

theorem followsAs_of_not_ends {x : ExceptT ε (StateM σ) α} {y : ExceptT ε (StateM σ) α'}
    (h : ∀ s a t, ¬ Ends x s a t) : FollowsAs view log seen related x y :=
  fun s _ a t _ _ run => absurd run (h s a t)

theorem FollowsAs.mono {x : ExceptT ε (StateM σ) α} {y : ExceptT ε (StateM σ) α'}
    {weaker : α → α' → Prop} (h : FollowsAs view log seen related x y)
    (hrelated : ∀ a b, related a b → weaker a b) : FollowsAs view log seen weaker x y := by
  intro s s' a t hs hs' run
  obtain ⟨b, t', told, hy, hab, adds⟩ := h s s' a t hs hs' run
  exact ⟨b, t', told, hy, hrelated a b hab, adds⟩

theorem Follows.followsAs {x y : ExceptT ε (StateM σ) α} (h : Follows view log x y) :
    FollowsAs view log seen Eq x y := by
  intro s s' a t hs hs' run
  obtain ⟨t', told, hy, adds⟩ := h s s' a t (hs.trans hs'.symm) run
  exact ⟨a, t', told, hy, rfl, adds⟩

theorem followsAs_get {f : σ → ExceptT ε (StateM σ) α} {g : σ → ExceptT ε (StateM σ) α'}
    (h : ∀ s s', FollowsAs view log seen related (f s) (g s')) :
    FollowsAs view log seen related (get >>= f) (get >>= g) := by
  intro s s' a t hs hs' run
  obtain ⟨b, t', told, hy, rest⟩ := h s s' s s' a t hs hs' (ends_get_bind_iff.1 run)
  exact ⟨b, t', told, ends_get_bind_iff.2 hy, rest⟩

end FollowsAs

variable {V W τ α α' : Type}

/-- Computations of an evaluator that go the same way and have related results. -/
abbrev Act.Mirrors (calls : W → List τ) (related : α → α' → Prop) (x : Act W α) (y : Act W α') :
    Prop :=
  FollowsAs (fun _ => ()) calls () related x y

namespace Expansion

/-- Expansions that go the same way, as long as the registry has the given answers, and have related
results. -/
abbrev Mirrors (calls : W → List τ) (seen : String → Option String) (related : α → α' → Prop)
    (x : Expansion W α) (y : Expansion W α') : Prop :=
  FollowsAs answers (calls ·.world) seen related x y

variable {calls : W → List τ} {seen : String → Option String} {related : α → α' → Prop}

theorem mirrors_compute {x : Act W α} {y : Act W α'} (h : Act.Mirrors calls related x y)
    (place place' : Place V) (left left' : List Node) :
    Mirrors calls seen related (compute place left x) (compute place' left' y) := by
  intro s s' a t _ _ run
  obtain ⟨w, hw, rfl⟩ := ends_compute_iff.1 run
  obtain ⟨b, w', told, hw', hab, adds, adds'⟩ := h s.world s'.world a w rfl rfl hw
  exact ⟨b, _, told, ends_compute_iff.2 ⟨w', hw', rfl⟩, hab, ⟨rfl, adds.2⟩, ⟨rfl, adds'.2⟩⟩

theorem mirrors_observe {f : W → α} (hf : ∀ w w', f w = f w') :
    Mirrors calls seen Eq (observe f) (observe f) :=
  Follows.followsAs (stable_observe hf)

theorem mirrors_within {x y : Expansion W (List Node)}
    {related : List Node → List Node → Prop} (h : Mirrors calls seen related x y)
    (f g : List Node → List Node) : Mirrors calls seen related (within f x) (within g y) := by
  intro s s' a t hs hs' run
  obtain ⟨s₁, hx, rfl⟩ := ends_within_iff.1 run
  obtain ⟨b, s₁', told, hy, rest⟩ := h { s with notes := [] } { s' with notes := [] } a s₁ hs hs' hx
  exact ⟨b, _, told, ends_within_iff.2 ⟨s₁', hy, rfl⟩, rest⟩

theorem mirrors_whole {x : Expansion W α} {y : Expansion W α'}
    (h : Mirrors calls seen related x y) : Mirrors calls seen related (whole x) (whole y) := by
  intro s s' a t hs hs' run
  obtain ⟨s₁, hx, rfl⟩ := ends_whole_iff.1 run
  obtain ⟨b, s₁', told, hy, rest⟩ := h { s with notes := [] } { s' with notes := [] } a s₁ hs hs' hx
  exact ⟨b, _, told, ends_whole_iff.2 ⟨s₁', hy, rfl⟩, rest⟩

theorem mirrors_apart {x : Expansion W α} {y : Expansion W α'} (h : Mirrors calls seen related x y)
    (left left' : W → List Node) : Mirrors calls seen related (apart left x) (apart left' y) := by
  intro s s' a t hs hs' run
  obtain ⟨b, t', told, hy, rest⟩ := mirrors_whole h s s' a t hs hs' (ends_apart_iff.1 run)
  exact ⟨b, t', told, ends_apart_iff.2 hy, rest⟩

theorem mirrors_noteStep (o : Options) (forest forest' : List Node) :
    Mirrors calls seen (fun _ _ => True) (noteStep o forest : Expansion W Unit)
      (noteStep o forest') := by
  intro s s' a t _ _ run
  obtain ⟨t', run'⟩ := exists_ends_noteStep o forest' s'
  obtain ⟨world, registry⟩ := ends_noteStep run
  obtain ⟨world', registry'⟩ := ends_noteStep run'
  exact ⟨(), t', [], run', trivial, adds_of_same world registry, adds_of_same world' registry'⟩

theorem mirrors_findSource (place place' : Place V) (u : Use) :
    Mirrors calls seen (fun source source' => source = source' ∧ seen u.name = some source)
      (findSource place u : Expansion W String) (findSource place' u) := by
  intro s s' source t hs hs' run
  obtain ⟨t', told, run', adds⟩ := stable_findSource place u s s' source t (hs.trans hs'.symm) run
  obtain ⟨r, hr, -⟩ := ends_findSource_iff.1 run
  refine ⟨source, t', told, ends_findSource_iff.2 (ends_findSource_iff.1 run'), ⟨rfl, ?_⟩, adds⟩
  rw [← hs]
  exact (Lookup.answer?_of_ends_source hr).1

end Expansion

/-! ### Reading a variable -/

/-- A place with a name bound in the outermost frame of its scope. -/
def Place.rebind (p : Place V) (name : String) (value : V) : Place V :=
  { p with scope := p.scope.rebind name value }

/-- A value is a text. -/
def Evaluator.IsText (ev : Evaluator V W) (v : V) : Prop :=
  ∃ s, ev.kind v = .text s ∧ ∀ w, Ends (ev.text v) w s w

section Variable

variable (setting : Setting V W) (calls : W → List τ) (seen : String → Option String)
  (name : String)

/-- The value of an expression does not depend on a variable. -/
def Ignores (source : String) : Prop :=
  ∀ (scope : Scope V) (u w : V), setting.evaluator.IsText u → setting.evaluator.IsText w →
    Act.Mirrors calls Eq (setting.evaluator.evaluate source (scope.rebind name u))
      (setting.evaluator.evaluate source (scope.rebind name w))

/-- The value of an expression is that of a variable, or does not depend on it. -/
def Reads (source : String) : Prop :=
  ∀ (scope : Scope V) (u w : V), setting.evaluator.IsText u → setting.evaluator.IsText w →
    Act.Mirrors calls (fun a b => a = b ∨ a = u ∧ b = w)
      (setting.evaluator.evaluate source (scope.rebind name u))
      (setting.evaluator.evaluate source (scope.rebind name w))

/-- What the scripts of a component do does not depend on a variable. -/
def ScriptsIgnore (given : Attrs) (sources : List String) : Prop :=
  ∀ (scope : Scope V) (u w : V), setting.evaluator.IsText u → setting.evaluator.IsText w →
    Act.Mirrors calls
      (fun a b => ∃ (inner : Scope V) (left : Attrs),
        a = (inner.rebind name u, left) ∧ b = (inner.rebind name w, left))
      (runScripts setting.evaluator given (scope.rebind name u) sources)
      (runScripts setting.evaluator given (scope.rebind name w) sources)

/-- The attributes that an element may have when its evaluated attributes are evaluated. -/
def MayHave (attrs attrs' : Attrs) : Prop :=
  ∃ place around s t, Ends (evaluateAttrs setting place around attrs.names attrs) s attrs' t

/-- An attribute with the given name holds an expression that decides what becomes of an element. -/
def Steers (o : Options) (tag attribute_ : String) : Prop :=
  attribute_ = "condition" ∧ (tag = "if" ∨ tag = "elseif") ∨ attribute_ = "value" ∧ tag = "switch" ∨
    attribute_ = "case" ∧ tag = "case" ∨ attribute_ = "in" ∧ tag = "for" ∨
    attribute_ = "tag" ∧ tag = o.dynamicTag

/-- Neither the attributes of an element nor what decides about it depend on a variable. -/
structure ElementIgnores (tag : String) (attrs : Attrs) : Prop where
  attributes : ∀ (place : Place V) (around : Attrs → List Node) (u w : V),
    setting.evaluator.IsText u → setting.evaluator.IsText w →
      Expansion.Mirrors calls seen Eq
        (evaluateAttrs setting (place.rebind name u) around attrs.names attrs)
        (evaluateAttrs setting (place.rebind name w) around attrs.names attrs)
  steering : ∀ attrs', attrs' = attrs ∨ MayHave setting attrs attrs' →
    ∀ attribute_ source, Steers setting.options tag attribute_ →
      attrs'.get? attribute_ = some source → Ignores setting calls name source
  scripts : ∀ attrs' children use source forest, MayHave setting attrs attrs' →
    isUse setting.options tag = true →
      Use.ofElement? setting.options tag attrs' children = some use →
        seen use.name = some source → parse source = .ok forest →
          ScriptsIgnore setting calls name use.attrs
            ((forest.filter isServerScript).map scriptBody)

/-- A variable matters for nothing in a tree but the values of expressions in its texts. -/
def ReadsInTexts : Node → Prop
  | .text data => ∀ caught source, .hit caught ∈ setting.options.contentPattern.pieces data →
      groupText? caught 1 = some source → Reads setting calls name source
  | .element tag attrs _ => ElementIgnores setting calls seen name tag attrs
  | _ => True

/-- A variable matters for nothing in a forest, at any depth, but the values of expressions in
texts. -/
def ReadOnlyInTexts (forest : List Node) : Prop :=
  ∀ n ∈ Node.preorders forest, ReadsInTexts setting calls seen name n

variable {setting calls seen name}

theorem ReadOnlyInTexts.of_subset {ms ns : List Node}
    (h : ReadOnlyInTexts setting calls seen name ns)
    (sub : Node.preorders ms ⊆ Node.preorders ns) : ReadOnlyInTexts setting calls seen name ms :=
  fun n hn => h n (sub hn)

theorem ReadOnlyInTexts.of_mem {n : Node} {ns : List Node}
    (h : ReadOnlyInTexts setting calls seen name ns) (hn : n ∈ ns) :
    ReadOnlyInTexts setting calls seen name [n] :=
  h.of_subset (Node.preorders_subset (List.cons_subset.2 ⟨hn, List.nil_subset _⟩))

theorem ReadOnlyInTexts.readsInTexts {n : Node} {ns : List Node}
    (h : ReadOnlyInTexts setting calls seen name ns) (hn : n ∈ ns) :
    ReadsInTexts setting calls seen name n :=
  h n (Node.mem_preorders_iff.2 ⟨n, hn, Node.mem_preorder_self n⟩)

theorem ReadOnlyInTexts.children {tag : String} {attrs : Attrs} {cs : List Node}
    (h : ReadOnlyInTexts setting calls seen name [.element tag attrs cs]) :
    ReadOnlyInTexts setting calls seen name cs :=
  h.of_subset fun n hn => by simp [Node.preorders, Node.preorder, hn]

/-- A variable matters for nothing in any component but the values of expressions in texts. -/
def ComponentsReadInTexts (setting : Setting V W) (calls : W → List τ)
    (seen : String → Option String) (name : String) : Prop :=
  ∀ component source forest, seen component = some source → parse source = .ok forest →
    ReadOnlyInTexts setting calls seen name forest

end Variable

/-! ### Values -/

section Pass

variable {setting : Setting V W} {calls : W → List τ} {seen : String → Option String}
  {name : String} {u w : V} (hev : setting.evaluator.Pure calls)
  (hu : setting.evaluator.IsText u) (hw : setting.evaluator.IsText w)

theorem ends_outputText {ev : Evaluator V W} {v : V} (h : ev.IsText v) (w : W) :
    ∃ s, Ends (outputText ev v) w (some s) w := by
  obtain ⟨s, hkind, htext⟩ := h
  refine ⟨s, ?_⟩
  rw [outputText, hkind]
  exact ends_bind_iff.2 ⟨s, w, htext w, ends_pure_iff.2 ⟨rfl, rfl⟩⟩

include hev hu hw

theorem mirrors_outputText {a b : V} (h : a = b ∨ a = u ∧ b = w) :
    Act.Mirrors calls (fun _ _ => True) (outputText setting.evaluator a)
      (outputText setting.evaluator b) := by
  rcases h with rfl | ⟨rfl, rfl⟩
  · exact (Follows.followsAs ((stable_compositional hev).outputText a)).mono fun _ _ _ => trivial
  · intro s s' r t _ _ run
    obtain ⟨text, hends⟩ := ends_outputText hu s
    obtain ⟨text', hends'⟩ := ends_outputText hw s'
    obtain ⟨rfl, rfl⟩ := ends_unique hends run
    exact ⟨some text', s', [], hends', trivial, adds_nil s, adds_nil s'⟩

theorem mirrors_pieceText (scope : Scope V) {p : Piece}
    (hp : ∀ caught source, p = .hit caught → groupText? caught 1 = some source →
      Reads setting calls name source) :
    Act.Mirrors calls (fun _ _ => True) (pieceText setting.evaluator (scope.rebind name u) p)
      (pieceText setting.evaluator (scope.rebind name w) p) := by
  cases p with
  | plain text => exact followsAs_pure trivial
  | hit caught =>
    have shown (a b : V) (h : a = b ∨ a = u ∧ b = w) :
        Act.Mirrors calls (fun _ _ => True)
          (do return (← outputText setting.evaluator a).getD "")
          (do return (← outputText setting.evaluator b).getD "") :=
      followsAs_bind (mirrors_outputText hev hu hw h) fun _ _ _ => followsAs_pure trivial
    rw [pieceText, pieceText]
    split
    · rename_i source hsource
      exact followsAs_bind (hp caught source rfl hsource scope u w hu hw) shown
    · exact followsAs_bind (Follows.followsAs hev.evaluateUncaught) fun a b h => shown a b (.inl h)

theorem mirrors_pieceTexts (scope : Scope V) (ps : List Piece)
    (hps : ∀ caught source, .hit caught ∈ ps → groupText? caught 1 = some source →
      Reads setting calls name source) :
    Act.Mirrors calls (fun _ _ => True) (pieceTexts setting.evaluator (scope.rebind name u) ps)
      (pieceTexts setting.evaluator (scope.rebind name w) ps) := by
  induction ps with
  | nil => exact followsAs_pure trivial
  | cons p ps ih =>
    refine followsAs_bind (mirrors_pieceText hev hu hw scope fun caught source hp => ?_)
      fun _ _ _ => followsAs_bind (ih fun caught source hp => ?_)
        fun _ _ _ => followsAs_pure trivial
    · exact hps caught source (hp ▸ List.mem_cons_self)
    · exact hps caught source (List.mem_cons_of_mem p hp)

theorem mirrors_expandText (place : Place V) {data : String}
    (h : ReadsInTexts setting calls seen name (.text data)) :
    Expansion.Mirrors calls seen SameButTexts (expandText setting (place.rebind name u) data)
      (expandText setting (place.rebind name w) data) := by
  refine followsAs_bind (Expansion.mirrors_compute
    (mirrors_pieceTexts hev hu hw place.scope _ fun caught source hp => h caught source hp) _ _ _ _)
    fun _ _ _ => followsAs_pure rfl

omit hev in
theorem mirrors_evaluateAttrs {tag : String} {attrs : Attrs}
    (h : ElementIgnores setting calls seen name tag attrs) (place : Place V)
    (around : Attrs → List Node) :
    Expansion.Mirrors calls seen (fun a b => a = b ∧ MayHave setting attrs a)
      (evaluateAttrs setting (place.rebind name u) around attrs.names attrs)
      (evaluateAttrs setting (place.rebind name w) around attrs.names attrs) := by
  intro s s' a t hs hs' run
  obtain ⟨b, t', told, run', same, adds⟩ := h.attributes place around u w hu hw s s' a t hs hs' run
  exact ⟨b, t', told, run', ⟨same, _, _, s, t, run⟩, adds⟩

/-! ### Constructs -/

omit hev in
theorem mirrors_expandDynamic (place : Place V) {tag : String} {attrs : Attrs}
    (hsource : ∀ source, attrs.get? "tag" = some source → Ignores setting calls name source)
    (children : List Node) {inside inside' : Expansion W (List Node)}
    (hinside : Expansion.Mirrors calls seen SameButTexts inside inside') :
    Expansion.Mirrors calls seen SameButTexts
      (expandDynamic setting (place.rebind name u) tag attrs children inside)
      (expandDynamic setting (place.rebind name w) tag attrs children inside') := by
  unfold expandDynamic
  cases hget : attrs.get? "tag" with
  | none => exact followsAs_of_not_ends fun _ _ _ => Expansion.not_ends_refuse
  | some source =>
    have value := hsource source hget place.scope u w hu hw
    refine followsAs_bind (Expansion.mirrors_compute value _ _ _ _) ?_
    rintro v _ rfl
    refine followsAs_bind (Expansion.mirrors_within hinside _ _) fun cs cs' same => ?_
    dsimp only
    split
    · exact followsAs_pure same
    · split
      · exact followsAs_of_not_ends (not_ends_bind fun _ _ _ _ => Expansion.not_ends_refuse)
      · exact followsAs_pure (same.element _ _)
    · exact followsAs_of_not_ends (not_ends_bind fun _ _ _ _ => Expansion.not_ends_refuse)

theorem mirrors_chosenBranch? (scope : Scope V) (ns : List Node)
    (hns : ∀ n ∈ ns, n.hasTag "else" = false →
      Ignores setting calls name ((n.attrs.get? "condition").getD "")) :
    ∀ index, Act.Mirrors calls Eq
      (chosenBranch? setting.evaluator (scope.rebind name u) index ns)
      (chosenBranch? setting.evaluator (scope.rebind name w) index ns) := by
  induction ns with
  | nil => exact fun index => followsAs_pure rfl
  | cons n ns ih =>
    intro index
    rw [chosenBranch?, chosenBranch?]
    split
    · exact followsAs_pure rfl
    · rename_i notElse
      have value := hns n List.mem_cons_self (Bool.eq_false_iff.2 notElse) scope u w hu hw
      refine followsAs_bind value ?_
      rintro v _ rfl
      refine followsAs_get fun w₁ w₂ => ?_
      rw [hev.truth v w₁ w₂]
      split
      · exact followsAs_pure rfl
      · exact ih (fun m hm => hns m (List.mem_cons_of_mem n hm)) (index + 1)

theorem mirrors_equalCase? (scope : Scope V) (value : V) (ns : List Node)
    (hns : ∀ n ∈ ns, isComparedCase n = true →
      Ignores setting calls name ((n.attrs.get? "case").getD "")) :
    ∀ index, Act.Mirrors calls Eq
      (equalCase? setting.evaluator (scope.rebind name u) value index ns)
      (equalCase? setting.evaluator (scope.rebind name w) value index ns) := by
  induction ns with
  | nil => exact fun index => followsAs_pure rfl
  | cons n ns ih =>
    intro index
    have rest := ih fun m hm => hns m (List.mem_cons_of_mem n hm)
    rw [equalCase?, equalCase?]
    split
    · rename_i compared
      refine followsAs_bind (hns n List.mem_cons_self compared scope u w hu hw) ?_
      rintro v _ rfl
      refine followsAs_get fun w₁ w₂ => ?_
      rw [hev.same v value w₁ w₂]
      split
      · exact followsAs_pure rfl
      · exact rest (index + 1)
    · exact rest (index + 1)

/-- What is inside a node expands alike for both values of a variable. -/
structure Expandable.Mirrored (calls : W → List τ) (seen : String → Option String) (name : String)
    (u w : V) (e : Expandable V W) : Prop where
  inside : ∀ place : Place V, Expansion.Mirrors calls seen SameButTexts
    (e.inside (place.rebind name u)) (e.inside (place.rebind name w))
  insideChild : ∀ k (place : Place V), Expansion.Mirrors calls seen SameButTexts
    (e.insideChild k (place.rebind name u)) (e.insideChild k (place.rebind name w))

theorem mirrors_expandChain (place : Place V) {first : Expandable V W} {links : List (Link V W)}
    (hconditions : ∀ e ∈ first :: links.map Link.branch, lacksCondition e.node = false →
      e.node.hasTag "else" = false →
        Ignores setting calls name ((e.node.attrs.get? "condition").getD ""))
    (hinside : ∀ e ∈ first :: links.map Link.branch, e.Mirrored calls seen name u w) :
    Expansion.Mirrors calls seen SameButTexts
      (expandChain setting (place.rebind name u) first links)
      (expandChain setting (place.rebind name w) first links) := by
  unfold expandChain
  dsimp only
  split
  · exact followsAs_of_not_ends fun _ _ _ => Expansion.not_ends_refuse
  · rename_i complete
    have conditions : ∀ n ∈ (first :: links.map Link.branch).map Expandable.node,
        n.hasTag "else" = false →
          Ignores setting calls name ((n.attrs.get? "condition").getD "") := by
      intro n hn notElse
      obtain ⟨e, he, rfl⟩ := List.mem_map.1 hn
      exact hconditions e he (Bool.eq_false_iff.2 (List.find?_eq_none.1 complete e he)) notElse
    have choice := mirrors_chosenBranch? hev hu hw place.scope _ conditions 0
    refine followsAs_bind (Expansion.mirrors_compute choice _ _ _ _) ?_
    rintro chosen? _ rfl
    split
    · exact followsAs_pure rfl
    · rename_i k chosen found
      have inside := (hinside chosen (mem_of_chosen found)).inside (place.inner [])
      exact followsAs_bind (Expansion.mirrors_within inside _ _) fun body body' same =>
        followsAs_pure ((SameButTexts.append rfl same).append rfl)

theorem mirrors_expandSwitch (place : Place V) (tag : String) {attrs : Attrs}
    (hsource : ∀ source, attrs.get? "value" = some source → Ignores setting calls name source)
    {children : List Node} (hcases : ∀ n ∈ children, isComparedCase n = true →
      Ignores setting calls name ((n.attrs.get? "case").getD ""))
    {insideChild : Nat → Place V → Expansion W (List Node)}
    (hinside : ∀ k (place : Place V), Expansion.Mirrors calls seen SameButTexts
      (insideChild k (place.rebind name u)) (insideChild k (place.rebind name w))) :
    Expansion.Mirrors calls seen SameButTexts
      (expandSwitch setting (place.rebind name u) tag attrs children insideChild)
      (expandSwitch setting (place.rebind name w) tag attrs children insideChild) := by
  unfold expandSwitch
  dsimp only
  cases hget : attrs.get? "value" with
  | none => exact followsAs_of_not_ends fun _ _ _ => Expansion.not_ends_refuse
  | some source =>
    have compare : Act.Mirrors calls Eq
        (do
          let value ← setting.evaluator.evaluate source (place.scope.rebind name u)
          equalCase? setting.evaluator (place.scope.rebind name u) value 0 children)
        (do
          let value ← setting.evaluator.evaluate source (place.scope.rebind name w)
          equalCase? setting.evaluator (place.scope.rebind name w) value 0 children) := by
      refine followsAs_bind (hsource source hget place.scope u w hu hw) ?_
      rintro value _ rfl
      exact mirrors_equalCase? hev hu hw place.scope value children hcases 0
    refine followsAs_bind (Expansion.mirrors_compute compare _ _ _ _) ?_
    rintro equal? _ rfl
    split
    · exact followsAs_pure rfl
    · exact Expansion.mirrors_within (hinside _ place) _ _

omit hu hw in
theorem mirrors_expandRounds (place : Place V) (loop : Node) (items : V) (item : String)
    {inside : Place V → Expansion W (List Node)}
    (hinside : ∀ place : Place V, Expansion.Mirrors calls seen SameButTexts
      (inside (place.rebind name u)) (inside (place.rebind name w))) (fuel : Nat) :
    ∀ position, Expansion.Mirrors calls seen SameButTexts
      (expandRounds setting (place.rebind name u) loop items item inside fuel position)
      (expandRounds setting (place.rebind name w) loop items item inside fuel position) := by
  induction fuel with
  | zero => exact fun position => followsAs_of_not_ends fun _ _ _ => Expansion.not_ends_stop
  | succ fuel ih =>
    intro position
    rw [expandRounds, expandRounds]
    refine followsAs_bind (Expansion.mirrors_compute
      (Follows.followsAs (hev.member items position)) _ _ _ _) ?_
    rintro v? _ rfl
    split
    · exact followsAs_pure rfl
    · rename_i v
      split
      · refine followsAs_bind (Expansion.mirrors_apart (hinside (place.inner [(item, v)])) _ _)
          fun body body' same => followsAs_bind (ih (position + 1)) fun more more' same' => ?_
        exact followsAs_pure (same.append same')
      · exact followsAs_of_not_ends fun _ _ _ => Expansion.not_ends_stop

theorem mirrors_expandLoop (place : Place V) (tag : String) {attrs : Attrs}
    (hsource : ∀ source, attrs.get? "in" = some source → Ignores setting calls name source)
    (children : List Node) {inside : Place V → Expansion W (List Node)}
    (hinside : ∀ place : Place V, Expansion.Mirrors calls seen SameButTexts
      (inside (place.rebind name u)) (inside (place.rebind name w))) :
    Expansion.Mirrors calls seen SameButTexts
      (expandLoop setting (place.rebind name u) tag attrs children inside)
      (expandLoop setting (place.rebind name w) tag attrs children inside) := by
  unfold expandLoop
  dsimp only
  split
  · rename_i item source _ hget
    split
    · exact followsAs_of_not_ends fun _ _ _ => Expansion.not_ends_refuse
    · refine followsAs_bind (Expansion.mirrors_compute
        (hsource source hget place.scope u w hu hw) _ _ _ _) ?_
      rintro items _ rfl
      refine followsAs_bind (Expansion.mirrors_observe (hev.length items)) ?_
      rintro length? _ rfl
      split
      · exact mirrors_expandRounds hev place _ items item hinside _ 0
      · exact followsAs_of_not_ends (not_ends_bind fun _ _ _ _ => Expansion.not_ends_stop)
  · exact followsAs_of_not_ends fun _ _ _ => Expansion.not_ends_refuse

/-! ### Uses of components -/

section Deeper

variable {deeper : ForestExpansion V W} (hdeeper : ∀ (place : Place V) (forest : List Node),
    ReadOnlyInTexts setting calls seen name forest →
      Expansion.Mirrors calls seen SameButTexts (deeper (place.rebind name u) forest)
        (deeper (place.rebind name w) forest))
  (hcomponents : ComponentsReadInTexts setting calls seen name)

omit hev in
include hdeeper hcomponents in
theorem mirrors_expandSource (place : Place V) {use : Use} {source : String}
    (hsource : seen use.name = some source)
    (hscripts : ∀ forest, parse source = .ok forest → ScriptsIgnore setting calls name use.attrs
      ((forest.filter isServerScript).map scriptBody)) :
    Expansion.Mirrors calls seen (fun a b => SameButTexts a.1 b.1 ∧ a.2 = b.2)
      (expandSource setting deeper (place.rebind name u) use source)
      (expandSource setting deeper (place.rebind name w) use source) := by
  rintro s s' ⟨tree, left⟩ t hs hs' run
  obtain ⟨forest, scope, w₁, core, s₁, hparse, scripts, hcore, rfl, rfl⟩ :=
    ends_expandSource_iff.1 run
  obtain ⟨_, w₁', told, scripts', ⟨inner, left', same, rfl⟩, adds, adds'⟩ :=
    hscripts forest hparse place.scope u w hu hw s.world s'.world _ w₁ rfl rfl scripts
  obtain ⟨rfl, rfl⟩ := Prod.mk.inj same
  have rest : ReadOnlyInTexts setting calls seen name (forest.filter fun n => !isServerScript n) :=
    (hcomponents _ source forest hsource hparse).of_subset
      (Node.preorders_subset fun _ hn => (List.mem_filter.1 hn).1)
  obtain ⟨core', s₁', told', hcore', alike, adds₁, adds₁'⟩ :=
    hdeeper { scope := inner, stack := place.stack ++ [use.name] } _ rest
      { s with world := w₁, notes := [] } { s' with world := w₁', notes := [] } core s₁ hs hs' hcore
  have grown : calls s₁.world = calls s.world ++ (told ++ told') :=
    (adds₁.2.trans (congrArg (· ++ told') adds.2)).trans (List.append_assoc _ _ _)
  have grown' : calls s₁'.world = calls s'.world ++ (told ++ told') :=
    (adds₁'.2.trans (congrArg (· ++ told') adds'.2)).trans (List.append_assoc _ _ _)
  exact ⟨(_, left), _, told ++ told', ends_expandSource_iff.2
    ⟨forest, _, w₁', core', s₁', hparse, scripts', hcore', rfl, rfl⟩,
    ⟨alike.distribute _ _ _, rfl⟩, ⟨adds₁.1, grown⟩, ⟨adds₁'.1, grown'⟩⟩

omit hev in
include hdeeper hcomponents in
theorem mirrors_expandUse (place : Place V) {use : Use}
    (hscripts : ∀ source forest, seen use.name = some source → parse source = .ok forest →
      ScriptsIgnore setting calls name use.attrs ((forest.filter isServerScript).map scriptBody))
    {inside inside' : Expansion W (List Node)}
    (hinside : Expansion.Mirrors calls seen SameButTexts inside inside') :
    Expansion.Mirrors calls seen SameButTexts
      (expandUse setting deeper (place.rebind name u) use inside)
      (expandUse setting deeper (place.rebind name w) use inside') := by
  unfold expandUse
  dsimp only
  have stack (x : V) : (place.rebind name x).stack = place.stack := rfl
  rw [stack, stack]
  split
  · exact followsAs_of_not_ends fun _ _ _ => Expansion.not_ends_stop
  · refine followsAs_bind (Expansion.mirrors_findSource _ _ use) ?_
    rintro source _ ⟨rfl, hsource⟩
    refine followsAs_bind (mirrors_expandSource hu hw hdeeper hcomponents place hsource
      fun forest => hscripts source forest hsource) ?_
    rintro ⟨tree, left⟩ ⟨tree', _⟩ ⟨alike, rfl⟩
    refine followsAs_bind (Expansion.mirrors_within hinside _ _) fun given given' same => ?_
    cases hcontent : Content.ofNodes? setting.options.fillTag given with
    | none => exact followsAs_of_not_ends fun _ _ _ => Expansion.not_ends_refuse
    | some content =>
      obtain ⟨content', hcontent', muted⟩ := same.ofNodes? hcontent
      simp only [hcontent']
      cases hproject : project setting.options.yieldTag setting.options.slotTag content tree with
      | ok nodes =>
        obtain ⟨nodes', hproject', projected⟩ := alike.project muted hproject
        simp only [hproject']
        exact followsAs_pure projected
      | error e =>
        cases e <;> exact followsAs_of_not_ends fun _ _ _ => Expansion.not_ends_stop

/-! ### Nodes -/

omit hev hu hw in
theorem ignores_condition {tag : String} {attrs attrs' : Attrs} {children : List Node}
    (h : ElementIgnores setting calls seen name tag attrs)
    (hattrs : attrs' = attrs ∨ MayHave setting attrs attrs') (htag : tag = "if" ∨ tag = "elseif")
    (complete : lacksCondition (.element tag attrs' children) = false) :
    Ignores setting calls name ((attrs'.get? "condition").getD "") := by
  have hcondition : attrs'.has "condition" = true := by
    rcases htag with rfl | rfl <;>
      simpa [lacksCondition, Node.hasTag, Node.tag?, Node.attrs] using complete
  obtain ⟨source, hsource⟩ := Option.isSome_iff_exists.1 hcondition
  rw [hsource]
  exact h.steering attrs' hattrs "condition" source (.inl ⟨rfl, htag⟩) hsource

include hdeeper hcomponents in
theorem mirrors_expandElement (place : Place V) {tag : String} {attrs attrs' : Attrs}
    {children : List Node} (h : ElementIgnores setting calls seen name tag attrs)
    (hattrs : MayHave setting attrs attrs')
    (hchildren : ReadOnlyInTexts setting calls seen name children) {e : Expandable V W}
    (he : e.Mirrored calls seen name u w) :
    Expansion.Mirrors calls seen SameButTexts
      (expandElement setting deeper (place.rebind name u) tag attrs' children e)
      (expandElement setting deeper (place.rebind name w) tag attrs' children e) := by
  have steering := h.steering attrs' (.inr hattrs)
  unfold expandElement
  dsimp only
  split
  · exact followsAs_of_not_ends fun _ _ _ => Expansion.not_ends_refuse
  split
  · rename_i isSwitch
    refine mirrors_expandSwitch hev hu hw place tag
      (fun source => steering "value" source (.inr (.inl ⟨rfl, eq_of_beq isSwitch⟩)))
      (fun n hn compared => ?_) he.insideChild
    simp only [isComparedCase, Bool.and_eq_true] at compared
    have here := hchildren.readsInTexts hn
    cases n with
    | element t as cs =>
      obtain ⟨source, hsource⟩ := Option.isSome_iff_exists.1 compared.1.2
      have isCase : t = "case" := by simpa [Node.hasTag, Node.tag?] using compared.1.1
      change as.get? "case" = some source at hsource
      change Ignores setting calls name ((as.get? "case").getD "")
      rw [hsource]
      exact here.steering as (.inl rfl) "case" source (.inr (.inr (.inl ⟨rfl, isCase⟩))) hsource
    | _ => simp [Node.hasTag, Node.tag?] at compared
  split
  · rename_i isLoop
    exact mirrors_expandLoop hev hu hw place tag
      (fun source => steering "in" source (.inr (.inr (.inr (.inl ⟨rfl, eq_of_beq isLoop⟩)))))
      children he.inside
  split
  · rename_i isDynamic
    exact mirrors_expandDynamic hu hw place
      (fun source => steering "tag" source (.inr (.inr (.inr (.inr ⟨rfl, eq_of_beq isDynamic⟩)))))
      children (he.inside place)
  split
  · rename_i hUse
    split
    · rename_i use huse
      exact mirrors_expandUse hu hw hdeeper hcomponents place
        (fun source forest => h.scripts attrs' children use source forest hattrs hUse huse)
        (he.inside place)
    · exact followsAs_of_not_ends fun _ _ _ => Expansion.not_ends_refuse
  · exact followsAs_bind (Expansion.mirrors_within (he.inside place) _ _) fun cs cs' same =>
      followsAs_pure (same.element tag attrs')

include hdeeper hcomponents in
theorem mirrors_expandNode (place : Place V) {e : Expandable V W}
    (h : ReadOnlyInTexts setting calls seen name [e.node])
    (he : e.Mirrored calls seen name u w) :
    Expansion.Mirrors calls seen SameButTexts
      (expandNode setting deeper (place.rebind name u) e)
      (expandNode setting deeper (place.rebind name w) e) := by
  unfold expandNode
  cases hnode : e.node with
  | text data =>
    have here := h.readsInTexts List.mem_cons_self
    rw [hnode] at here
    exact mirrors_expandText hev hu hw place here
  | element tag attrs children =>
    rw [hnode] at h
    have here : ElementIgnores setting calls seen name tag attrs :=
      h.readsInTexts List.mem_cons_self
    refine followsAs_bind (mirrors_evaluateAttrs hu hw here (place.inner []) _) ?_
    rintro attrs' _ ⟨rfl, hattrs⟩
    exact mirrors_expandElement hev hu hw hdeeper hcomponents (place.inner []) here hattrs
      h.children he
  | _ => exact followsAs_pure rfl

/-! ### Rows -/

include hdeeper hcomponents in
theorem mirrors_expandItem (place : Place V) {item : RowItem V W} (formed : item.WellFormed)
    (branches : ∀ first links, item = .chain first links →
      ∀ e ∈ links.map Link.branch, isBranch e.node = true)
    (hitem : ∀ e ∈ item.parts, ReadOnlyInTexts setting calls seen name [e.node] ∧
      e.Mirrored calls seen name u w) :
    Expansion.Mirrors calls seen SameButTexts
      (expandItem setting deeper (place.rebind name u) item)
      (expandItem setting deeper (place.rebind name w) item) := by
  cases item with
  | single e =>
    obtain ⟨h, he⟩ := hitem e List.mem_cons_self
    exact mirrors_expandNode hev hu hw hdeeper hcomponents place h he
  | chain first links =>
    rw [expandItem, expandItem]
    obtain ⟨h, he⟩ := hitem first List.mem_cons_self
    cases hnode : first.node with
    | element tag attrs children =>
      rw [hnode] at h
      have isIf : tag = "if" := by simpa [hnode, Node.hasTag, Node.tag?] using formed.1
      have here : ElementIgnores setting calls seen name tag attrs :=
        h.readsInTexts List.mem_cons_self
      refine followsAs_bind (mirrors_evaluateAttrs hu hw here (place.inner []) _) ?_
      rintro attrs' _ ⟨rfl, hattrs⟩
      refine mirrors_expandChain hev hu hw (place.inner []) (fun e hmem complete notElse => ?_)
        fun e hmem => ?_
      · rcases List.mem_cons.1 hmem with rfl | hmem
        · exact ignores_condition here (.inr hattrs) (.inl isIf) complete
        · have branch := branches first links rfl e hmem
          have quiet := (hitem e (List.mem_cons_of_mem first hmem)).1.readsInTexts
            List.mem_cons_self
          cases hbranch : e.node with
          | element t as cs =>
            rw [hbranch] at branch complete notElse quiet
            rw [isBranch, notElse, Bool.or_false] at branch
            have isElseif : t = "elseif" := by simpa [Node.hasTag, Node.tag?] using branch
            exact ignores_condition quiet (.inl rfl) (.inr isElseif) complete
          | _ => simp [hbranch, isBranch, Node.hasTag, Node.tag?] at branch
      · rcases List.mem_cons.1 hmem with rfl | hmem
        · exact ⟨he.inside, he.insideChild⟩
        · exact (hitem e (List.mem_cons_of_mem first hmem)).2
    | _ => exact followsAs_pure rfl

omit hev hu hw in
theorem mirrors_expandItems (o : Options) {item item' : RowItem V W → Expansion W (List Node)}
    (row : List (RowItem V W))
    (hitem : ∀ i ∈ row, Expansion.Mirrors calls seen SameButTexts (item i) (item' i)) :
    Expansion.Mirrors calls seen SameButTexts (expandItems o item row)
      (expandItems o item' row) := by
  induction row with
  | nil => exact followsAs_pure rfl
  | cons i row ih =>
    rw [expandItems, expandItems]
    refine followsAs_bind (Expansion.mirrors_within (followsAs_bind (hitem i List.mem_cons_self)
      fun placed placed' same => followsAs_bind (Expansion.mirrors_noteStep o placed placed')
        fun _ _ _ => followsAs_pure same) _ _) fun placed placed' same => ?_
    have rest := ih fun j hj => hitem j (List.mem_cons_of_mem i hj)
    exact followsAs_bind (Expansion.mirrors_within rest _ _) fun more more' same' =>
      followsAs_pure (same.append same')

include hdeeper hcomponents in
theorem mirrors_expandRow (place : Place V) {es : List (Expandable V W)}
    (hes : ∀ e ∈ es, ReadOnlyInTexts setting calls seen name [e.node] ∧
      e.Mirrored calls seen name u w) :
    Expansion.Mirrors calls seen SameButTexts
      (expandRow setting deeper (place.rebind name u) es)
      (expandRow setting deeper (place.rebind name w) es) := by
  refine mirrors_expandItems _ _ fun i hi => ?_
  refine mirrors_expandItem hev hu hw hdeeper hcomponents place (wellFormed_rowOf es i hi)
    (fun first links hchain => ?_) fun e he => hes e (parts_rowOf es i hi e he)
  exact isBranch_rowOf es first links (hchain ▸ hi)

/-! ### Trees -/

include hdeeper hcomponents in
theorem mirrored_expandables {forest : List Node}
    (h : ReadOnlyInTexts setting calls seen name forest) :
    ∀ e ∈ expandables (expandRow setting deeper) forest,
      ReadOnlyInTexts setting calls seen name [e.node] ∧ e.Mirrored calls seen name u w := by
  have mirrored : ∀ e ∈ expandables (expandRow setting deeper) forest,
      ReadOnlyInTexts setting calls seen name [e.node] → e.Mirrored calls seen name u w := by
    refine expandables_induct (fun n _ _ => ⟨fun _ => followsAs_pure rfl,
      fun _ _ => followsAs_pure rfl⟩) (fun tag attrs children ih h => ?_) forest
    have inner : ∀ e ∈ expandables (expandRow setting deeper) children,
        ReadOnlyInTexts setting calls seen name [e.node] ∧ e.Mirrored calls seen name u w :=
      fun e he =>
        have quiet := (ReadOnlyInTexts.children h).of_mem (mem_of_mem_expandables he)
        ⟨quiet, ih e he quiet⟩
    refine ⟨fun place => mirrors_expandRow hev hu hw hdeeper hcomponents place inner,
      fun k place => ?_⟩
    dsimp only [expandable]
    split
    · rename_i e he
      exact (inner e (List.mem_of_getElem? he)).2.inside place
    · exact followsAs_pure rfl
  exact fun e he =>
    have quiet := h.of_mem (mem_of_mem_expandables he)
    ⟨quiet, mirrored e he quiet⟩

end Deeper

/-- Two expansions in which a variable that is read in texts alone has two texts for values go the
same way. -/
theorem mirrors_expandLevels (hcomponents : ComponentsReadInTexts setting calls seen name)
    (levels : Nat) : ∀ (place : Place V) (forest : List Node),
      ReadOnlyInTexts setting calls seen name forest →
        Expansion.Mirrors calls seen SameButTexts
          (expandLevels setting levels (place.rebind name u) forest)
          (expandLevels setting levels (place.rebind name w) forest) := by
  induction levels with
  | zero => exact fun place forest _ => followsAs_pure rfl
  | succ levels ih =>
    intro place forest h
    exact mirrors_expandRow hev hu hw ih hcomponents place
      (mirrored_expandables hev hu hw ih hcomponents h)

end Pass

end Expand

end HtmlTemplate
