import HtmlTemplate.Proofs.Compositional
import HtmlTemplate.Proofs.Uses

/-!
# Computations that do not depend on what came before

`Steady view log x` compares the runs of a computation `x` from two states with the same view: when
one ends, so does the other, with the same result; both leave the view as it was and add the same
entries to the log. `Evaluator.Pure` asks this of an evaluator, without any view, and
`Expansion.Stable` says it of expansions, with the answers of the registry for a view. For every way
to put computations together there is a rule. So with a pure evaluator every construct expands in the
same way whatever was expanded before it: `stable_compositional` says that this is a property that
composes.
-/

namespace HtmlTemplate.Expand

open HtmlTemplate.Markup HtmlTemplate.Component

section Steady

variable {ε σ ρ τ α β : Type} {view : σ → ρ} {log : σ → List τ}

/-- A run from one state to another leaves the view as it was and adds the given entries to the log.
-/
def Adds (view : σ → ρ) (log : σ → List τ) (told : List τ) (s t : σ) : Prop :=
  view t = view s ∧ log t = log s ++ told

theorem adds_nil (s : σ) : Adds view log [] s s := ⟨rfl, (List.append_nil _).symm⟩

theorem Adds.trans {told told' : List τ} {s t u : σ} (h : Adds view log told s t)
    (h' : Adds view log told' t u) : Adds view log (told ++ told') s u :=
  ⟨h'.1.trans h.1, by rw [h'.2, h.2, List.append_assoc]⟩

/-- Where one computation ends, another one ends with the same result from every state with the same
view; both keep the view and add the same entries to the log. -/
def Follows (view : σ → ρ) (log : σ → List τ) (x y : ExceptT ε (StateM σ) α) : Prop :=
  ∀ s s' a t, view s = view s' → Ends x s a t →
    ∃ t' told, Ends y s' a t' ∧ Adds view log told s t ∧ Adds view log told s' t'

/-- A computation depends on nothing but the view. -/
abbrev Steady (view : σ → ρ) (log : σ → List τ) (x : ExceptT ε (StateM σ) α) : Prop :=
  Follows view log x x

theorem follows_bind {x x' : ExceptT ε (StateM σ) α} {f f' : α → ExceptT ε (StateM σ) β}
    (hx : Follows view log x x') (hf : ∀ a, Follows view log (f a) (f' a)) :
    Follows view log (x >>= f) (x' >>= f') := by
  intro s s' b t hview h
  obtain ⟨a, s₁, hxs, hfs⟩ := ends_bind_iff.1 h
  obtain ⟨s₁', told, hxs', adds, adds'⟩ := hx s s' a s₁ hview hxs
  have hview₁ : view s₁ = view s₁' := by rw [adds.1, adds'.1, hview]
  obtain ⟨t', told', hfs', adds₁, adds₁'⟩ := hf a s₁ s₁' b t hview₁ hfs
  exact ⟨t', told ++ told', ends_bind_iff.2 ⟨a, s₁', hxs', hfs'⟩, adds.trans adds₁,
    adds'.trans adds₁'⟩

theorem steady_pure (a : α) : Steady view log (pure a : ExceptT ε (StateM σ) α) := by
  intro s s' b t _ h
  obtain ⟨rfl, rfl⟩ := ends_pure_iff.1 h
  exact ⟨s', [], ends_pure_iff.2 ⟨rfl, rfl⟩, adds_nil s, adds_nil s'⟩

theorem steady_bind {x : ExceptT ε (StateM σ) α} {f : α → ExceptT ε (StateM σ) β}
    (hx : Steady view log x) (hf : ∀ a, Steady view log (f a)) : Steady view log (x >>= f) :=
  follows_bind hx hf

theorem Follows.trans {x y z : ExceptT ε (StateM σ) α} (h : Follows view log x y)
    (h' : Follows view log y z) : Follows view log x z := by
  intro s s' a t hview run
  obtain ⟨u, told, hy, adds, addsu⟩ := h s s' a t hview run
  obtain ⟨t', told', hz, addsu', adds'⟩ := h' s' s' a u rfl hy
  obtain rfl : told = told' := List.append_cancel_left (addsu.2.symm.trans addsu'.2)
  exact ⟨t', told, hz, adds, adds'⟩

/-- Nothing is asked of a computation that always fails. -/
theorem steady_of_not_ends {x : ExceptT ε (StateM σ) α} (h : ∀ s a t, ¬ Ends x s a t) :
    Steady view log x :=
  fun s _ a t _ run => absurd run (h s a t)

/-- What is read off the state may be used as far as it depends on the view alone. -/
theorem steady_get {f : σ → ExceptT ε (StateM σ) α} (hview : ∀ s s', view s = view s' → f s = f s')
    (hf : ∀ s, Steady view log (f s)) : Steady view log (get >>= f) := by
  intro s s' a t h run
  obtain ⟨t', told, hfs', adds⟩ := hf s s s' a t h (ends_get_bind_iff.1 run)
  rw [hview s s' h] at hfs'
  exact ⟨t', told, ends_get_bind_iff.2 hfs', adds⟩

end Steady

/-! ### Pure evaluators -/

variable {V W τ α β : Type}

/-- The computation of an evaluator does not depend on what was computed before; `calls` is a record
of what the evaluator was handed. -/
abbrev Act.Settled (calls : W → List τ) (x : Act W α) : Prop :=
  Steady (fun _ => ()) calls x

/-- Values depend on nothing but their sources and the visible bindings, and all else depends on
nothing but the values. -/
structure Evaluator.Pure (ev : Evaluator V W) (calls : W → List τ) : Prop where
  evaluate : ∀ source, ∃ f : Bindings V → Act W V,
    (∀ scope, ev.evaluate source scope = f scope.flatten) ∧
      ∀ visible, Act.Settled calls (f visible)
  evaluateUncaught : Act.Settled calls ev.evaluateUncaught
  scripts : ∀ given scope sources, Act.Settled calls (runScripts ev given scope sources)
  text : ∀ v, Act.Settled calls (ev.text v)
  member : ∀ v position, Act.Settled calls (ev.member? v position)
  truth : ∀ v w w', ev.truth v w = ev.truth v w'
  same : ∀ u v w w', ev.same u v w = ev.same u v w'
  length : ∀ v w w', ev.length? v w = ev.length? v w'

theorem Evaluator.Pure.settled {ev : Evaluator V W} {calls : W → List τ} (pure : ev.Pure calls)
    (source : String) (scope : Scope V) : Act.Settled calls (ev.evaluate source scope) := by
  obtain ⟨f, hf, settled⟩ := pure.evaluate source
  rw [hf]
  exact settled scope.flatten

/-- The evaluator keeps a record of the expressions that it is handed. -/
def Evaluator.Records (ev : Evaluator V W) (calls : W → List String) : Prop :=
  ∀ source scope w v w', Ends (ev.evaluate source scope) w v w' → calls w' = calls w ++ [source]

/-! ### Expansions -/

namespace Expansion

/-- What the registry answers in a state. -/
abbrev answers (s : State W) : String → Option String := s.registry.answer?

/-- An expansion does not depend on what was expanded before, as long as the registry answers the
same. -/
abbrev Stable (calls : W → List τ) (x : Expansion W α) : Prop :=
  Steady answers (calls ·.world) x

variable {calls : W → List τ}

theorem stable_stop (place : Place V) (left : List Node) (fault : Fault) :
    Stable calls (stop place left fault : Expansion W α) :=
  steady_of_not_ends fun _ _ _ => not_ends_stop

theorem stable_compute {x : Act W α} (hx : Act.Settled calls x) (place : Place V)
    (left : List Node) : Stable calls (compute place left x) := by
  intro s s' a t _ run
  obtain ⟨w, hw, rfl⟩ := ends_compute_iff.1 run
  obtain ⟨w', told, hw', adds, adds'⟩ := hx s.world s'.world a w rfl hw
  exact ⟨_, told, ends_compute_iff.2 ⟨w', hw', rfl⟩, ⟨rfl, adds.2⟩, ⟨rfl, adds'.2⟩⟩

theorem stable_observe {f : W → α} (hf : ∀ w w', f w = f w') : Stable calls (observe f) := by
  intro s s' a t _ run
  obtain ⟨rfl, rfl⟩ := ends_observe_iff.1 run
  exact ⟨s', [], ends_observe_iff.2 ⟨hf _ _, rfl⟩, adds_nil s, adds_nil s'⟩

theorem follows_within_left {x y : Expansion W α} (h : Follows answers (calls ·.world) x y)
    (f : List Node → List Node) : Follows answers (calls ·.world) (within f x) y := by
  intro s s' a t hview run
  obtain ⟨s₁, hs, rfl⟩ := ends_within_iff.1 run
  obtain ⟨t', told, hs', adds⟩ := h { s with notes := [] } s' a s₁ hview hs
  exact ⟨t', told, hs', adds⟩

theorem follows_within_right {x y : Expansion W α} (h : Follows answers (calls ·.world) x y)
    (f : List Node → List Node) : Follows answers (calls ·.world) x (within f y) := by
  intro s s' a t hview run
  obtain ⟨t', told, hs', adds⟩ := h s { s' with notes := [] } a t hview run
  exact ⟨_, told, ends_within_iff.2 ⟨t', hs', rfl⟩, adds⟩

theorem stable_within {x : Expansion W α} (hx : Stable calls x) (f : List Node → List Node) :
    Stable calls (within f x) :=
  follows_within_left (follows_within_right hx f) f

theorem stable_whole {x : Expansion W α} (hx : Stable calls x) : Stable calls (whole x) := by
  intro s s' a t hview run
  obtain ⟨s₁, hs, rfl⟩ := ends_whole_iff.1 run
  obtain ⟨s₁', told, hs', adds⟩ := hx { s with notes := [] } { s' with notes := [] } a s₁ hview hs
  exact ⟨_, told, ends_whole_iff.2 ⟨s₁', hs', rfl⟩, adds⟩

theorem stable_apart {x : Expansion W α} (hx : Stable calls x) (left : W → List Node) :
    Stable calls (apart left x) := by
  intro s s' a t hview run
  obtain ⟨t', told, hs', adds⟩ := stable_whole hx s s' a t hview (ends_apart_iff.1 run)
  exact ⟨t', told, ends_apart_iff.2 hs', adds⟩

theorem adds_of_same {s t : State W} (world : t.world = s.world)
    (registry : t.registry = s.registry) :
    Adds answers (calls ·.world) [] s t :=
  ⟨congrArg RegistryState.answer? registry, by rw [List.append_nil]; exact congrArg calls world⟩

theorem stable_noteStep (o : Options) (forest : List Node) :
    Stable calls (noteStep o forest : Expansion W Unit) := by
  intro s s' u t _ run
  obtain ⟨t', run'⟩ := exists_ends_noteStep o forest s'
  obtain ⟨world, registry⟩ := ends_noteStep run
  obtain ⟨world', registry'⟩ := ends_noteStep run'
  exact ⟨t', [], run', adds_of_same world registry, adds_of_same world' registry'⟩

end Expansion

/-! ### Expansion with a pure evaluator -/

section PureExpansion

open Expansion

variable {V W τ : Type} {calls : W → List τ} {setting : Setting V W}

theorem stable_findSource (place : Place V) (u : Use) :
    Stable calls (findSource place u : Expansion W String) := by
  intro s s' source t hview run
  obtain ⟨r, hr, rfl⟩ := ends_findSource_iff.1 run
  obtain ⟨answer, kept⟩ := Lookup.answer?_of_ends_source hr
  have answer' : RegistryState.answer? { s'.registry with log := [] } u.name = some source := by
    rw [← answer]
    exact (congrFun hview u.name).symm
  obtain ⟨r', hr'⟩ := Lookup.exists_ends_source answer'
  have kept' := (Lookup.answer?_of_ends_source hr').2
  exact ⟨_, [], ends_findSource_iff.2 ⟨r', hr', rfl⟩, ⟨kept, (List.append_nil _).symm⟩,
    ⟨kept', (List.append_nil _).symm⟩⟩

section Pure

variable (hev : setting.evaluator.Pure calls)
include hev

theorem stable_expandSource {deeper : ForestExpansion V W}
    (hdeeper : ∀ place forest, Stable calls (deeper place forest)) (place : Place V) (u : Use)
    (source : String) : Stable calls (expandSource setting deeper place u source) := by
  rintro s s' ⟨tree, left⟩ t hview run
  obtain ⟨forest, scope, w, core, s₁, hparse, hscripts, hcore, rfl, rfl⟩ :=
    ends_expandSource_iff.1 run
  obtain ⟨w', told, hscripts', adds, adds'⟩ := hev.scripts _ _ _ _ s'.world _ _ rfl hscripts
  obtain ⟨s₁', told', hcore', adds₁, adds₁'⟩ :=
    hdeeper _ _ { s with world := w, notes := [] } { s' with world := w', notes := [] } core s₁
      hview hcore
  have grown : calls s₁.world = calls s.world ++ (told ++ told') :=
    (adds₁.2.trans (congrArg (· ++ told') adds.2)).trans (List.append_assoc _ _ _)
  have grown' : calls s₁'.world = calls s'.world ++ (told ++ told') :=
    (adds₁'.2.trans (congrArg (· ++ told') adds'.2)).trans (List.append_assoc _ _ _)
  exact ⟨_, told ++ told', ends_expandSource_iff.2
    ⟨forest, scope, w', core, s₁', hparse, hscripts', hcore', rfl, rfl⟩, ⟨adds₁.1, grown⟩,
    ⟨adds₁'.1, grown'⟩⟩

/-- Not to depend on what was expanded before is a property that composes. -/
theorem stable_compositional :
    Compositional setting (Act.Settled calls) (Stable calls) where
  act_pure := steady_pure
  act_bind := steady_bind
  act_truth v _ _ _ hx hy := by
    refine steady_get (fun w w' _ => by rw [hev.truth v w w']) fun w => ?_
    split
    · exact hx
    · exact hy
  act_same u v _ _ _ hx hy := by
    refine steady_get (fun w w' _ => by rw [hev.same u v w w']) fun w => ?_
    split
    · exact hx
    · exact hy
  act_evaluate := hev.settled
  act_evaluateUncaught := hev.evaluateUncaught
  act_text := hev.text
  act_member := hev.member
  of_pure := steady_pure
  of_bind := steady_bind
  of_stop place left fault := stable_stop place left fault
  of_stop_shown _ _ _ _ := steady_of_not_ends (not_ends_bind fun _ _ _ _ => not_ends_stop)
  of_compute place left _ _ hx := stable_compute hx place left
  of_length v := stable_observe fun w w' => hev.length v w w'
  of_within f _ _ hx := stable_within hx f
  of_apart left _ _ hx := stable_apart hx left
  of_noteStep := stable_noteStep setting.options
  of_findSource := stable_findSource
  of_expandSource place u source hdeeper := stable_expandSource hev hdeeper place u source

/-- With a pure evaluator the expansion of a forest does not depend on what was expanded before. -/
theorem stable_expandLevels (levels : Nat) (place : Place V) (forest : List Node) :
    Stable calls (expandLevels setting levels place forest) :=
  (stable_compositional hev).expandLevels levels place forest

end Pure

end PureExpansion

end HtmlTemplate.Expand
