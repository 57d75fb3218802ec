import HtmlTemplate.Compiler
import HtmlTemplate.Proofs.Coherence
import HtmlTemplate.Proofs.Compositional
import HtmlTemplate.Proofs.Uses

/-!
# Computations that come to the same again

`Reproduces agree seen x` compares all runs of a computation `x`, those that fail among them: from
states that agree it comes to the same, as far as the errors are seen, and leaves states that agree.
`Evaluator.Repeatable` asks of an evaluator that what it comes to does not depend on its state at
all. Then an expansion comes to the same from all states whose registries agree in what they give
(`repeats_expandLevels`); two such agreements are that coherent registries have the same sources, so
that the compilation of a template depends on nothing else (`repeats_compileSource`), and that
registries supply the same.
-/

namespace HtmlTemplate.Expand

open HtmlTemplate.Markup HtmlTemplate.Component

section Reproduces

variable {ε δ σ α β : Type} {agree : σ → σ → Prop} {seen : ε → δ}

/-- From states that agree a computation comes to the same, as far as its errors are seen, and
leaves states that agree. -/
def Reproduces (agree : σ → σ → Prop) (seen : ε → δ) (x : ExceptT ε (StateM σ) α) : Prop :=
  ∀ s s', agree s s' →
    (x s).1.mapError seen = (x s').1.mapError seen ∧ agree (x s).2 (x s').2

theorem reproduces_pure (a : α) : Reproduces agree seen (pure a : ExceptT ε (StateM σ) α) :=
  fun _ _ h => ⟨rfl, h⟩

theorem reproduces_throw (e : ε) : Reproduces agree seen (throw e : ExceptT ε (StateM σ) α) :=
  fun _ _ h => ⟨rfl, h⟩

theorem reproduces_bind {x : ExceptT ε (StateM σ) α} {f : α → ExceptT ε (StateM σ) β}
    (hx : Reproduces agree seen x) (hf : ∀ a, Reproduces agree seen (f a)) :
    Reproduces agree seen (x >>= f) := by
  intro s s' h
  have first := hx s s' h
  rw [run_bind, run_bind]
  cases run : (x s : Except ε α × σ) with
  | mk result s₁ =>
    cases run' : (x s' : Except ε α × σ) with
    | mk result' s₁' =>
      rw [run, run'] at first
      obtain ⟨same, h₁⟩ := first
      cases result with
      | error e =>
        cases result' with
        | error e' => exact ⟨congrArg Except.error (Except.error.inj same), h₁⟩
        | ok a' => cases same
      | ok a =>
        cases result' with
        | error e' => cases same
        | ok a' =>
          cases same
          exact hf a s₁ s₁' h₁

/-- What is read off the state may be used when all states that agree give the same. -/
theorem reproduces_get {f : σ → ExceptT ε (StateM σ) α} (same : ∀ s s', agree s s' → f s = f s')
    (hf : ∀ s, Reproduces agree seen (f s)) : Reproduces agree seen (get >>= f) := by
  intro s s' h
  rw [run_get_bind, run_get_bind, ← same s s' h]
  exact hf s s s' h

end Reproduces

/-! ### Evaluators -/

variable {V W α β : Type} {base : RegistryState}

/-- What a computation of an evaluator comes to does not depend on the state it starts in. -/
def Act.Repeats (x : Act W α) : Prop :=
  ∀ w w', @Eq (Except Fault α) (x w).1 (x w').1

theorem mapError_id {ε : Type} (r : Except ε α) : r.mapError id = r := by cases r <;> rfl

theorem Act.repeats_iff {x : Act W α} :
    Act.Repeats x ↔ Reproduces (fun _ _ => True) id x := by
  simp only [Act.Repeats, Reproduces, mapError_id, and_true, true_imp_iff]

/-- What an evaluator comes to depends on nothing but what it is asked. -/
structure Evaluator.Repeatable (ev : Evaluator V W) : Prop where
  evaluate : ∀ source scope, Act.Repeats (ev.evaluate source scope)
  evaluateUncaught : Act.Repeats ev.evaluateUncaught
  scripts : ∀ given scope sources, Act.Repeats (runScripts ev given scope sources)
  text : ∀ v, Act.Repeats (ev.text v)
  member : ∀ v position, Act.Repeats (ev.member? v position)
  shown : ∀ v, Act.Repeats (ev.shown v)
  truth : ∀ v w w', ev.truth v w = ev.truth v w'
  same : ∀ u v w w', ev.same u v w = ev.same u v w'
  length : ∀ v w w', ev.length? v w = ev.length? v w'

/-! ### Expansions -/

/-- The registries of two states are coherent and have the same sources. -/
def State.Agree (base : RegistryState) (s s' : State W) : Prop :=
  base.Serves s.registry ∧ base.Serves s'.registry

/-- The registries of two states supply the same. -/
def State.Supplied (supplies : String → Except LoadError String) (s s' : State W) : Prop :=
  s.registry.supplies = supplies ∧ s'.registry.supplies = supplies

namespace Expansion

/-- What an expansion comes to in a state: its result or its fault, and the registry afterwards.
What it leaves of the nodes when it stops is not looked at. -/
def outcome (x : Expansion W α) (s : State W) : Except Fault α × RegistryState :=
  ((x s).1.mapError Stop.fault, (x s).2.registry)

/-- From states that agree an expansion comes to the same. -/
abbrev Repeats (agree : State W → State W → Prop) (x : Expansion W α) : Prop :=
  Reproduces agree Stop.fault x

/-- States agree by what their registries give, and lookups keep that. -/
structure ByRegistry (agree : State W → State W → Prop) : Prop where
  congr : ∀ {s s' t t' : State W}, agree s s' → t.registry = s.registry →
    t'.registry = s'.registry → agree t t'
  lookup : ∀ name, Repeats agree (lookup name)

theorem outcome_compute (place : Place V) (left : List Node) (x : Act W α) (s : State W) :
    outcome (compute place left x) s = ((x s.world).1, s.registry) := by
  change (((x s.world).1.mapError _).mapError Stop.fault, s.registry) = _
  cases (x s.world).1 <;> rfl

theorem outcome_within (f : List Node → List Node) (x : Expansion W α) (s : State W) :
    outcome (within f x) s = outcome x { s with notes := [] } := by
  change (((x { s with notes := [] }).1.mapError _).mapError _, _) = _
  rw [outcome]
  cases (x { s with notes := [] }).1 <;> rfl

theorem outcome_whole (x : Expansion W α) (s : State W) :
    outcome (whole x) s = outcome x { s with notes := [] } := rfl

theorem outcome_apart (left : W → List Node) (x : Expansion W α) (s : State W) :
    outcome (apart left x) s = outcome x { s with notes := [] } := by
  change (((whole x s).1.mapError _).mapError _, _) = _
  rw [← outcome_whole, outcome]
  cases (whole x s).1 <;> rfl

theorem outcome_attaching (stack : List String) (x : Expansion W α) (s : State W) :
    outcome (attaching stack x) s =
      ((outcome x s).1.mapError (Fault.attach stack), (outcome x s).2) := by
  change (((x s).1.mapError _).mapError _, _) = _
  rw [outcome]
  cases (x s).1 <;> rfl

theorem outcome_bind (x : Expansion W α) (f : α → Expansion W β) (s : State W) :
    outcome (x >>= f) s = match (x s : Except Stop α × State W) with
      | (.ok a, s₁) => outcome (f a) s₁
      | (.error stop, s₁) => (.error stop.fault, s₁.registry) := by
  rw [outcome, run_bind]
  rcases (x s : Except Stop α × State W) with ⟨e | a, s₁⟩ <;> rfl

theorem outcome_compute_bind (place : Place V) (left : List Node) (x : Act W α)
    (f : α → Expansion W β) (s : State W) :
    outcome (compute place left x >>= f) s = match (x s.world : Except Fault α × W) with
      | (.ok a, w) => outcome (f a) { s with world := w }
      | (.error e, _) => (.error e, s.registry) := by
  have run : @Eq (Except Stop α × State W) (compute place left x s)
    ((x s.world).1.mapError (⟨·, place.stack, left⟩), { s with world := (x s.world).2 }) := rfl
  rw [outcome_bind, run]
  rcases (x s.world : Except Fault α × W) with ⟨e | a, w⟩ <;> rfl

theorem outcome_whole_bind_pure (x : Expansion W α) (f : α → β) (s : State W) :
    outcome (whole x >>= fun a => pure (f a)) s =
      outcome (x >>= fun a => pure (f a)) { s with notes := [] } := by
  have run : @Eq (Except Stop α × State W) (whole x s) ((x { s with notes := [] }).1,
    { (x { s with notes := [] }).2 with
      notes := (x { s with notes := [] }).2.notes.map Note.complete ++ s.notes }) := rfl
  rw [outcome_bind, outcome_bind, run]
  rcases (x { s with notes := [] } : Except Stop α × State W) with ⟨e | a, s₁⟩ <;> rfl

section ByRegistry

variable {agree : State W → State W → Prop} (by_registry : ByRegistry agree)
include by_registry

/-- What comes to the same as an expansion that repeats does so as well. -/
theorem repeats_of_outcome {x y : Expansion W α} (hx : Repeats agree x) (f : Fault → Fault)
    (g : State W → State W)
    (same : ∀ s, outcome y s = ((outcome x (g s)).1.mapError f, (outcome x (g s)).2))
    (hg : ∀ s, (g s).registry = s.registry) : Repeats agree y := by
  intro s s' h
  obtain ⟨again, kept⟩ := hx (g s) (g s') (by_registry.congr h (hg s) (hg s'))
  have again : (outcome x (g s)).1 = (outcome x (g s')).1 := again
  have registry (s : State W) : (y s).2.registry = (x (g s)).2.registry :=
    congrArg Prod.snd (same s)
  refine ⟨?_, by_registry.congr kept (registry s) (registry s')⟩
  show (outcome y s).1 = (outcome y s').1
  rw [same, same, again]

theorem repeats_compute {x : Act W α} (hx : Act.Repeats x) (place : Place V) (left : List Node) :
    Repeats agree (compute place left x) := by
  intro s s' h
  have again : (outcome (compute place left x) s).1 = (outcome (compute place left x) s').1 := by
    rw [outcome_compute, outcome_compute]
    exact hx s.world s'.world
  exact ⟨again, by_registry.congr h rfl rfl⟩

theorem repeats_within {x : Expansion W α} (hx : Repeats agree x) (f : List Node → List Node) :
    Repeats agree (within f x) :=
  repeats_of_outcome by_registry hx id (fun s => { s with notes := [] })
    (fun s => by rw [outcome_within, mapError_id]) fun _ => rfl

theorem repeats_whole {x : Expansion W α} (hx : Repeats agree x) : Repeats agree (whole x) :=
  repeats_of_outcome by_registry hx id (fun s => { s with notes := [] })
    (fun s => by rw [outcome_whole, mapError_id]) fun _ => rfl

theorem repeats_apart {x : Expansion W α} (hx : Repeats agree x) (left : W → List Node) :
    Repeats agree (apart left x) :=
  repeats_of_outcome by_registry hx id (fun s => { s with notes := [] })
    (fun s => by rw [outcome_apart, mapError_id]) fun _ => rfl

theorem repeats_attaching {x : Expansion W α} (hx : Repeats agree x) (stack : List String) :
    Repeats agree (attaching stack x) :=
  repeats_of_outcome by_registry hx (Fault.attach stack) id (outcome_attaching stack x) fun _ => rfl

theorem repeats_noteStep (o : Options) (forest : List Node) :
    Repeats agree (noteStep o forest : Expansion W Unit) := by
  unfold noteStep
  split
  · exact fun s s' h => ⟨rfl, by_registry.congr h rfl rfl⟩
  · exact reproduces_pure _

end ByRegistry

variable {agree : State W → State W → Prop}

theorem repeats_stop (place : Place V) (left : List Node) (fault : Fault) :
    Repeats agree (stop place left fault : Expansion W α) :=
  reproduces_throw _

/-- A coherent registry gives what it gives for a name, and stays what it is. -/
theorem ends_lookup {s : State W} (coherent : s.registry.Coherent) (name : String) :
    ∃ t, Ends (lookup name) s (s.registry.given name) t ∧ Retains s.registry t.registry := by
  obtain ⟨r, run, kept⟩ := Lookup.run_source (r := { s.registry with log := [] }) coherent name
  exact ⟨_, ends_lookup_iff.2 ⟨r, run, rfl⟩, kept.of_log⟩

theorem byRegistry_agree (base : RegistryState) :
    ByRegistry (State.Agree base : State W → State W → Prop) where
  congr h same same' := by
    rw [State.Agree, same, same']
    exact h
  lookup name := by
    intro s s' h
    obtain ⟨t, run, kept⟩ := ends_lookup h.1.coherent name
    obtain ⟨t', run', kept'⟩ := ends_lookup h.2.coherent name
    have run : @Eq (Except Stop _ × State W) (lookup name s) (.ok (s.registry.given name), t) := run
    have run' : @Eq (Except Stop _ × State W) (lookup name s') (.ok (s'.registry.given name), t') :=
      run'
    rw [run, run', h.1.same.given_eq, h.2.same.given_eq]
    exact ⟨rfl, h.1.retain kept, h.2.retain kept'⟩

theorem byRegistry_supplied (supplies : String → Except LoadError String) :
    ByRegistry (State.Supplied supplies : State W → State W → Prop) where
  congr h same same' := by
    rw [State.Supplied, same, same']
    exact h
  lookup name := by
    have found (s : State W) : ∃ t, Ends (lookup name) s (s.registry.supplies name) t ∧
        t.registry.supplies = s.registry.supplies := by
      obtain ⟨r, run, -, kept⟩ := Lookup.exists_run_source name { s.registry with log := [] }
      refine ⟨_, ends_lookup_iff.2 ⟨r, run, rfl⟩, ?_⟩
      exact (Lookup.supplies_congr rfl rfl).trans (kept.trans (Lookup.supplies_congr rfl rfl))
    intro s s' h
    obtain ⟨t, run, kept⟩ := found s
    obtain ⟨t', run', kept'⟩ := found s'
    rw [h.1] at run kept
    rw [h.2] at run' kept'
    have run : @Eq (Except Stop _ × State W) (lookup name s) (.ok (supplies name), t) := run
    have run' : @Eq (Except Stop _ × State W) (lookup name s') (.ok (supplies name), t') := run'
    rw [run, run']
    exact ⟨rfl, kept, kept'⟩

theorem repeats_findSource (by_registry : ByRegistry agree) (place : Place V) (u : Use) :
    Repeats agree (findSource place u : Expansion W String) := by
  refine reproduces_bind (by_registry.lookup u.name) fun result => ?_
  split
  · exact reproduces_pure _
  · exact repeats_stop _ _ _
  · exact repeats_stop _ _ _

theorem repeats_observe {f : W → α} (hf : ∀ w w', f w = f w') : Repeats agree (observe f) :=
  reproduces_get (fun _ _ _ => congrArg Pure.pure (hf _ _)) fun _ => reproduces_pure _

end Expansion

open Expansion

/-! ### Components -/

/-- The tree of a component, by its scripts taken together. -/
def scriptedSource (setting : Setting V W) (deeper : ForestExpansion V W) (place : Place V)
    (u : Use) (forest : List Node) : Expansion W (List Node × Attrs) :=
  let inner : Place V := { place with stack := place.stack ++ [u.name] }
  attaching inner.stack do
    let (scope, left) ← compute inner [] (runScripts setting.evaluator u.attrs place.scope
      ((forest.filter isServerScript).map scriptBody))
    let tree ← whole (deeper { inner with scope := scope }
      (forest.filter fun n => !isServerScript n))
    return (distribute setting.options.attrMarker
      (MergeRegistry.ofStrategies setting.options.strategies) left tree, left)

/-- The tree of a component comes to what its scripts, taken together, make of it. -/
theorem outcome_expandSource {setting : Setting V W} {deeper : ForestExpansion V W}
    {place : Place V} {u : Use} {source : String} {forest : List Node}
    (hparse : parse source = .ok forest) (s : State W) :
    outcome (expandSource setting deeper place u source) s =
      outcome (scriptedSource setting deeper place u forest) s := by
  let ev := setting.evaluator
  let inner : Place V := { place with stack := place.stack ++ [u.name] }
  let rest := forest.filter fun n => !isServerScript n
  let props := (ev.openProps u.attrs place.scope s.world).1
  let w := (ev.openProps u.attrs place.scope s.world).2
  let scripts := executeAll ev ((forest.filter isServerScript).map scriptBody)
    (place.scope.child [(propsName, props)])
  have opened : outcome (expandSource setting deeper place u source) s =
      outcome (attaching inner.stack (apart (fun w => u.node (ev.leftover props w) u.children) do
        let scope ← compute inner [] scripts
        modify fun s => { s with world := ev.closeProps props s.world }
        let left ← observe (ev.leftover props)
        let tree ← deeper { inner with scope := { scope with
          frame := Bindings.erase scope.frame propsName } } rest
        return (distribute setting.options.attrMarker
          (MergeRegistry.ofStrategies setting.options.strategies) left tree, left)))
        { s with world := w } := by
    rw [expandSource, hparse]
    rfl
  have ran : runScripts ev u.attrs place.scope ((forest.filter isServerScript).map scriptBody)
      s.world = (scripts >>= fun inner => do
        modify (ev.closeProps props)
        return ({ inner with frame := Bindings.erase inner.frame propsName },
          ev.leftover props (← get)) : Act W (Scope V × Attrs)) w := rfl
  rw [opened, scriptedSource, outcome_attaching, outcome_attaching, outcome_apart,
    outcome_compute_bind, outcome_compute_bind, ran, run_bind]
  rcases (scripts w : Except Fault (Scope V) × W) with ⟨e | scope, w'⟩
  · rfl
  · let s₁ : State W := { s with world := ev.closeProps props w', notes := [] }
    change ((outcome (deeper _ rest >>= _) s₁).1.mapError _, (outcome (deeper _ rest >>= _) s₁).2) =
      ((outcome (whole (deeper _ rest) >>= _) _).1.mapError _,
        (outcome (whole (deeper _ rest) >>= _) _).2)
    rw [outcome_whole_bind_pure]

section Repeatable

variable {setting : Setting V W} (hev : setting.evaluator.Repeatable)
  {agree : State W → State W → Prop} (by_registry : ByRegistry agree)
include hev

section ByRegistry

include by_registry

theorem repeats_expandSource {deeper : ForestExpansion V W} (place : Place V) (u : Use)
    (source : String) (hdeeper : ∀ place forest, Repeats agree (deeper place forest)) :
    Repeats agree (expandSource setting deeper place u source) := by
  cases hparse : parse source with
  | error e =>
    rw [expandSource, hparse]
    exact repeats_stop _ _ _
  | ok forest =>
    refine repeats_of_outcome by_registry (x := scriptedSource setting deeper place u forest) ?_ id id
      (fun s => by rw [outcome_expandSource hparse, mapError_id]; rfl) fun _ => rfl
    refine repeats_attaching by_registry (reproduces_bind
      (repeats_compute by_registry (hev.scripts _ _ _) _ _) fun ⟨scope, left⟩ => ?_) _
    exact reproduces_bind (repeats_whole by_registry (hdeeper _ _)) fun tree => reproduces_pure _

/-- To come to the same again is a property that composes. -/
theorem repeats_compositional : Compositional setting Act.Repeats (Repeats agree) where
  act_pure _ _ _ := rfl
  act_bind hx hf := Act.repeats_iff.2 (reproduces_bind (Act.repeats_iff.1 hx)
    fun a => Act.repeats_iff.1 (hf a))
  act_truth v _ _ _ hx hy := by
    refine Act.repeats_iff.2 (reproduces_get (fun w w' _ => by rw [hev.truth v w w']) fun w => ?_)
    split
    · exact Act.repeats_iff.1 hx
    · exact Act.repeats_iff.1 hy
  act_same u v _ _ _ hx hy := by
    refine Act.repeats_iff.2 (reproduces_get (fun w w' _ => by rw [hev.same u v w w']) fun w => ?_)
    split
    · exact Act.repeats_iff.1 hx
    · exact Act.repeats_iff.1 hy
  act_evaluate := hev.evaluate
  act_evaluateUncaught := hev.evaluateUncaught
  act_text := hev.text
  act_member := hev.member
  of_pure := reproduces_pure
  of_bind := reproduces_bind
  of_stop place left fault := repeats_stop place left fault
  of_stop_shown place left v fault _ :=
    reproduces_bind (repeats_compute by_registry (hev.shown v) place left) fun value => repeats_stop _ _ _
  of_compute place left _ _ hx := repeats_compute by_registry hx place left
  of_length v := repeats_observe fun w w' => hev.length v w w'
  of_within f _ _ hx := repeats_within by_registry hx f
  of_apart left _ _ hx := repeats_apart by_registry hx left
  of_noteStep := repeats_noteStep by_registry setting.options
  of_findSource := repeats_findSource by_registry
  of_expandSource := repeats_expandSource hev by_registry

theorem repeats_expandLevels (levels : Nat) (place : Place V) (forest : List Node) :
    Repeats agree (expandLevels setting levels place forest) :=
  (repeats_compositional hev by_registry).expandLevels levels place forest

end ByRegistry

/-! ### Templates -/

theorem repeats_expandForest (scope : Scope V) (forest : List Node) :
    Reproduces (State.Agree base) id (expandForest setting scope forest) := by
  intro s s' h
  obtain ⟨same, agree⟩ := repeats_whole (byRegistry_agree base) (repeats_expandLevels hev
    (byRegistry_agree base) (setting.limit.value.toNat + 1) { scope := scope } forest)
    { s with steps := 0 } { s' with steps := 0 } h
  exact ⟨congrArg (Except.mapError id) same, agree⟩

theorem repeats_compileForest (scope : Scope V) (forest : List Node) :
    Reproduces (State.Agree base) id (compileForest setting scope forest) := by
  refine reproduces_bind (repeats_expandForest hev scope forest) fun forest => ?_
  dsimp only
  split
  · exact reproduces_throw _
  · exact reproduces_pure _

/-- What the compilation of a template comes to depends on nothing but the sources of a coherent
registry. -/
theorem repeats_compileSource (scope : Scope V) (source : String) :
    Reproduces (State.Agree base) id (compileSource setting scope source) := by
  have note (n : Note) : Reproduces (State.Agree base) id (takeNote n : Compiling W Unit) :=
    fun s s' h => ⟨rfl, h⟩
  unfold compileSource
  split
  · exact reproduces_throw _
  · refine reproduces_bind (repeats_compileForest hev scope _) fun forest => ?_
    dsimp only
    split
    case' isTrue => refine reproduces_bind (note _) fun _ => ?_
    -- The output is laid out in the same way, whether it was noted or not.
    all_goals
      split
      · split
        · exact reproduces_bind (note _) fun _ => reproduces_pure _
        · exact reproduces_pure _
      · exact reproduces_pure _

end Repeatable

end HtmlTemplate.Expand
