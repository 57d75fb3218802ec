import HtmlTemplate.Proofs.Compositional
import HtmlTemplate.Proofs.Uses

/-!
# Runs that stop

`Fails x s e s'` says that the computation `x`, started in the state `s`, fails with `e` in the state
`s'`; it is the other end that a run can come to beside `Ends`. `Arises setting stack stop` tells
where a stop comes from: it arises where the components of `stack` are being expanded, or in the
source of a component that is opened there, and so on inwards. Every stop of an expansion arises at
the place where the expansion was started (`arises_expandLevels`), so that what holds of all stops is
proved along the few ways in which one can arise.
-/

namespace HtmlTemplate.Expand

open HtmlTemplate.Markup HtmlTemplate.Component Expansion

/-! ### Failing runs -/

section Fails

variable {ε σ α β : Type}

/-- A computation that is started in one state fails in another. -/
def Fails (x : ExceptT ε (StateM σ) α) (s : σ) (e : ε) (s' : σ) : Prop :=
  @Eq (Except ε α × σ) (x s) (.error e, s')

/-- Whenever a computation fails, the reason has a property. -/
def FailsAs (P : ε → Prop) (x : ExceptT ε (StateM σ) α) : Prop :=
  ∀ s e s', Fails x s e s' → P e

theorem ends_or_fails (x : ExceptT ε (StateM σ) α) (s : σ) :
    (∃ a t, Ends x s a t) ∨ ∃ e t, Fails x s e t := by
  unfold Ends Fails
  rcases (x s : Except ε α × σ) with ⟨e | a, t⟩
  · exact .inr ⟨e, t, rfl⟩
  · exact .inl ⟨a, t, rfl⟩

theorem not_fails_of_ends {x : ExceptT ε (StateM σ) α} {s s' t : σ} {a : α} {e : ε}
    (ends : Ends x s a s') : ¬ Fails x s e t := by
  intro fails
  cases ends.symm.trans fails

theorem fails_bind_iff {x : ExceptT ε (StateM σ) α} {f : α → ExceptT ε (StateM σ) β} {s s' : σ}
    {e : ε} : Fails (x >>= f) s e s' ↔
      Fails x s e s' ∨ ∃ a s₁, Ends x s a s₁ ∧ Fails (f a) s₁ e s' := by
  unfold Fails Ends
  rw [run_bind]
  rcases (x s : Except ε α × σ) with ⟨e' | a, s₁⟩
  · simp
  · simp only [Prod.mk.injEq, reduceCtorEq, false_and, false_or, Except.ok.injEq]
    exact ⟨fun h => ⟨a, s₁, ⟨rfl, rfl⟩, h⟩, by rintro ⟨_, _, ⟨rfl, rfl⟩, h⟩; exact h⟩

theorem fails_throw_iff {e e' : ε} {s s' : σ} :
    Fails (throw e : ExceptT ε (StateM σ) α) s e' s' ↔ e = e' ∧ s = s' := by
  change ((Except.error e : Except ε α), s) = (.error e', s') ↔ _
  simp

theorem not_fails_modify {f : σ → σ} {s s' : σ} {e : ε} :
    ¬ Fails (modify f : ExceptT ε (StateM σ) PUnit) s e s' := by
  intro fails
  cases fails

theorem failsAs_pure {P : ε → Prop} (a : α) :
    FailsAs P (pure a : ExceptT ε (StateM σ) α) :=
  fun _ _ _ fails => absurd fails (not_fails_of_ends (ends_pure_iff.2 ⟨rfl, rfl⟩))

theorem failsAs_bind {P : ε → Prop} {x : ExceptT ε (StateM σ) α}
    {f : α → ExceptT ε (StateM σ) β} (hx : FailsAs P x) (hf : ∀ a, FailsAs P (f a)) :
    FailsAs P (x >>= f) := by
  intro s e s' fails
  rcases fails_bind_iff.1 fails with first | ⟨a, s₁, -, later⟩
  · exact hx s e s' first
  · exact hf a s₁ e s' later

/-- A computation that always ends does not fail. -/
theorem failsAs_of_ends {P : ε → Prop} {x : ExceptT ε (StateM σ) α}
    (ends : ∀ s, ∃ a s', Ends x s a s') : FailsAs P x := by
  intro s e s' fails
  obtain ⟨a, t, run⟩ := ends s
  exact absurd fails (not_fails_of_ends run)

theorem FailsAs.mono {P Q : ε → Prop} {x : ExceptT ε (StateM σ) α} (h : FailsAs P x)
    (hPQ : ∀ e, P e → Q e) : FailsAs Q x :=
  fun s e s' fails => hPQ e (h s e s' fails)

end Fails

namespace Expansion

variable {V W α : Type}

theorem fails_stop_iff {place : Place V} {left : List Node} {fault : Fault} {s s' : State W}
    {stop : Stop} : Fails (Expansion.stop place left fault : Expansion W α) s stop s' ↔
      ⟨fault, place.stack, left⟩ = stop ∧ s = s' :=
  fails_throw_iff

theorem fails_compute_iff {place : Place V} {left : List Node} {x : Act W α} {s s' : State W}
    {stop : Stop} : Fails (compute place left x) s stop s' ↔
      ∃ f w, Fails x s.world f w ∧ ⟨f, place.stack, left⟩ = stop ∧
        { s with world := w } = s' := by
  change @Eq (Except Stop α × State W) (let r : Except Fault α × W := x s.world
    (r.1.mapError (⟨·, place.stack, left⟩), { s with world := r.2 })) _ ↔ _
  unfold Fails
  rcases (x s.world : Except Fault α × W) with ⟨e | b, w⟩
  · simp only [mapError_error, Prod.mk.injEq, Except.error.injEq]
    constructor
    · rintro ⟨rfl, rfl⟩
      exact ⟨e, w, ⟨rfl, rfl⟩, rfl, rfl⟩
    · rintro ⟨_, _, ⟨rfl, rfl⟩, rfl, rfl⟩
      exact ⟨rfl, rfl⟩
  · simp [mapError_ok]

theorem fails_within_iff {f : List Node → List Node} {x : Expansion W α} {s s' : State W}
    {stop : Stop} : Fails (within f x) s stop s' ↔ ∃ inner s₁,
      Fails x { s with notes := [] } inner s₁ ∧ { inner with left := f inner.left } = stop ∧
        { s₁ with notes := s₁.notes.map (Note.within f) ++ s.notes } = s' := by
  change @Eq (Except Stop α × State W) (let r : Except Stop α × State W := x { s with notes := [] }
    (r.1.mapError fun stop => { stop with left := f stop.left },
      { r.2 with notes := r.2.notes.map (Note.within f) ++ s.notes })) _ ↔ _
  unfold Fails
  rcases (x { s with notes := [] } : Except Stop α × State W) with ⟨e | b, s₁⟩
  · simp only [mapError_error, Prod.mk.injEq, Except.error.injEq]
    constructor
    · rintro ⟨rfl, rfl⟩
      exact ⟨e, s₁, ⟨rfl, rfl⟩, rfl, rfl⟩
    · rintro ⟨_, _, ⟨rfl, rfl⟩, rfl, rfl⟩
      exact ⟨rfl, rfl⟩
  · simp [mapError_ok]

theorem fails_whole_iff {x : Expansion W α} {s s' : State W} {stop : Stop} :
    Fails (whole x) s stop s' ↔ ∃ s₁, Fails x { s with notes := [] } stop s₁ ∧
      { s₁ with notes := s₁.notes.map Note.complete ++ s.notes } = s' := by
  change @Eq (Except Stop α × State W) (let r : Except Stop α × State W := x { s with notes := [] }
    (r.1, { r.2 with notes := r.2.notes.map Note.complete ++ s.notes })) _ ↔ _
  unfold Fails
  rcases (x { s with notes := [] } : Except Stop α × State W) with ⟨e | b, s₁⟩ <;> simp [and_assoc]

theorem fails_apart_iff {left : W → List Node} {x : Expansion W α} {s s' : State W} {stop : Stop} :
    Fails (apart left x) s stop s' ↔ ∃ inner, Fails (whole x) s inner s' ∧
      { inner with left := left s'.world } = stop := by
  change @Eq (Except Stop α × State W) (let r : Except Stop α × State W := whole x s
    (r.1.mapError fun stop => { stop with left := left r.2.world }, r.2)) _ ↔ _
  unfold Fails
  rcases (whole x s : Except Stop α × State W) with ⟨e | b, s₁⟩
  · simp only [mapError_error, Prod.mk.injEq, Except.error.injEq]
    constructor
    · rintro ⟨rfl, rfl⟩
      exact ⟨e, ⟨rfl, rfl⟩, rfl⟩
    · rintro ⟨inner, ⟨rfl, rfl⟩, rfl⟩
      exact ⟨rfl, rfl⟩
  · simp [mapError_ok]

theorem fails_attaching_iff {stack : List String} {x : Expansion W α} {s s' : State W}
    {stop : Stop} : Fails (attaching stack x) s stop s' ↔ ∃ inner, Fails x s inner s' ∧
      { inner with fault := inner.fault.attach stack } = stop := by
  change @Eq (Except Stop α × State W) (let r : Except Stop α × State W := x s
    (r.1.mapError fun stop => { stop with fault := stop.fault.attach stack }, r.2)) _ ↔ _
  unfold Fails
  rcases (x s : Except Stop α × State W) with ⟨e | b, s₁⟩
  · simp only [mapError_error, Prod.mk.injEq, Except.error.injEq]
    constructor
    · rintro ⟨rfl, rfl⟩
      exact ⟨e, ⟨rfl, rfl⟩, rfl⟩
    · rintro ⟨inner, ⟨rfl, rfl⟩, rfl⟩
      exact ⟨rfl, rfl⟩
  · simp [mapError_ok]

theorem failsAs_noteStep {P : Stop → Prop} (o : Options) (forest : List Node) :
    FailsAs P (noteStep o forest : Expansion W Unit) :=
  failsAs_of_ends fun s => ⟨(), exists_ends_noteStep o forest s⟩

theorem failsAs_observe {P : Stop → Prop} (f : W → α) : FailsAs P (observe f) :=
  failsAs_of_ends fun _ => ⟨_, _, ends_observe_iff.2 ⟨rfl, rfl⟩⟩

end Expansion

/-! ### Faults of evaluators -/

section Raises

variable {V W : Type}

/-- A computation of an evaluator fails with the fault. -/
inductive Evaluator.Raises (ev : Evaluator V W) : Fault → Prop
  | evaluate {source scope w f w'} (h : Fails (ev.evaluate source scope) w f w') : Raises ev f
  | uncaught {w f w'} (h : Fails ev.evaluateUncaught w f w') : Raises ev f
  | execute {source scope w f w'} (h : Fails (ev.execute source scope) w f w') : Raises ev f
  | text {v w f w'} (h : Fails (ev.text v) w f w') : Raises ev f
  | member {v i w f w'} (h : Fails (ev.member? v i) w f w') : Raises ev f
  | shown {v w f w'} (h : Fails (ev.shown v) w f w') : Raises ev f

variable (ev : Evaluator V W)

theorem failsAs_evaluate (source : String) (scope : Scope V) :
    FailsAs ev.Raises (ev.evaluate source scope) := fun _ _ _ h => .evaluate h

theorem failsAs_outputText (v : V) : FailsAs ev.Raises (outputText ev v) := by
  unfold outputText
  split
  · exact failsAs_pure none
  · exact failsAs_bind (fun _ _ _ h => .text h) fun s => failsAs_pure (some s)

theorem failsAs_pieceTexts (scope : Scope V) (ps : List Text.Piece) :
    FailsAs ev.Raises (pieceTexts ev scope ps) := by
  induction ps with
  | nil => exact failsAs_pure []
  | cons p ps ih =>
    refine failsAs_bind ?_ fun s => failsAs_bind ih fun texts => failsAs_pure (s :: texts)
    cases p with
    | plain text => exact failsAs_pure text
    | hit caught =>
      have output (v : V) : FailsAs ev.Raises (do
          return (← outputText ev v).getD "" : Act W String) :=
        failsAs_bind (failsAs_outputText ev v) fun s? => failsAs_pure (s?.getD "")
      unfold pieceText
      dsimp only
      cases Text.groupText? caught 1 with
      | some source => exact failsAs_bind (failsAs_evaluate ev source scope) output
      | none => exact failsAs_bind (fun _ _ _ h => .uncaught h) output

theorem failsAs_attributeText (source : String) (scope : Scope V) :
    FailsAs ev.Raises (attributeText ev source scope) := by
  refine failsAs_bind (failsAs_evaluate ev source scope) fun v => ?_
  split
  · exact failsAs_pure (some "")
  · exact failsAs_outputText ev v

theorem failsAs_chosenBranch? (scope : Scope V) (ns : List Node) :
    ∀ index, FailsAs ev.Raises (chosenBranch? ev scope index ns) := by
  induction ns with
  | nil => exact fun index => failsAs_pure none
  | cons n ns ih =>
    intro index
    rw [chosenBranch?]
    split
    · exact failsAs_pure (some index)
    · refine failsAs_bind (failsAs_evaluate ev _ scope) fun v => ?_
      refine failsAs_bind (failsAs_of_ends fun w => ⟨w, w, ends_get_iff.2 ⟨rfl, rfl⟩⟩) fun w => ?_
      split
      · exact failsAs_pure (some index)
      · exact ih (index + 1)

theorem failsAs_equalCase? (scope : Scope V) (value : V) (ns : List Node) :
    ∀ index, FailsAs ev.Raises (equalCase? ev scope value index ns) := by
  induction ns with
  | nil => exact fun index => failsAs_pure none
  | cons n ns ih =>
    intro index
    rw [equalCase?]
    split
    · refine failsAs_bind (failsAs_evaluate ev _ scope) fun v => ?_
      refine failsAs_bind (failsAs_of_ends fun w => ⟨w, w, ends_get_iff.2 ⟨rfl, rfl⟩⟩) fun w => ?_
      split
      · exact failsAs_pure (some index)
      · exact ih (index + 1)
    · exact ih (index + 1)

theorem failsAs_executeAll (sources : List String) :
    ∀ scope : Scope V, FailsAs ev.Raises (executeAll ev sources scope) := by
  induction sources with
  | nil => exact fun scope => failsAs_pure scope
  | cons source sources ih => exact fun scope => failsAs_bind (fun _ _ _ h => .execute h) ih

end Raises

/-! ### Where stops arise -/

variable {V W : Type}

/-- A fault does not say where it arose, or says that it arose where the given components are being
expanded. -/
def Fault.Placed (stack : List String) (fault : Fault) : Prop :=
  ∀ d, fault = .diagnostic d → d.stack = [] ∨ d.stack = stack

theorem placed_ofProblem (stack : List String) (p : Problem) : (Fault.ofProblem p).Placed stack := by
  intro d h
  cases h
  exact .inl rfl

/-- A fault that is no diagnostic says nothing about where it arose. -/
theorem placed_of_ne {stack : List String} {fault : Fault} (h : ∀ d, fault ≠ .diagnostic d) :
    fault.Placed stack := fun d same => absurd same (h d)

/-- The problem of a slot without a name in a component. -/
def slotProblem (o : Options) (stack : List String) : Diagnostic where
  problem := .missingAttribute o.slotTag ["name"]
  stack := stack

/-- A stop arises where the components of a stack are being expanded, or inside components that are
opened there. -/
inductive Arises (setting : Setting V W) : List String → Stop → Prop
  /-- Something that stands there is wrong. -/
  | here {stack fault} (left : List Node) (placed : Fault.Placed stack fault) :
    Arises setting stack ⟨fault, stack, left⟩
  /-- The evaluator fails there. -/
  | evaluator {stack fault} (left : List Node) (raised : setting.evaluator.Raises fault) :
    Arises setting stack ⟨fault, stack, left⟩
  /-- The source of a component that is opened there is no markup. -/
  | unreadable {stack name} (e : ScanError) (left : List Node)
    (opens : checkDepth setting.limit stack name = .ok ()) :
    Arises setting stack ⟨.unreadable e, stack ++ [name], left⟩
  /-- A slot in a component that is opened there has no name. -/
  | slot {stack name} (left : List Node) (opens : checkDepth setting.limit stack name = .ok ()) :
    Arises setting stack
      ⟨.diagnostic (slotProblem setting.options (stack ++ [name])), stack ++ [name], left⟩
  /-- The stop arises inside a component that is opened there. -/
  | inside {stack name stop} (left : List Node)
    (opens : checkDepth setting.limit stack name = .ok ())
    (deeper : Arises setting (stack ++ [name]) stop) :
    Arises setting stack ⟨stop.fault.attach (stack ++ [name]), stop.stack, left⟩

/-- What is left of the nodes has no part in where a stop arises. -/
theorem Arises.withLeft {setting : Setting V W} {stack : List String} {stop : Stop}
    (arises : Arises setting stack stop) (left : List Node) :
    Arises setting stack { stop with left := left } := by
  cases arises with
  | here _ placed => exact .here left placed
  | evaluator _ raised => exact .evaluator left raised
  | unreadable e _ opens => exact .unreadable e left opens
  | slot _ opens => exact .slot left opens
  | inside _ opens deeper => exact .inside left opens deeper

section Rules

variable {α : Type} {setting : Setting V W} {stack : List String} {place : Place V}

theorem arises_stop {fault : Fault} (placed : fault.Placed place.stack) (left : List Node) :
    FailsAs (Arises setting place.stack) (Expansion.stop place left fault : Expansion W α) := by
  intro s stop s' fails
  obtain ⟨rfl, -⟩ := fails_stop_iff.1 fails
  exact .here left placed

theorem arises_refuse (left : List Node) (p : Problem) :
    FailsAs (Arises setting place.stack) (refuse place left p : Expansion W α) :=
  arises_stop (placed_ofProblem place.stack p) left

theorem arises_compute {x : Act W α} (raises : FailsAs setting.evaluator.Raises x)
    (left : List Node) : FailsAs (Arises setting place.stack) (compute place left x) := by
  intro s stop s' fails
  obtain ⟨fault, w, failed, rfl, -⟩ := fails_compute_iff.1 fails
  exact .evaluator left (raises s.world fault w failed)

theorem arises_within {x : Expansion W α} (hx : FailsAs (Arises setting stack) x)
    (f : List Node → List Node) : FailsAs (Arises setting stack) (within f x) := by
  intro s stop s' fails
  obtain ⟨inner, s₁, failed, rfl, -⟩ := fails_within_iff.1 fails
  exact (hx _ inner s₁ failed).withLeft _

theorem arises_whole {x : Expansion W α} (hx : FailsAs (Arises setting stack) x) :
    FailsAs (Arises setting stack) (whole x) := by
  intro s stop s' fails
  obtain ⟨s₁, failed, -⟩ := fails_whole_iff.1 fails
  exact hx _ stop s₁ failed

theorem arises_apart {x : Expansion W α} (hx : FailsAs (Arises setting stack) x)
    (left : W → List Node) : FailsAs (Arises setting stack) (apart left x) := by
  intro s stop s' fails
  obtain ⟨inner, failed, rfl⟩ := fails_apart_iff.1 fails
  exact (arises_whole hx s inner s' failed).withLeft _

end Rules

/-! ### Uses of components -/

/-- What stops the use of a component: something about the use itself, its source, a script or a node
in its source, a slot in its tree, or a node in the content that it is used with. -/
inductive UseStops (setting : Setting V W) (deeper : ForestExpansion V W) (place : Place V) (u : Use)
    (inside : Expansion W (List Node)) : Stop → Prop
  | reference {fault} (left : List Node) (placed : Fault.Placed place.stack fault) :
    UseStops setting deeper place u inside ⟨fault, place.stack, left⟩
  | unreadable (e : ScanError) (left : List Node)
    (opens : checkDepth setting.limit place.stack u.name = .ok ()) :
    UseStops setting deeper place u inside ⟨.unreadable e, place.stack ++ [u.name], left⟩
  | script {fault} (left : List Node)
    (opens : checkDepth setting.limit place.stack u.name = .ok ())
    (raised : setting.evaluator.Raises fault) :
    UseStops setting deeper place u inside
      ⟨fault.attach (place.stack ++ [u.name]), place.stack ++ [u.name], left⟩
  | tree {scope forest s stop s'} (left : List Node)
    (opens : checkDepth setting.limit place.stack u.name = .ok ())
    (fails : Fails (deeper ⟨scope, place.stack ++ [u.name]⟩ forest) s stop s') :
    UseStops setting deeper place u inside
      ⟨stop.fault.attach (place.stack ++ [u.name]), stop.stack, left⟩
  | slot (left : List Node) (opens : checkDepth setting.limit place.stack u.name = .ok ()) :
    UseStops setting deeper place u inside
      ⟨.diagnostic (slotProblem setting.options (place.stack ++ [u.name])),
        place.stack ++ [u.name], left⟩
  | content {s stop s'} (left : List Node) (fails : Fails inside s stop s') :
    UseStops setting deeper place u inside ⟨stop.fault, stop.stack, left⟩

section Uses

variable {setting : Setting V W} {deeper : ForestExpansion V W} {place : Place V} {u : Use}
  {inside : Expansion W (List Node)} {s s' : State W} {stop : Stop}

theorem useStops_of_fails_findSource
    (fails : Fails (findSource place u : Expansion W String) s stop s') :
    UseStops setting deeper place u inside stop := by
  obtain found | ⟨result, s₁, -, fails⟩ := fails_bind_iff.1 fails
  · have ends : ∃ result s₁, Ends (lookup u.name : Expansion W _) s result s₁ := ⟨_, _, rfl⟩
    obtain ⟨result, s₁, ends⟩ := ends
    exact absurd found (not_fails_of_ends ends)
  · split at fails
    · exact absurd fails (not_fails_of_ends (ends_pure_iff.2 ⟨rfl, rfl⟩))
    · obtain ⟨rfl, -⟩ := fails_stop_iff.1 fails
      exact .reference _ fun d same => by
        cases same
        exact .inr rfl
    · obtain ⟨rfl, -⟩ := fails_stop_iff.1 fails
      exact .reference _ (placed_of_ne fun d => by simp)

theorem useStops_of_fails_expandSource {source : String}
    (opens : checkDepth setting.limit place.stack u.name = .ok ())
    (fails : Fails (expandSource setting deeper place u source) s stop s') :
    UseStops setting deeper place u inside stop := by
  unfold expandSource at fails
  dsimp only at fails
  split at fails
  · obtain ⟨rfl, -⟩ := fails_stop_iff.1 fails
    exact .unreadable _ _ opens
  · obtain opened | ⟨props, s₁, -, fails⟩ := fails_bind_iff.1 fails
    · exact absurd opened (not_fails_of_ends (ends_modifyGet_iff.2 rfl))
    obtain ⟨attached, aside, rfl⟩ := fails_attaching_iff.1 fails
    obtain ⟨inner, alone, rfl⟩ := fails_apart_iff.1 aside
    obtain ⟨s₂, body, -⟩ := fails_whole_iff.1 alone
    obtain run | ⟨scope, s₃, -, fails⟩ := fails_bind_iff.1 body
    · obtain ⟨fault, w, failed, rfl, -⟩ := fails_compute_iff.1 run
      exact .script _ opens (failsAs_executeAll setting.evaluator _ _ _ _ _ failed)
    obtain closed | ⟨_, s₄, -, fails⟩ := fails_bind_iff.1 fails
    · exact absurd closed not_fails_modify
    obtain observed | ⟨left, s₅, -, fails⟩ := fails_bind_iff.1 fails
    · exact absurd observed (not_fails_of_ends (ends_observe_iff.2 ⟨rfl, rfl⟩))
    obtain failed | ⟨tree, s₆, -, fails⟩ := fails_bind_iff.1 fails
    · dsimp only
      exact .tree _ opens failed
    · exact absurd fails (not_fails_of_ends (ends_pure_iff.2 ⟨rfl, rfl⟩))

/-- A use that stops has one of the reasons there are. -/
theorem useStops_of_fails (fails : Fails (expandUse setting deeper place u inside) s stop s') :
    UseStops setting deeper place u inside stop := by
  unfold expandUse at fails
  dsimp only at fails
  cases depth : checkDepth setting.limit place.stack u.name with
  | error d =>
    rw [depth] at fails
    obtain ⟨rfl, -⟩ := fails_stop_iff.1 fails
    unfold checkDepth at depth
    split at depth
    · cases depth
      exact .reference _ fun d same => by
        cases same
        exact .inr rfl
    · cases depth
  | ok opened =>
    rw [depth] at fails
    obtain found | ⟨source, s₁, -, fails⟩ := fails_bind_iff.1 fails
    · exact useStops_of_fails_findSource found
    obtain tree | ⟨⟨tree, attrs⟩, s₂, -, fails⟩ := fails_bind_iff.1 fails
    · exact useStops_of_fails_expandSource depth tree
    obtain content | ⟨content, s₃, -, fails⟩ := fails_bind_iff.1 fails
    · obtain ⟨inner, s₄, failed, rfl, -⟩ := fails_within_iff.1 content
      exact .content _ failed
    dsimp only at fails
    split at fails
    · obtain ⟨rfl, -⟩ := fails_stop_iff.1 fails
      exact .reference _ (placed_ofProblem _ _)
    split at fails
    · exact absurd fails (not_fails_of_ends (ends_pure_iff.2 ⟨rfl, rfl⟩))
    · obtain ⟨rfl, -⟩ := fails_stop_iff.1 fails
      exact .reference _ (placed_of_ne fun d => by simp)
    · obtain ⟨rfl, -⟩ := fails_stop_iff.1 fails
      exact .slot _ depth

end Uses

/-! ### Constructs -/

section Constructs

variable {setting : Setting V W} (place : Place V)

theorem arises_evaluateAttrs (around : Attrs → List Node) (names : List String) :
    ∀ attrs, FailsAs (Arises setting place.stack)
      (evaluateAttrs setting place around names attrs) := by
  induction names with
  | nil => exact fun attrs => failsAs_pure attrs
  | cons name names ih =>
    intro attrs
    rw [evaluateAttrs]
    split
    · rename_i source _ _
      have raises := failsAs_attributeText setting.evaluator source place.scope
      refine failsAs_bind (arises_compute raises _) fun value? => ?_
      split
      · exact ih _
      · exact ih _
    · exact ih attrs

theorem arises_expandText (data : String) :
    FailsAs (Arises setting place.stack) (expandText setting place data) :=
  failsAs_bind (arises_compute (failsAs_pieceTexts setting.evaluator place.scope _) _)
    fun _ => failsAs_pure _

theorem arises_expandDynamic (tag : String) (attrs : Attrs) (children : List Node)
    {inside : Expansion W (List Node)} (hinside : FailsAs (Arises setting place.stack) inside) :
    FailsAs (Arises setting place.stack)
      (expandDynamic setting place tag attrs children inside) := by
  unfold expandDynamic
  split
  · exact arises_refuse _ _
  · refine failsAs_bind (arises_compute (failsAs_evaluate setting.evaluator _ _) _) fun v => ?_
    refine failsAs_bind (arises_within hinside _) fun cs => ?_
    have unfit (left left' : List Node) (p : ShownValue → Problem) :
        FailsAs (Arises setting place.stack) (do
          let value ← compute place left (setting.evaluator.shown v)
          refuse place left' (p value) : Expansion W (List Node)) :=
      failsAs_bind (arises_compute (fun _ _ _ h => .shown h) left) fun value =>
        arises_refuse left' (p value)
    dsimp only
    split
    · exact failsAs_pure cs
    · split
      · exact unfit _ _ _
      · exact failsAs_pure _
    · exact unfit _ _ _

theorem arises_expandChain {first : Expandable V W} {links : List (Link V W)}
    (hinside : ∀ e ∈ first :: links.map Link.branch,
      FailsAs (Arises setting place.stack) (e.inside (place.inner []))) :
    FailsAs (Arises setting place.stack) (expandChain setting place first links) := by
  unfold expandChain
  dsimp only
  split
  · exact arises_refuse _ _
  · refine failsAs_bind
      (arises_compute (failsAs_chosenBranch? setting.evaluator _ _ _) _) fun chosen? => ?_
    split
    · exact failsAs_pure _
    · rename_i k chosen found
      exact failsAs_bind (arises_within (hinside chosen (mem_of_chosen found)) _)
        fun body => failsAs_pure _

theorem arises_expandSwitch (tag : String) (attrs : Attrs) (children : List Node)
    {insideChild : Nat → Place V → Expansion W (List Node)}
    (hinside : ∀ k, FailsAs (Arises setting place.stack) (insideChild k place)) :
    FailsAs (Arises setting place.stack)
      (expandSwitch setting place tag attrs children insideChild) := by
  unfold expandSwitch
  dsimp only
  split
  · exact arises_refuse _ _
  · rename_i source _
    have compares := failsAs_bind (failsAs_evaluate setting.evaluator source place.scope)
      fun value => failsAs_equalCase? setting.evaluator place.scope value children 0
    refine failsAs_bind (arises_compute compares _) fun equal? => ?_
    split
    · exact failsAs_pure []
    · exact arises_within (hinside _) _

theorem arises_expandRounds (loop : Node) (items : V) (name : String)
    {inside : Place V → Expansion W (List Node)}
    (hinside : ∀ place', place'.stack = place.stack →
      FailsAs (Arises setting place.stack) (inside place'))
    (fuel : Nat) : ∀ position, FailsAs (Arises setting place.stack)
      (expandRounds setting place loop items name inside fuel position) := by
  induction fuel with
  | zero => exact fun position => arises_stop (placed_of_ne fun d => by simp) _
  | succ fuel ih =>
    intro position
    rw [expandRounds]
    refine failsAs_bind (arises_compute (fun _ _ _ h => .member h) _) fun v? => ?_
    split
    · exact failsAs_pure []
    · split
      · exact failsAs_bind (arises_apart (hinside (place.inner _) rfl) _) fun body =>
          failsAs_bind (ih (position + 1)) fun more => failsAs_pure _
      · exact arises_stop (placed_of_ne fun d => by simp) _

theorem arises_expandLoop (tag : String) (attrs : Attrs) (children : List Node)
    {inside : Place V → Expansion W (List Node)}
    (hinside : ∀ place', place'.stack = place.stack →
      FailsAs (Arises setting place.stack) (inside place')) :
    FailsAs (Arises setting place.stack) (expandLoop setting place tag attrs children inside) := by
  unfold expandLoop
  dsimp only
  split
  · split
    · exact arises_refuse _ _
    · refine failsAs_bind (arises_compute (failsAs_evaluate setting.evaluator _ _) _) fun items => ?_
      refine failsAs_bind (failsAs_observe _) fun length? => ?_
      split
      · exact arises_expandRounds place _ items _ hinside _ 0
      · refine failsAs_bind (arises_compute (fun _ _ _ h => .shown h) _) fun value => ?_
        exact arises_stop (fun d same => .inl (by cases same; rfl)) _
  · exact arises_refuse _ _

end Constructs

/-! ### Trees -/

/-- Expanders all of whose stops arise where they are started. -/
def ArisesAll (setting : Setting V W) (F : ForestExpansion V W) : Prop :=
  ∀ place forest, FailsAs (Arises setting place.stack) (F place forest)

/-- All stops inside a node, at places with a stack, arise there. -/
def Expandable.Arises (setting : Setting V W) (stack : List String) (e : Expandable V W) : Prop :=
  ∀ place, place.stack = stack → FailsAs (Expand.Arises setting stack) (e.inside place) ∧
    ∀ k, FailsAs (Expand.Arises setting stack) (e.insideChild k place)

section Trees

variable {setting : Setting V W} {deeper : ForestExpansion V W} (place : Place V)

theorem arises_expandUse (hdeeper : ArisesAll setting deeper) (u : Use)
    {inside : Expansion W (List Node)} (hinside : FailsAs (Arises setting place.stack) inside) :
    FailsAs (Arises setting place.stack) (expandUse setting deeper place u inside) := by
  intro s stop s' fails
  cases useStops_of_fails fails with
  | reference left placed => exact .here left placed
  | unreadable e left opens => exact .unreadable e left opens
  | script left opens raised =>
    have deeper : Arises setting (place.stack ++ [u.name]) ⟨_, place.stack ++ [u.name], []⟩ :=
      .evaluator [] raised
    exact .inside left opens deeper
  | tree left opens failed => exact .inside left opens (hdeeper _ _ _ _ _ failed)
  | slot left opens => exact .slot left opens
  | content left failed => exact (hinside _ _ _ failed).withLeft left

theorem arises_expandElement (hdeeper : ArisesAll setting deeper) (tag : String) (attrs : Attrs)
    (children : List Node) {e : Expandable V W} (he : e.Arises setting place.stack) :
    FailsAs (Arises setting place.stack)
      (expandElement setting deeper place tag attrs children e) := by
  have inside := (he place rfl).1
  unfold expandElement
  dsimp only
  split
  · exact arises_refuse _ _
  split
  · exact arises_expandSwitch place tag attrs children (he place rfl).2
  split
  · exact arises_expandLoop place tag attrs children fun place' h => (he place' h).1
  split
  · exact arises_expandDynamic place tag attrs children inside
  split
  · split
    · exact arises_expandUse place hdeeper _ inside
    · exact arises_refuse _ _
  · exact failsAs_bind (arises_within inside _) fun cs => failsAs_pure _

theorem arises_expandItem (hdeeper : ArisesAll setting deeper) {item : RowItem V W}
    (hitem : ∀ e ∈ item.parts, e.Arises setting place.stack) :
    FailsAs (Arises setting place.stack) (expandItem setting deeper place item) := by
  cases item with
  | single e =>
    have he := hitem e List.mem_cons_self
    rw [expandItem, expandNode]
    cases e.node with
    | text data => exact arises_expandText place data
    | element tag attrs children =>
      exact failsAs_bind (arises_evaluateAttrs (place.inner []) _ _ attrs) fun attrs =>
        arises_expandElement (place.inner []) hdeeper tag attrs children he
    | _ => exact failsAs_pure _
  | chain first links =>
    rw [expandItem]
    cases first.node with
    | element tag attrs children =>
      refine failsAs_bind (arises_evaluateAttrs (place.inner []) _ _ attrs) fun attrs => ?_
      refine arises_expandChain (place.inner []) fun e he => ?_
      rcases List.mem_cons.1 he with rfl | he
      · exact (hitem first List.mem_cons_self ((place.inner []).inner []) rfl).1
      · exact (hitem e (List.mem_cons_of_mem first he) ((place.inner []).inner []) rfl).1
    | _ => exact failsAs_pure _

theorem arises_expandItems {stack : List String} (o : Options)
    {item : RowItem V W → Expansion W (List Node)} (row : List (RowItem V W))
    (hitem : ∀ i ∈ row, FailsAs (Arises setting stack) (item i)) :
    FailsAs (Arises setting stack) (expandItems o item row) := by
  induction row with
  | nil => exact failsAs_pure []
  | cons i row ih =>
    have first : FailsAs (Arises setting stack) (do
        let placed ← item i
        noteStep o placed
        return placed) :=
      failsAs_bind (hitem i List.mem_cons_self) fun placed =>
        failsAs_bind (failsAs_noteStep o placed) fun _ => failsAs_pure placed
    have later := ih fun j hj => hitem j (List.mem_cons_of_mem i hj)
    rw [expandItems]
    exact failsAs_bind (arises_within first _) fun placed =>
      failsAs_bind (arises_within later _) fun more => failsAs_pure _

theorem arises_expandRow (hdeeper : ArisesAll setting deeper) {es : List (Expandable V W)}
    (hes : ∀ e ∈ es, e.Arises setting place.stack) :
    FailsAs (Arises setting place.stack) (expandRow setting deeper place es) :=
  arises_expandItems setting.options (rowOf es) fun i hi =>
    arises_expandItem place hdeeper fun e he => hes e (parts_rowOf es i hi e he)

omit place in
theorem arises_expandables (hdeeper : ArisesAll setting deeper) (stack : List String)
    (ns : List Node) : ∀ e ∈ expandables (expandRow setting deeper) ns, e.Arises setting stack := by
  refine expandables_induct (fun n _ place _ => ⟨failsAs_pure [], fun _ => failsAs_pure []⟩)
    (fun tag attrs children hchildren place here => ?_) ns
  subst here
  refine ⟨arises_expandRow place hdeeper hchildren, fun k => ?_⟩
  dsimp only [expandable]
  split
  · rename_i e he
    exact (hchildren e (List.mem_of_getElem? he) place rfl).1
  · exact failsAs_pure []

omit place in
/-- However deep components nest, every stop arises where the expansion was started. -/
theorem arises_expandLevels (levels : Nat) : ArisesAll setting (expandLevels setting levels) := by
  induction levels with
  | zero => exact fun place forest => failsAs_pure forest
  | succ levels ih =>
    exact fun place forest => arises_expandRow place ih (arises_expandables ih place.stack forest)

end Trees

end HtmlTemplate.Expand
