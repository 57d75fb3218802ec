import HtmlTemplate.Compiler
import HtmlTemplate.Proofs.DepthGuard

/-!
# The components that an error names

A diagnostic that ends a compilation names the components that were being expanded when it arose, no
more and no fewer (`Compiler.compile_error_traced`). On its way out it passes the components around
it: the innermost of them records its stack in a diagnostic that has none, and the others leave it as
it is (`Arises.traced`). What is inside the content of a use is expanded where the use stands, so that
an error there does not name the component that the content is for.
-/

namespace HtmlTemplate

open HtmlTemplate.Markup HtmlTemplate.Expand HtmlTemplate.Expand.Expansion

variable {V W : Type}

namespace Expand

/-! ### Stacks on the way out -/

/-- A diagnostic that the evaluator raises with components of its own. -/
def Evaluator.Foreign (ev : Evaluator V W) (d : Diagnostic) : Prop :=
  d.stack ≠ [] ∧ ev.Raises (.diagnostic d)

/-- A stop below a place with a stack: more components may have been opened since, and a diagnostic
of the template names all that were being expanded when it arose, unless it names none and arose at
the place itself. -/
structure TracedFrom (ev : Evaluator V W) (stack : List String) (stop : Stop) : Prop where
  below : stack <+: stop.stack
  names : ∀ d, stop.fault = .diagnostic d → ¬ ev.Foreign d →
    d.stack = stop.stack ∨ d.stack = [] ∧ stop.stack = stack

theorem attach_of_ne_nil {d : Diagnostic} (named : d.stack ≠ []) (stack : List String) :
    d.attach stack = d := by
  unfold Diagnostic.attach
  rw [if_neg (by simpa using named)]

theorem attach_of_nil {d : Diagnostic} (unnamed : d.stack = []) (stack : List String) :
    d.attach stack = { d with stack := stack } := by
  unfold Diagnostic.attach
  rw [if_pos (by simpa using unnamed)]

/-- The diagnostic that leaves a component comes from one inside it. -/
theorem diagnostic_of_attach {fault : Fault} {stack : List String} {d : Diagnostic}
    (h : fault.attach stack = .diagnostic d) :
    ∃ inner, fault = .diagnostic inner ∧ d = inner.attach stack := by
  cases fault with
  | diagnostic inner => exact ⟨inner, rfl, (Fault.diagnostic.inj h).symm⟩
  | _ => cases h

theorem Arises.traced {setting : Setting V W} {stack : List String} {stop : Stop}
    (arises : Arises setting stack stop) : TracedFrom setting.evaluator stack stop := by
  induction arises with
  | here left placed =>
    refine ⟨List.prefix_refl _, fun d same _ => ?_⟩
    rcases placed d same with unnamed | named
    · exact .inr ⟨unnamed, rfl⟩
    · exact .inl named
  | evaluator left raised =>
    refine ⟨List.prefix_refl _, fun d same native => ?_⟩
    refine .inr ⟨?_, rfl⟩
    by_contra named
    exact native ⟨named, same ▸ raised⟩
  | unreadable e left opens =>
    refine ⟨List.prefix_append _ _, fun d same _ => ?_⟩
    cases same
  | slot left opens =>
    refine ⟨List.prefix_append _ _, fun d same _ => ?_⟩
    cases same
    exact .inl rfl
  | @inside stack name stop left opens deeper ih =>
    refine ⟨(List.prefix_append _ _).trans ih.below, fun d same native => .inl ?_⟩
    obtain ⟨inner, hinner, rfl⟩ := diagnostic_of_attach same
    by_cases unnamed : inner.stack = []
    · -- the component records its stack, which is that of the stop
      rw [attach_of_nil unnamed]
      have nativeInner : ¬ setting.evaluator.Foreign inner := fun foreign => foreign.1 unnamed
      rcases ih.names inner hinner nativeInner with named | ⟨-, here⟩
      · obtain ⟨rest, more⟩ := ih.below
        rw [← named, unnamed] at more
        simp at more
      · exact here.symm
    · -- the diagnostic names components already, and keeps them
      rw [attach_of_ne_nil unnamed] at native ⊢
      rcases ih.names inner hinner native with named | ⟨none, -⟩
      · exact named
      · exact absurd none unnamed

/-- Every stop of an expansion is traced from the place where the expansion was started. -/
theorem traced_expandLevels {setting : Setting V W} (levels : Nat) (place : Place V)
    (forest : List Node) :
    FailsAs (TracedFrom setting.evaluator place.stack) (expandLevels setting levels place forest) :=
  (arises_expandLevels levels place forest).mono fun _ arises => arises.traced

/-- So is every stop inside a node. -/
theorem traced_inside {setting : Setting V W} (levels : Nat) {ns : List Node}
    {e : Expandable V W} (he : e ∈ expandables (expandRow setting (expandLevels setting levels)) ns)
    (place : Place V) : FailsAs (TracedFrom setting.evaluator place.stack) (e.inside place) := by
  have arises := arises_expandables (arises_expandLevels levels) place.stack ns e he
  exact (arises place rfl).1.mono fun _ arises => arises.traced

/-- A use that is met and stops has one of the reasons there are for a use. -/
theorem useStops_of_meets {setting : Setting V W} {deeper : ForestExpansion V W} {place : Place V}
    {e : Expandable V W} {u : Use} {s s₁ s' : State W} {stop : Stop}
    (meets : Meets setting place e u s s₁)
    (fails : Fails (expandNode setting deeper place e) s stop s') :
    UseStops setting deeper (place.inner []) u (e.inside (place.inner [])) stop := by
  unfold Fails at fails
  rw [expandNode_of_meets deeper meets] at fails
  exact useStops_of_fails fails

end Expand

/-! ### Compilations that fail -/

theorem fails_expandForest_iff {setting : Setting V W} {scope : Scope V} {forest : List Node}
    {s s' : State W} {fault : Fault} : Fails (expandForest setting scope forest) s fault s' ↔
      ∃ stop, Fails (expand setting scope forest) { s with steps := 0 } stop s' ∧
        stop.fault = fault := by
  change @Eq (Except Fault (List Node) × State W)
    (let r : Except Stop (List Node) × State W := expand setting scope forest { s with steps := 0 }
    (r.1.mapError Stop.fault, r.2)) _ ↔ _
  unfold Fails
  rcases (expand setting scope forest { s with steps := 0 } :
    Except Stop (List Node) × State W) with ⟨e | b, s₁⟩
  · simp only [mapError_error, Prod.mk.injEq, Except.error.injEq]
    constructor
    · rintro ⟨rfl, rfl⟩
      exact ⟨e, ⟨rfl, rfl⟩, rfl⟩
    · rintro ⟨_, ⟨rfl, rfl⟩, rfl⟩
      exact ⟨rfl, rfl⟩
  · simp [mapError_ok]

/-- A template fails in its expansion, or when stacks are resolved after it. -/
theorem fails_compileForest {setting : Setting V W} {scope : Scope V} {forest : List Node}
    {s s' : State W} {fault : Fault} (fails : Fails (compileForest setting scope forest) s fault s') :
    (∃ stop, Fails (expand setting scope forest) { s with steps := 0 } stop s' ∧
      stop.fault = fault) ∨
    ∃ expanded s₁ p, Ends (expandForest setting scope forest) s expanded s₁ ∧
      (Stacks.resolve setting.options.pushTag setting.options.stackTag expanded).problem? = some p ∧
      fault = .ofProblem p := by
  obtain stopped | ⟨expanded, s₁, ends, rest⟩ := fails_bind_iff.1 fails
  · exact .inl (fails_expandForest_iff.1 stopped)
  · dsimp only at rest
    split at rest
    · rename_i p problem
      exact .inr ⟨expanded, s₁, p, ends, problem, (fails_throw_iff.1 rest).1.symm⟩
    · exact absurd rest (not_fails_of_ends (ends_pure_iff.2 ⟨rfl, rfl⟩))

/-- A template that is markup fails only while its tree is made; noting and laying out the output do
not fail. -/
theorem fails_compileSource {setting : Setting V W} {scope : Scope V} {source : String}
    {s s' : State W} {d : Diagnostic}
    (fails : Fails (compileSource setting scope source) s (.diagnostic d) s') :
    ∃ forest, parse source = .ok forest ∧
      ∃ s₁, Fails (compileForest setting scope forest) s (.diagnostic d) s₁ := by
  unfold compileSource at fails
  cases hparse : parse source with
  | error e =>
    rw [hparse] at fails
    cases (fails_throw_iff.1 fails).1
  | ok forest =>
    rw [hparse] at fails
    obtain stopped | ⟨tree, s₁, -, rest⟩ := fails_bind_iff.1 fails
    · exact ⟨forest, rfl, s', stopped⟩
    · have ends {s s' : State W} {html : String} :
          ¬ Fails (pure html : Compiling W String) s (.diagnostic d) s' :=
        not_fails_of_ends (ends_pure_iff.2 ⟨rfl, rfl⟩)
      have noted {n : Note} {x : Compiling W String} {s s' : State W}
          (fails : Fails (takeNote n >>= fun _ => x) s (.diagnostic d) s') :
          ∃ s₁, Fails x s₁ (.diagnostic d) s' := by
        obtain first | ⟨_, s₁, -, later⟩ := fails_bind_iff.1 fails
        · exact absurd first not_fails_modify
        · exact ⟨s₁, later⟩
      dsimp only at rest
      split at rest
      case' isTrue => obtain ⟨s₂, rest⟩ := noted rest
      -- The output is laid out in the same way, whether it was noted or not.
      all_goals
        split at rest
        · split at rest
          · obtain ⟨s₃, rest⟩ := noted rest
            exact absurd rest ends
          · exact absurd rest ends
        · exact absurd rest ends

namespace Compiler

theorem fails_of_compileIn {c c' : Compiler V W} {source : String} {context named : Bindings V}
    {d : Diagnostic} (failed : c.compileIn source context named = (.error (.diagnostic d), c')) :
    Fails (compileSource c.setting (.root (c.context.overlay (context.overlay named))) source)
      c.state (.diagnostic d) c'.state := by
  unfold compileIn at failed
  split at failed
  · cases failed
  · obtain ⟨result, after⟩ := Prod.mk.inj failed
    rw [← after]
    exact Prod.ext result rfl

/-- A diagnostic that ends a compilation, unless the evaluator raised it with components of its own,
names exactly the components that were being expanded when expansion stopped, or none when stacks
could not be resolved after expansion. It is so at every place of the expansion and inside every
node: what is around a place leaves the stack of the diagnostic alone. A use of a component adds its
name for what is in the component, its source, scripts, tree and slots, but not for the content that
the use passes to it. -/
theorem compile_error_traced (c : Compiler V W) :
    let ev := c.setting.evaluator
    (∀ source context named d c',
      c.compileIn source context named = (.error (.diagnostic d), c') → ¬ ev.Foreign d →
        let scope : Scope V := .root (c.context.overlay (context.overlay named))
        ∃ forest, parse source = .ok forest ∧
          ((∃ stop s', Fails (expand c.setting scope forest) { c.state with steps := 0 } stop s' ∧
              stop.fault = .diagnostic d ∧ d.stack = stop.stack) ∨
            ∃ expanded s₁ p, Ends (expandForest c.setting scope forest) c.state expanded s₁ ∧
              (Stacks.resolve c.setting.options.pushTag c.setting.options.stackTag
                expanded).problem? = some p ∧ d = { problem := p } ∧ d.stack = [])) ∧
      (∀ levels place forest,
        FailsAs (TracedFrom ev place.stack) (expandLevels c.setting levels place forest)) ∧
      ∀ levels ns, ∀ e ∈ expandables (expandRow c.setting (expandLevels c.setting levels)) ns,
        ∀ place, FailsAs (TracedFrom ev place.stack) (e.inside place) ∧
          ∀ u s s₁ stop s', Meets c.setting place e u s s₁ →
            Fails (expandNode c.setting (expandLevels c.setting levels) place e) s stop s' →
              UseStops c.setting (expandLevels c.setting levels) (place.inner []) u
                (e.inside (place.inner [])) stop := by
  intro ev
  refine ⟨fun source context named d c' failed native => ?_, traced_expandLevels,
    fun levels ns e he place => ⟨traced_inside levels he place, ?_⟩⟩
  · obtain ⟨forest, reads, s₁, stopped⟩ := fails_compileSource (fails_of_compileIn failed)
    refine ⟨forest, reads, ?_⟩
    obtain ⟨stop, expands, fault⟩ | ⟨expanded, s₁, p, ends, problem, fault⟩ :=
      fails_compileForest stopped
    · obtain ⟨s₂, levels, -⟩ := fails_whole_iff.1 expands
      have traced := traced_expandLevels _ _ _ _ _ _ levels
      refine .inl ⟨stop, _, expands, fault, ?_⟩
      rcases traced.names d fault native with named | ⟨unnamed, top⟩
      · exact named
      · rw [unnamed, top]
    · cases fault
      exact .inr ⟨expanded, s₁, p, ends, problem, rfl, rfl⟩
  · exact fun u s s₁ stop s' meets fails => useStops_of_meets meets fails

end Compiler

/-- The language of names raises no diagnostics that name components. -/
theorem nameLanguage_not_foreign (d : Diagnostic) : ¬ nameLanguage.Foreign d := by
  have unbound {source : String} {visible : Bindings NameValue}
      (h : NameLanguage.unbound source visible = .diagnostic d) : d.stack = [] := by
    cases h
    rfl
  rintro ⟨named, raised⟩
  apply named
  cases raised with
  | @evaluate source scope w _ w' h =>
    change NameLanguage.evaluate source scope w = (.error (.diagnostic d), w') at h
    unfold NameLanguage.evaluate at h
    have result := (Prod.mk.inj h).1
    split at result
    · cases result
    · exact unbound (Except.error.inj result)
  | @execute source scope w _ w' h =>
    change NameLanguage.execute source scope w = (.error (.diagnostic d), w') at h
    unfold NameLanguage.execute at h
    split at h
    · split at h <;> cases (Prod.mk.inj h).1
    · exact unbound (Except.error.inj (Prod.mk.inj h).1)
  | uncaught h => cases h
  | text h => cases h
  | @member v i w _ w' h => cases v <;> cases h
  | shown h => cases h

namespace Compiler

/-- The components that the diagnostic of a failed compilation names. -/
def namedStack? : Except Fault String → Option (List String)
  | .error (.diagnostic d) => some d.stack
  | _ => none

theorem diagnostic_of_namedStack? {result : Except Fault String} {stack : List String}
    (h : namedStack? result = some stack) :
    ∃ d, result = .error (.diagnostic d) ∧ d.stack = stack := by
  unfold namedStack? at h
  split at h
  · exact ⟨_, rfl, Option.some.inj h⟩
  · cases h

/-- A compiler with a component that passes content with an unbound name to another one. -/
def contentCompiler : Compiler NameValue NameState :=
  make nameOptions nameLanguage {} []
    (some (.table [("page", "<main><x-card>%%v%%</x-card></main>"),
      ("card", "<p><yield></yield></p>")])) {}

theorem compile_error_traced_content :
    ∃ d c', contentCompiler.compileIn "<x-page></x-page>" [] [] = (.error (.diagnostic d), c') ∧
      ¬ nameLanguage.Foreign d ∧ d.stack = ["page"] ∧
      ∃ forest stop s', parse "<x-page></x-page>" = .ok forest ∧
        Fails (expand nameSetting (.root []) forest) contentCompiler.state stop s' ∧
        stop.stack = ["page"] := by
  obtain ⟨d, failed, named⟩ := diagnostic_of_namedStack?
    (show namedStack? (contentCompiler.compileIn "<x-page></x-page>" [] []).1 = some ["page"] by
      decide +kernel)
  have compiles : contentCompiler.compileIn "<x-page></x-page>" [] [] = (.error (.diagnostic d), _) :=
    Prod.ext failed rfl
  obtain ⟨forest, reads, ⟨stop, s', stops, -, same⟩ | ⟨_, _, _, -, -, -, unnamed⟩⟩ :=
    (compile_error_traced contentCompiler).1 _ _ _ d _ compiles (nameLanguage_not_foreign d)
  · exact ⟨d, _, compiles, nameLanguage_not_foreign d, named, forest, stop, s', reads, stops,
      same.symm.trans named⟩
  · rw [named] at unnamed
    cases unnamed

end Compiler

end HtmlTemplate
