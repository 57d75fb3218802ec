import HtmlTemplate.Proofs.Coherence

/-!
# What becomes of a use

The source of a component is what the registry answers for its name. What the component comes to is
decided by its scripts, taken together (`runScripts`), and by the expansion of the rest of its
source in the scope that they leave (`ends_expandSource_iff`). The nodes in the place of a use are
its content projected into what the component comes to (`ends_expandUse_iff`).
-/

namespace HtmlTemplate.Expand

open HtmlTemplate.Markup HtmlTemplate.Component Expansion

variable {V W : Type}

/-- A component that may be opened leaves no more open than may be. -/
theorem length_of_checkDepth {limit : DepthLimit} {stack : List String} {name : String}
    (ok : checkDepth limit stack name = .ok ()) : stack.length + 1 ≤ limit.value.toNat := by
  unfold checkDepth at ok
  split at ok
  · cases ok
  · omega

theorem ends_lookup_iff {name : String} {s s' : State W} {result : Except LoadError String} :
    Ends (lookup name) s result s' ↔ ∃ r,
      @Eq (Except LoadError String × RegistryState)
          (Lookup.source name { s.registry with log := [] })
        (result, r) ∧
        { s with registry := { r with log := [] }, notes := r.log.map Note.lookup ++ s.notes } =
          s' := by
  have run : @Eq (Except Stop _ × State W) (lookup name s)
      (let r : Except LoadError String × RegistryState :=
        Lookup.source name { s.registry with log := [] }
      (.ok r.1, { s with
        registry := { r.2 with log := [] }
        notes := r.2.log.map Note.lookup ++ s.notes })) := rfl
  unfold Ends
  rw [run]
  rcases (Lookup.source name { s.registry with log := [] } :
    Except LoadError String × RegistryState) with ⟨result', r⟩
  simp [and_assoc]

/-- A source is found when the registry answers with it. -/
theorem ends_findSource_iff {place : Place V} {u : Use} {s s' : State W} {source : String} :
    Ends (findSource place u) s source s' ↔ ∃ r,
      Ends (Lookup.source u.name) { s.registry with log := [] } source r ∧
        { s with registry := { r with log := [] }, notes := r.log.map Note.lookup ++ s.notes } =
          s' := by
  unfold findSource
  simp only [ends_bind_iff, ends_lookup_iff]
  constructor
  · rintro ⟨result, _, ⟨r, hr, rfl⟩, run⟩
    cases result with
    | ok text =>
      obtain ⟨rfl, rfl⟩ := ends_pure_iff.1 run
      exact ⟨r, hr, rfl⟩
    | error e =>
      cases e with
      | notFound name searched hint? => exact absurd run not_ends_stop
      | file e => exact absurd run not_ends_stop
  · rintro ⟨r, hr, rfl⟩
    exact ⟨.ok source, _, ⟨r, hr, rfl⟩, ends_pure_iff.2 ⟨rfl, rfl⟩⟩

/-- What running the scripts of a component comes to, given the attributes of a use: the scope that
the component is expanded in, and the attributes that the scripts have left. -/
def runScripts (ev : Evaluator V W) (given : Attrs) (scope : Scope V) (sources : List String) :
    Act W (Scope V × Attrs) := do
  let props ← modifyGet fun w => ev.openProps given scope w
  let inner ← executeAll ev sources (scope.child [(propsName, props)])
  modify (ev.closeProps props)
  return ({ inner with frame := Bindings.erase inner.frame propsName }, ev.leftover props (← get))

/-- The scripts of a component run first, and its tree is expanded in the scope that they leave. -/
theorem ends_expandSource_iff {setting : Setting V W}
    {deeper : Place V → List Node → Expansion W (List Node)} {place : Place V} {u : Use}
    {source : String} {s s' : State W} {tree : List Node} {left : Attrs} :
    Ends (expandSource setting deeper place u source) s (tree, left) s' ↔
      ∃ forest scope w core s₁, parse source = .ok forest ∧
        Ends (runScripts setting.evaluator u.attrs place.scope
          ((forest.filter isServerScript).map scriptBody)) s.world (scope, left) w ∧
        Ends (deeper { scope := scope, stack := place.stack ++ [u.name] }
          (forest.filter fun n => !isServerScript n)) { s with world := w, notes := [] } core s₁ ∧
        distribute setting.options.attrMarker
          (MergeRegistry.ofStrategies setting.options.strategies) left core = tree ∧
        { s₁ with notes := s₁.notes.map Note.complete ++ s.notes } = s' := by
  unfold expandSource
  cases parse source with
  | error e => simp [not_ends_stop]
  | ok forest =>
    simp only [runScripts, ends_bind_iff, ends_modifyGet_iff, ends_attaching_iff, ends_apart_iff,
      ends_whole_iff, ends_compute_iff, ends_modify_iff, ends_observe_iff, ends_pure_iff,
      ends_get_iff, Prod.mk.injEq, Except.ok.injEq]
    constructor
    · rintro ⟨props, _, ⟨rfl, rfl⟩, _, ⟨inner, _, ⟨w, hrun, rfl⟩, ⟨⟩, _, rfl, _, _, ⟨rfl, rfl⟩,
        core, s₁, hcore, ⟨rfl, rfl⟩, rfl⟩, rfl⟩
      exact ⟨forest, _, _, core, _, rfl, ⟨_, _, rfl, inner, w, hrun, ⟨⟩, _, rfl, _, _, ⟨rfl, rfl⟩,
        ⟨rfl, rfl⟩, rfl⟩, hcore, rfl, rfl⟩
    · rintro ⟨_, _, _, core, s₁, rfl, ⟨props, _, hprops, inner, w, hrun, ⟨⟩, _, rfl, _, _,
        ⟨rfl, rfl⟩, ⟨rfl, rfl⟩, rfl⟩, hcore, rfl, rfl⟩
      obtain ⟨rfl, rfl⟩ := Prod.ext_iff.1 hprops
      exact ⟨_, _, ⟨rfl, rfl⟩, _, ⟨inner, _, ⟨w, hrun, rfl⟩, ⟨⟩, _, rfl, _, _, ⟨rfl, rfl⟩, core, s₁,
        hcore, ⟨rfl, rfl⟩, rfl⟩, rfl⟩

/-- A use that does not nest too deeply comes to the tree of its component, then to its content, and
ends with the one projected into the other. -/
theorem ends_expandUse_iff {setting : Setting V W}
    {deeper : Place V → List Node → Expansion W (List Node)} {place : Place V} {u : Use}
    {inside : Expansion W (List Node)} {s s' : State W} {nodes : List Node} :
    Ends (expandUse setting deeper place u inside) s nodes s' ↔
      checkDepth setting.limit place.stack u.name = .ok () ∧
        ∃ source s₁ tree left s₂ given content, Ends (findSource place u) s source s₁ ∧
          Ends (expandSource setting deeper place u source) s₁ (tree, left) s₂ ∧
          Ends (within (u.node left) inside) s₂ given s' ∧
          Content.ofNodes? setting.options.fillTag given = some content ∧
          project setting.options.yieldTag setting.options.slotTag content tree = .ok nodes := by
  unfold expandUse
  cases hdepth : checkDepth setting.limit place.stack u.name with
  | error d => simp [not_ends_stop]
  | ok _ =>
    simp only [true_and, ends_bind_iff]
    constructor
    · rintro ⟨source, s₁, hsource, ⟨tree, left⟩, s₂, htree, given, s₃, hgiven, run⟩
      cases hcontent : Content.ofNodes? setting.options.fillTag given with
      | none =>
        simp only [hcontent] at run
        exact absurd run not_ends_refuse
      | some content =>
        simp only [hcontent] at run
        cases hproject : project setting.options.yieldTag setting.options.slotTag content tree with
        | ok projected =>
          simp only [hproject] at run
          obtain ⟨rfl, rfl⟩ := ends_pure_iff.1 run
          exact ⟨source, s₁, tree, left, s₂, given, content, hsource, htree, hgiven, hcontent,
            hproject⟩
        | error e =>
          cases e with
          | unnamed =>
            simp only [hproject] at run
            exact absurd run not_ends_stop
          | uncopyable =>
            simp only [hproject] at run
            exact absurd run not_ends_stop
    · rintro ⟨source, s₁, tree, left, s₂, given, content, hsource, htree, hgiven, hcontent,
        hproject⟩
      refine ⟨source, s₁, hsource, (tree, left), s₂, htree, given, s', hgiven, ?_⟩
      simp only [hcontent, hproject]
      exact ends_pure_iff.2 ⟨rfl, rfl⟩

end HtmlTemplate.Expand
