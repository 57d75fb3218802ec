import HtmlTemplate.Proofs.Mirrors
import HtmlTemplate.Proofs.Rest

/-!
# Values in texts are never evaluated

A variable that is read in nothing but texts decides about nothing else (`expand_mirrors`): for any
two texts that it may stand for, expressions and constructs written in them included, the expander
ends for both or for neither, hands the evaluator the same sources in the same order, and comes to
the same forest but for the data of texts.
-/

namespace HtmlTemplate.Expand

open HtmlTemplate.Markup HtmlTemplate.Component

variable {V W τ : Type} {setting : Setting V W} {calls : W → List τ} {name : String}

/-- If a variable is read in texts alone, by a forest and by the components there are, then for two
texts as its value the expansions of the forest go the same way and come to the same but for the
data of texts. -/
theorem expand_mirrors (hev : setting.evaluator.Pure calls) {s t : State W} {scope : Scope V}
    {forest nodes : List Node} {u w : V} (hu : setting.evaluator.IsText u)
    (hw : setting.evaluator.IsText w)
    (hforest : ReadOnlyInTexts setting calls s.registry.answer? name forest)
    (hcomponents : ComponentsReadInTexts setting calls s.registry.answer? name)
    (run : Ends (expand setting (scope.rebind name u) forest) s nodes t) :
    ∃ nodes' t', Ends (expand setting (scope.rebind name w) forest) s nodes' t' ∧
      Node.mutes nodes' = Node.mutes nodes ∧ calls t'.world = calls t.world := by
  have both := Expansion.mirrors_whole (mirrors_expandLevels hev hu hw hcomponents
    (setting.limit.value.toNat + 1) { scope := scope } forest hforest)
  obtain ⟨nodes', t', told, run', same, adds, adds'⟩ := both s s nodes t rfl rfl run
  exact ⟨nodes', t', run', same.symm, adds'.2.trans adds.2.symm⟩

/-! ### The language of names -/

namespace NameLanguage

/-- Bindings in which a name stands for one value or for another one, and which are the same
otherwise. -/
def Differ {α : Type} (name : String) (u w : α) (b b' : Bindings α) : Prop :=
  ∀ n, b.get? n = b'.get? n ∨ n = name ∧ b.get? n = some u ∧ b'.get? n = some w

section Differ

variable {α : Type} {name : String} {u w : α} {b b' : Bindings α}

theorem Differ.put (h : Differ name u w b b') {n : String} {x y : α}
    (hxy : x = y ∨ n = name ∧ x = u ∧ y = w) : Differ name u w (b.put n x) (b'.put n y) := by
  intro m
  rw [Bindings.get?_put, Bindings.get?_put]
  split
  · rename_i same
    subst same
    rcases hxy with rfl | ⟨rfl, rfl, rfl⟩
    · exact .inl rfl
    · exact .inr ⟨rfl, rfl, rfl⟩
  · exact h m

theorem Differ.overlay (h : Differ name u w b b') (upper : Bindings α) :
    Differ name u w (b.overlay upper) (b'.overlay upper) := by
  induction upper generalizing b b' with
  | nil => exact h
  | cons entry upper ih => exact ih (h.put (.inl rfl))

theorem Differ.overlay_put (h : Differ name u w b b') (upper : Bindings α) :
    Differ name u w (b.overlay (upper.put name u)) (b'.overlay (upper.put name w)) := by
  induction upper generalizing b b' with
  | nil => exact h.put (.inr ⟨rfl, rfl, rfl⟩)
  | cons entry upper ih =>
    obtain ⟨n, x⟩ := entry
    simp only [Bindings.put]
    split
    · rename_i same
      exact Differ.overlay (h.put (.inr ⟨same, rfl, rfl⟩)) upper
    · exact ih (h.put (.inl rfl))

/-- What a scope binds differs in a name that is bound to different values in its outermost frame,
unless an inner frame binds it. -/
theorem differ_rebind (scope : Scope α) (name : String) (u w : α) :
    Differ name u w (scope.rebind name u).flatten (scope.rebind name w).flatten := by
  obtain ⟨frame, outer⟩ := scope
  induction outer generalizing frame with
  | nil => exact Differ.overlay_put (fun n => .inl rfl) frame
  | cons next rest ih => exact (ih next).overlay frame

end Differ

/-- An expression is a name, so only that very name reads it. -/
theorem mirrors_evaluate (source name : String) (scope : Scope NameValue) (u w : NameValue) :
    Act.Mirrors NameState.calls (fun a b => a = b ∨ source = name ∧ a = u ∧ b = w)
      (evaluate source (scope.rebind name u)) (evaluate source (scope.rebind name w)) := by
  intro s s' a t _ _ run
  have differ := differ_rebind scope name u w source
  unfold evaluate Ends at *
  cases h : (scope.rebind name u).flatten.get? source with
  | none => simp [h] at run
  | some x =>
    cases h' : (scope.rebind name w).flatten.get? source with
    | none => simp [h, h'] at differ
    | some y =>
      simp only [h, h', Prod.mk.injEq, Except.ok.injEq, Option.some.injEq] at run differ ⊢
      obtain ⟨rfl, rfl⟩ := run
      exact ⟨y, s'.call source, [source], ⟨rfl, rfl⟩, differ, ⟨rfl, rfl⟩, ⟨rfl, rfl⟩⟩

/-- The start of a run knows the components that it is given, and no others. -/
theorem answer?_nameStart (sources : Bindings String) (component : String) :
    (nameStart sources).registry.answer? component =
      (Registry.make sources none true).overrides.get? component := by
  unfold RegistryState.answer? nameStart Lookup.known?
  dsimp only
  cases (Registry.make sources none true).overrides.get? component <;> rfl

theorem isText (s : String) : nameLanguage.IsText (.text s) :=
  ⟨s, rfl, fun _ => ends_pure_iff.2 ⟨rfl, rfl⟩⟩

theorem scriptsIgnore_nil (name : String) (given : Attrs) :
    ScriptsIgnore nameSetting NameState.calls name given [] := by
  rintro scope u w _ _ s s' ⟨inner, left⟩ t _ _ run
  have quiet (scope : Scope NameValue) (s : NameState) :
      Ends (runScripts nameLanguage given scope []) s
        (scope.child [], nameLanguage.leftover (.props given) { s with used := [] })
        { s with used := [] } := rfl
  obtain ⟨same, rfl⟩ := ends_unique (quiet (scope.rebind name u) s) run
  rw [← same]
  exact ⟨_, _, [], quiet (scope.rebind name w) s', ⟨scope.child [], _, rfl, rfl⟩,
    ⟨rfl, (List.append_nil _).symm⟩, ⟨rfl, (List.append_nil _).symm⟩⟩

/-- A forest whose attributes are neither evaluated nor the name of a variable reads that in texts
alone, if no component has scripts. -/
theorem readOnlyInTexts_of_attrs {seen : String → Option String} {name : String}
    {forest : List Node}
    (attributes : ∀ n ∈ Node.preorders forest,
      (∀ m ∈ n.attrs.names, evaluatedName? nameOptions.evalMarker m = none) ∧
        ∀ entry ∈ n.attrs, entry.2 ≠ name)
    (scripts : ∀ component source forest, seen component = some source →
      parse source = .ok forest → forest.filter isServerScript = []) :
    ReadOnlyInTexts nameSetting NameState.calls seen name forest := by
  intro n hn
  obtain ⟨plain, other⟩ := attributes n hn
  cases n with
  | text data =>
    intro caught source _ _ scope u w _ _
    exact (mirrors_evaluate source name scope u w).mono fun a b h => h.imp_right And.right
  | element tag attrs cs =>
    change ∀ m ∈ attrs.names, _ at plain
    change ∀ entry ∈ attrs, _ at other
    have kept {attrs'} (h : attrs' = attrs ∨ MayHave nameSetting attrs attrs') :
        attrs' = attrs := by
      rcases h with rfl | ⟨place, around, s, t, run⟩
      · rfl
      · rw [evaluateAttrs_of_none plain] at run
        exact (ends_pure_iff.1 run).1.symm
    constructor
    · intro place around u w _ _
      rw [evaluateAttrs_of_none plain, evaluateAttrs_of_none plain]
      exact followsAs_pure rfl
    · intro attrs' hattrs attribute_ source _ hsource scope u w _ _
      rw [kept hattrs] at hsource
      have differs : source ≠ name := other _ (Bindings.mem_of_get? hsource)
      exact (mirrors_evaluate source name scope u w).mono fun a b h =>
        h.resolve_right fun h => differs h.1
    · intro attrs' children use source forest _ _ _ hsource hparse
      rw [scripts _ source forest hsource hparse]
      exact scriptsIgnore_nil name use.attrs
  | _ => trivial

end NameLanguage

theorem expand_mirrors_card :
    let start := nameStart [("card", "<p>%%v%%<yield></yield></p>")]
    let forest : List Node :=
      [.element "if" [("condition", "on")] [.element "x-card" [] [.text "see %%v%%"]]]
    let scope : Scope NameValue := .root [("on", .text "yes")]
    let markup := "<x-card>%%on%%</x-card>"
    ∃ t nodes' t', Ends (expand nameSetting (scope.rebind "v" (.text markup)) forest) start
        [.element "p" [] [.text markup, .text ("see " ++ markup)]] t ∧
      Ends (expand nameSetting (scope.rebind "v" (.text "")) forest) start nodes' t' ∧
      Node.mutes nodes' = [.element "p" [] [.text "", .text ""]] ∧
      t'.world.calls = t.world.calls := by
  intro start forest scope markup
  have run : Ends (expand nameSetting (scope.rebind "v" (.text markup)) forest) start
      [.element "p" [] [.text markup, .text ("see " ++ markup)]] _ :=
    ends_of_toOption (by decide +kernel)
  have tree : parse "<p>%%v%%<yield></yield></p>" =
      .ok [.element "p" [] [.text "%%v%%", .element "yield" [] []]] :=
    eq_ok_of_toOption (by decide +kernel)
  have only : ∀ component source parsed, start.registry.answer? component = some source →
      parse source = .ok parsed →
        parsed = [.element "p" [] [.text "%%v%%", .element "yield" [] []]] := by
    intro component source parsed hsource hparse
    have one : (Registry.make [("card", "<p>%%v%%<yield></yield></p>")] none true).overrides =
        [("card", "<p>%%v%%<yield></yield></p>")] := by decide +kernel
    rw [NameLanguage.answer?_nameStart, one] at hsource
    have card := Bindings.mem_of_get? hsource
    rw [List.mem_singleton, Prod.mk.injEq] at card
    rw [card.2, tree] at hparse
    exact (Except.ok.inj hparse).symm
  have scripts : ∀ component source parsed, start.registry.answer? component = some source →
      parse source = .ok parsed → parsed.filter isServerScript = [] := by
    intro component source parsed hsource hparse
    rw [only component source parsed hsource hparse]
    rfl
  have hforest : ReadOnlyInTexts nameSetting NameState.calls start.registry.answer? "v" forest :=
    NameLanguage.readOnlyInTexts_of_attrs (by decide +kernel) scripts
  have hcomponents :
      ComponentsReadInTexts nameSetting NameState.calls start.registry.answer? "v" := by
    intro component source parsed hsource hparse
    rw [only component source parsed hsource hparse]
    exact NameLanguage.readOnlyInTexts_of_attrs (by decide +kernel) scripts
  obtain ⟨nodes', t', run', same, told⟩ := expand_mirrors nameLanguage_pure
    (NameLanguage.isText markup) (NameLanguage.isText "") hforest hcomponents run
  exact ⟨_, nodes', t', run, run', same, told⟩

end HtmlTemplate.Expand
