import HtmlTemplate.Proofs.DistributedAttributes
import HtmlTemplate.Proofs.EvaluatedAttributes

/-!
# Markers that can be used

Options that fit together name the marker of evaluated attributes and that of attributes for slots.
`usable_iff` says when a marker does what it is for: whatever name stands behind it, the attribute
is evaluated, or goes to the elements that are marked with the slot. That is so exactly when the
marker has no colon after its first character, which the check of the options does not ask for.
-/

namespace HtmlTemplate

/-! ### What is checked -/

namespace Request

open HtmlTemplate.Expand

theorem of_forM_eq_ok {ε : Type} {check : String → Except ε Unit} {names : List String}
    (h : names.forM check = .ok ()) : ∀ name ∈ names, check name = .ok () := by
  induction names with
  | nil => exact fun name mem => absurd mem List.not_mem_nil
  | cons name names ih =>
    obtain ⟨⟨⟩, first, rest⟩ := exists_of_bind_eq_ok h
    exact List.forall_mem_cons.2 ⟨first, ih rest⟩

theorem text_ne_empty_of_checkName {r : Request} {option : String}
    (h : r.checkName option = .ok ()) : r.text option ≠ "" := by
  unfold checkName at h
  unfold text
  dsimp only at h
  split at h
  · cases h
  · rename_i holds
    split at h
    · rename_i s given
      rintro empty
      rw [given, empty] at holds
      exact holds rfl
    · cases h

/-- Accepted options have the markers that were asked for, and these are not empty. -/
theorem markers_of_check {r : Request} {o : Options} (accepted : r.check = .ok o) :
    (o.evalMarker = r.text "evaluate_attribute_prefix" ∧ o.evalMarker ≠ "") ∧
      o.attrMarker = r.text "attr_attribute" ∧ o.attrMarker ≠ "" := by
  unfold check at accepted
  split at accepted
  · cases accepted
  obtain ⟨pattern?, -, accepted⟩ := exists_of_bind_eq_ok accepted
  obtain ⟨⟨⟩, named, accepted⟩ := exists_of_bind_eq_ok accepted
  have nonempty : ∀ option ∈ nameOptions, r.text option ≠ "" := fun option mem =>
    text_ne_empty_of_checkName (of_forM_eq_ok named option mem)
  obtain ⟨⟨⟩, -, accepted⟩ := exists_of_bind_eq_ok accepted
  dsimp only at accepted
  by_cases same : (r.text "attr_attribute" == r.text "evaluate_attribute_prefix") = true
  · rw [if_pos same] at accepted
    cases accepted
  rw [if_neg same] at accepted
  split at accepted
  · cases accepted
  split at accepted
  · cases accepted
  obtain ⟨titleRule, -, accepted⟩ := exists_of_bind_eq_ok accepted
  obtain ⟨depthLimit, -, accepted⟩ := exists_of_bind_eq_ok accepted
  cases accepted
  exact ⟨⟨rfl, nonempty _ (by decide)⟩, rfl, nonempty _ (by decide)⟩

end Request

namespace Expand

open HtmlTemplate.Markup HtmlTemplate.Naming Node

/-! ### Evaluated attributes -/

/-- The attribute with the marker of evaluated attributes and `target` behind it is evaluated when
its turn comes, and its value goes to `target`. -/
def Evaluates (o : Options) (target : String) : Prop :=
  ∀ {V W : Type} (setting : Setting V W), setting.options = o →
    ∀ (place : Place V) (around : Attrs → List Node) (attrs : Attrs) (names : List String)
      (source : String), attrs.get? (o.evalMarker ++ ":" ++ target) = some source →
      evaluateAttrs setting place around ((o.evalMarker ++ ":" ++ target) :: names) attrs = do
        let name := o.evalMarker ++ ":" ++ target
        let value? ← Expansion.compute place (around (attrs.erase name))
          (attributeText setting.evaluator source place.scope)
        evaluateAttrs setting place around names (settle attrs name target value?)

theorem evaluates_of_separable {o : Options} (separable : Separable o.evalMarker)
    {target : String} (nonempty : target ≠ "") : Evaluates o target := by
  rintro V W setting rfl place around attrs names source given
  have named := evaluatedName?_eq_some_iff.2 ⟨separable, nonempty, rfl⟩
  rw [evaluateAttrs, named, given]
  refine bind_congr fun value? => ?_
  cases value? <;> rfl

/-- Behind a marker that names are not cut at, attributes are passed over. -/
theorem not_evaluates_of_not_separable {o : Options} (inseparable : ¬ Separable o.evalMarker)
    {target : String} (nonempty : target ≠ "") : ¬ Evaluates o target := by
  intro evaluates
  let setting : Setting NameValue NameState := { nameSetting with options := o }
  let name := o.evalMarker ++ ":" ++ target
  let attrs : Attrs := [(name, "")]
  have given : attrs.get? name = some "" := by simp [attrs, Bindings.get?_cons]
  have passed : Ends (evaluateAttrs setting namedPlace (fun _ => []) [name] attrs) (nameStart [])
      attrs (nameStart []) := by
    rw [evaluateAttrs, evaluatedName?_of_not_separable inseparable]
    exact ends_pure_iff.2 ⟨rfl, rfl⟩
  rw [evaluates setting rfl namedPlace _ attrs [] "" given] at passed
  obtain ⟨value?, s, -, done⟩ := ends_bind_iff.1 passed
  have form : EvaluatedForm o.evalMarker name target := ⟨nonempty, rfl⟩
  have gone := get?_settle attrs form.ne value? name
  rw [(ends_pure_iff.1 done).1, if_pos rfl, given] at gone
  cases gone

/-! ### Attributes for slots -/

/-- The attribute with the marker, `slot` and `target` goes under the name `target` to the elements
that are marked with `slot`, whatever else is distributed. -/
def Routes (o : Options) (slot target : String) : Prop :=
  ∀ (merging : MergeRegistry) (given : Attrs) (forest : List Node) (value : String),
    given.names.Nodup → (o.attrMarker ++ ":" ++ slot ++ ":" ++ target, value) ∈ given →
    ∃ f : Attrs → Attrs,
      GivenTo o.attrMarker merging given f forest
        (distribute o.attrMarker merging given forest) ∧
      ∀ own, own.get? o.attrMarker = some slot →
        (f own).get? target = merging.merged? (own.erase o.attrMarker) target value

theorem routes_of_separable {o : Options} (separable : Separable o.attrMarker)
    {slot target : String} (named : slot ≠ "") (plain : ':' ∉ slot.toList)
    (nonempty : target ≠ "") : Routes o slot target := by
  intro merging given forest value distinct mem
  refine ⟨receive o.attrMarker merging given, givenTo_distribute distinct forest, ?_⟩
  intro own marked
  have segments := splitColons_three_iff.2
    ⟨rfl, separable, ⟨named, fun colon => plain (List.mem_of_mem_tail colon)⟩, nonempty⟩
  have route : routeOf o.attrMarker (o.attrMarker ++ ":" ++ slot ++ ":" ++ target) =
      (slot, target) := by
    simp [routeOf, segments]
  have meant : (target, value) ∈ meantFor o.attrMarker slot given :=
    mem_meantFor_iff.2 ⟨_, mem, route, rfl⟩
  exact (merged_receive distinct marked).resolved _ meant

theorem not_routes_of_not_separable {o : Options} (inseparable : ¬ Separable o.attrMarker)
    {slot : String} (named : slot ≠ "") : ¬ Routes o slot "id" := by
  intro routes
  let marker := o.attrMarker
  let name := marker ++ ":" ++ slot ++ ":" ++ "id"
  let given : Attrs := [(name, "x")]
  let merging := MergeRegistry.ofStrategies []
  let forest : List Node := [.element "p" [(marker, slot)] [], .element "p" [(marker, "")] []]
  have distinct : given.names.Nodup := by simp [given, Bindings.names]
  obtain ⟨f, done, merged⟩ := routes merging given forest "x" distinct List.mem_cons_self
  -- The empty marker keeps the first element from taking more than its own slot gives it.
  have claims : ClaimsDefault marker forest := by
    simp [ClaimsDefault, forest, preorders, preorder, Node.attrs, Bindings.get?_cons]
  have marked : Bindings.get? [(marker, slot)] marker = some slot := by
    simp [Bindings.get?_cons]
  have received : GivenTo marker merging given (receive marker merging given) forest
      (distribute marker merging given forest) := givenTo_distribute distinct forest
  rw [GivenTo, if_pos (.inl claims)] at done received
  have same : f [(marker, slot)] = receive marker merging given [(marker, slot)] := by
    have whole := done.symm.trans received
    simp only [forest, mapsAttrs, mapAttrs, List.cons.injEq, Node.element.injEq] at whole
    exact whole.1.2.1
  have unrouted : routeOf marker name = ("", name) := routeOf_of_unrouted fun s t segments =>
    inseparable (splitColons_three_iff.1 segments).2.1
  have nothing : meantFor marker slot given = [] := by
    simp [meantFor, given, meantFor?_eq, unrouted, Ne.symm named]
  have lost := merged [(marker, slot)] marked
  rw [same, (merged_receive distinct marked).in_order, nothing] at lost
  have erased : Bindings.erase [(marker, slot)] marker = [] := by simp [Bindings.erase]
  rw [erased] at lost
  cases lost

/-! ### Accepted options -/

/-- Each marker of options that are accepted does what it is for, whatever stands behind it, exactly
when it has no colon after its first character. -/
theorem usable_iff {r : Request} {o : Options} (accepted : r.check = .ok o) :
    ((∀ target, target ≠ "" → Evaluates o target) ↔ ':' ∉ o.evalMarker.toList.tail) ∧
    ((∀ slot target, slot ≠ "" → ':' ∉ slot.toList → target ≠ "" → Routes o slot target) ↔
      ':' ∉ o.attrMarker.toList.tail) := by
  obtain ⟨⟨-, evaluates⟩, -, routes⟩ := Request.markers_of_check accepted
  refine ⟨⟨fun usable => ?_, fun uncut target nonempty => ?_⟩,
    ⟨fun usable => ?_, fun uncut slot target named plain nonempty => ?_⟩⟩
  · by_contra colon
    have nonempty : "x" ≠ "" := by decide
    have inseparable : ¬ Separable o.evalMarker := fun separable => separable.2 colon
    exact not_evaluates_of_not_separable inseparable nonempty (usable "x" nonempty)
  · exact evaluates_of_separable ⟨evaluates, uncut⟩ nonempty
  · by_contra colon
    have named : "s" ≠ "" := by decide
    have inseparable : ¬ Separable o.attrMarker := fun separable => separable.2 colon
    exact not_routes_of_not_separable inseparable named
      (usable "s" "id" named (by decide) (by decide))
  · exact routes_of_separable ⟨routes, uncut⟩ named plain nonempty

/-- The options that are used when nothing but the two markers is asked for. -/
def markersRequest (evalMarker attrMarker : String) : Request where
  settings := [("evaluate_attribute_prefix", .str evalMarker), ("attr_attribute", .str attrMarker)]

theorem exists_accepted {r : Request} {evalMarker attrMarker : String}
    (h : r.check.toOption.map (fun o => (o.evalMarker, o.attrMarker)) =
      some (evalMarker, attrMarker)) :
    ∃ o, r.check = .ok o ∧ o.evalMarker = evalMarker ∧ o.attrMarker = attrMarker := by
  obtain ⟨o, accepted, markers⟩ := Option.map_eq_some_iff.1 h
  exact ⟨o, eq_ok_of_toOption accepted, Prod.mk.inj markers⟩

/-- A colon in front is no hindrance. -/
theorem usable_leadingColon : ∃ o, (markersRequest ":" ":at").check = .ok o ∧
    ':' ∉ o.evalMarker.toList.tail ∧ ':' ∉ o.attrMarker.toList.tail ∧
    Evaluates o "a:b" ∧ Routes o "s" ":x" := by
  have markers : (markersRequest ":" ":at").check.toOption.map
      (fun o => (o.evalMarker, o.attrMarker)) = some (":", ":at") := by decide +kernel
  obtain ⟨o, accepted, evaluates, routes⟩ := exists_accepted markers
  have uncut : ':' ∉ o.evalMarker.toList.tail := evaluates ▸ by decide
  have uncut' : ':' ∉ o.attrMarker.toList.tail := routes ▸ by decide
  obtain ⟨usable, usable'⟩ := usable_iff accepted
  exact ⟨o, accepted, uncut, uncut', usable.2 uncut _ (by decide),
    usable'.2 uncut' _ _ (by decide) (by decide) (by decide)⟩

/-- Markers with a colon inside are accepted, and no attribute is found behind them. -/
theorem colon_in_markers_accepted : ∃ o, (markersRequest "a:b" "at:c").check = .ok o ∧
    ¬ Evaluates o "title" ∧ ¬ Routes o "s" "id" := by
  have markers : (markersRequest "a:b" "at:c").check.toOption.map
      (fun o => (o.evalMarker, o.attrMarker)) = some ("a:b", "at:c") := by decide +kernel
  obtain ⟨o, accepted, evaluates, routes⟩ := exists_accepted markers
  refine ⟨o, accepted, not_evaluates_of_not_separable ?_ (by decide),
    not_routes_of_not_separable ?_ (by decide)⟩
  · rw [evaluates]
    decide
  · rw [routes]
    decide

end Expand

end HtmlTemplate
