import HtmlTemplate.Proofs.Colons
import HtmlTemplate.Proofs.NameLanguage

/-!
# Evaluated attributes

An attribute whose name is the marker of evaluated attributes, a colon and another name sets that
other attribute to the text of a value. `evaluateAttrs_decides_iff` says what the attributes of an
element are afterwards. An absent value leaves an attribute that the element has under the other
name as it is: the values alone decide what is there only when there is no such attribute.
-/

namespace HtmlTemplate.Expand

open HtmlTemplate.Markup HtmlTemplate.Naming

variable {V W τ : Type}

/-! ### Names -/

/-- An attribute with this name is evaluated to set `target`. -/
def EvaluatedForm (marker name target : String) : Prop :=
  target ≠ "" ∧ name = marker ++ ":" ++ target

/-- Names are cut behind this marker: it has no colon after its first character. -/
def Separable (marker : String) : Prop :=
  marker ≠ "" ∧ ':' ∉ marker.toList.tail

instance (marker : String) : Decidable (Separable marker) :=
  inferInstanceAs (Decidable (_ ∧ _))

theorem evaluatedName?_eq_some_iff {marker name target : String} :
    evaluatedName? marker name = some target ↔
      Separable marker ∧ EvaluatedForm marker name target := by
  have cut : evaluatedName? marker name = some target ↔
      splitColons 2 name = some [marker, target] := by
    unfold evaluatedName?
    split
    · rename_i m t segments
      by_cases hm : m = marker <;> simp [segments, hm]
    · rename_i uncut
      exact iff_of_false (by simp) (uncut marker target)
  rw [cut, splitColons_two_iff]
  exact ⟨fun ⟨whole, nonempty, first, rest⟩ => ⟨⟨nonempty, first⟩, rest, whole⟩,
    fun ⟨⟨nonempty, first⟩, rest, whole⟩ => ⟨whole, nonempty, first, rest⟩⟩

theorem evaluatedName?_of_not_separable {marker : String} (h : ¬ Separable marker) (name : String) :
    evaluatedName? marker name = none := by
  refine Option.eq_none_iff_forall_ne_some.2 fun target evaluated => h ?_
  exact (evaluatedName?_eq_some_iff.1 evaluated).1

theorem EvaluatedForm.ne {marker name target : String} (form : EvaluatedForm marker name target) :
    target ≠ name := by
  intro same
  have length := congrArg String.length form.2
  rw [same, String.length_append, String.length_append] at length
  have colon : ":".length = 1 := rfl
  omega

theorem EvaluatedForm.inj {marker name name' target : String}
    (form : EvaluatedForm marker name target) (form' : EvaluatedForm marker name' target) :
    name = name' :=
  form.2.trans form'.2.symm

/-! ### Values -/

/-- The value of an expression, from whatever state it is evaluated. -/
def Gives (ev : Evaluator V W) (scope : Scope V) (source : String) (v : V) : Prop :=
  ∀ w, ∃ w', Ends (ev.evaluate source scope) w v w'

/-- The text of a value, from whatever state it is made. -/
def Writes (ev : Evaluator V W) (v : V) (text : String) : Prop :=
  ∀ w, ∃ w', Ends (ev.text v) w text w'

theorem Gives.unique {ev : Evaluator V W} {scope : Scope V} {source : String} {u v : V} (w : W)
    (hu : Gives ev scope source u) (hv : Gives ev scope source v) : u = v := by
  obtain ⟨_, run⟩ := hu w
  obtain ⟨_, run'⟩ := hv w
  exact (ends_unique run run').1

/-- An attribute that a value is for is this one; when the value is absent it is `kept?`. -/
def DecidedBy (ev : Evaluator V W) (v : V) (kept? attr? : Option String) : Prop :=
  match ev.kind v with
  | .absent => attr? = kept?
  | .present => attr? = some ""
  | _ => ∃ text, Writes ev v text ∧ attr? = some text

theorem settles_of_ends {calls : W → List τ} {α : Type} {x : Act W α}
    (settled : Act.Settled calls x) {w w' : W} {a : α} (run : Ends x w a w') :
    ∀ u, ∃ u', Ends x u a u' := by
  intro u
  obtain ⟨u', -, run', -⟩ := settled w u a w' rfl run
  exact ⟨u', run'⟩

theorem decides_of_attributeText {ev : Evaluator V W} {calls : W → List τ} (pure : ev.Pure calls)
    {scope : Scope V} {source : String} {w w' : W} {value? : Option String}
    (run : Ends (attributeText ev source scope) w value? w') :
    ∃ v, Gives ev scope source v ∧ ∀ kept?, DecidedBy ev v kept? (value?.or kept?) := by
  obtain ⟨v, w₁, hv, hrest⟩ := ends_bind_iff.1 run
  refine ⟨v, settles_of_ends (pure.settled source scope) hv, fun kept? => ?_⟩
  unfold DecidedBy
  cases hkind : ev.kind v with
  | present =>
    rw [hkind] at hrest
    rw [← (ends_pure_iff.1 hrest).1]
    rfl
  | absent =>
    simp only [hkind, outputText] at hrest
    rw [← (ends_pure_iff.1 hrest).1]
    rfl
  | _ =>
    simp only [hkind, outputText] at hrest
    obtain ⟨text, w₂, htext, hdone⟩ := ends_bind_iff.1 hrest
    rw [← (ends_pure_iff.1 hdone).1]
    exact ⟨text, settles_of_ends (pure.text v) htext, rfl⟩

/-! ### One attribute -/

/-- The attributes after the one with this name has been evaluated for `target`. -/
def settle (attrs : Attrs) (name target : String) : Option String → Attrs
  | some value => (attrs.erase name).put target value
  | none => attrs.erase name

theorem get?_settle (attrs : Attrs) {name target : String} (apart : target ≠ name)
    (value? : Option String) (n : String) :
    (settle attrs name target value?).get? n =
      if n = name then none else if n = target then value?.or (attrs.get? n) else attrs.get? n := by
  cases value? with
  | none => simp [settle, Bindings.get?_erase]
  | some value =>
    rw [settle, Bindings.get?_put, Bindings.get?_erase]
    by_cases h : n = target
    · simp [h, apart]
    · simp [h]

theorem filter_settle (attrs : Attrs) {p : String → Bool} {name target : String}
    (hname : p name = false) (htarget : p target = false) (value? : Option String) :
    (settle attrs name target value?).filter (fun a => p a.1) = attrs.filter fun a => p a.1 := by
  cases value? with
  | none => exact Bindings.filter_erase hname attrs
  | some value => rw [settle, Bindings.filter_put htarget, Bindings.filter_erase hname]

section Run

variable {setting : Setting V W} {place : Place V} {around : Attrs → List Node}
  {names : List String} {attrs attrs' : Attrs} {s s' : State W}

/-- An attribute is passed over, or it is evaluated and sets another one. -/
theorem ends_evaluateAttrs_cons {name : String}
    (run : Ends (evaluateAttrs setting place around (name :: names) attrs) s attrs' s') :
    ((evaluatedName? setting.options.evalMarker name = none ∨ attrs.get? name = none) ∧
      Ends (evaluateAttrs setting place around names attrs) s attrs' s') ∨
    ∃ target source value? w, evaluatedName? setting.options.evalMarker name = some target ∧
      attrs.get? name = some source ∧
      Ends (attributeText setting.evaluator source place.scope) s.world value? w ∧
      Ends (evaluateAttrs setting place around names (settle attrs name target value?))
        { s with world := w } attrs' s' := by
  rw [evaluateAttrs] at run
  cases hname : evaluatedName? setting.options.evalMarker name with
  | none =>
    simp only [hname] at run
    exact .inl ⟨.inl rfl, run⟩
  | some target =>
    cases hsource : attrs.get? name with
    | none =>
      simp only [hname, hsource] at run
      exact .inl ⟨.inr rfl, run⟩
    | some source =>
      simp only [hname, hsource] at run
      obtain ⟨value?, s₁, hvalue, hrest⟩ := ends_bind_iff.1 run
      obtain ⟨w, hw, rfl⟩ := Expansion.ends_compute_iff.1 hvalue
      refine .inr ⟨target, source, value?, w, rfl, rfl, hw, ?_⟩
      cases value? <;> exact hrest

/-! ### All attributes -/

/-- Attributes that are neither evaluated nor set by one that is stay as they are, in order. -/
theorem filter_evaluateAttrs {p : String → Bool}
    (other : ∀ name ∈ names, ∀ target,
      evaluatedName? setting.options.evalMarker name = some target →
        p name = false ∧ p target = false)
    (run : Ends (evaluateAttrs setting place around names attrs) s attrs' s') :
    (attrs'.filter fun a => p a.1) = attrs.filter fun a => p a.1 := by
  induction names generalizing attrs s with
  | nil => rw [(ends_pure_iff.1 run).1]
  | cons name names ih =>
    have later := fun n hn => other n (List.mem_cons_of_mem name hn)
    obtain ⟨-, hrest⟩ | ⟨target, source, value?, w, hname, -, -, hrest⟩ :=
      ends_evaluateAttrs_cons run
    · exact ih later hrest
    · obtain ⟨pname, ptarget⟩ := other name List.mem_cons_self target hname
      rw [ih later hrest, filter_settle attrs pname ptarget]

theorem get?_evaluateAttrs_of_apart {n : String}
    (apart : ∀ name ∈ names, ∀ target,
      evaluatedName? setting.options.evalMarker name = some target → n ≠ name ∧ n ≠ target)
    (run : Ends (evaluateAttrs setting place around names attrs) s attrs' s') :
    attrs'.get? n = attrs.get? n := by
  have kept := filter_evaluateAttrs (p := fun m => m == n) (fun name hn target hname => by
    obtain ⟨hother, hother'⟩ := apart name hn target hname
    exact ⟨beq_eq_false_iff_ne.2 hother.symm, beq_eq_false_iff_ne.2 hother'.symm⟩) run
  have read (b : Attrs) : Bindings.get? (b.filter fun a => a.1 == n) n = b.get? n :=
    (Bindings.get?_filter b (fun m => m == n) n).trans (if_pos (beq_self_eq_true n))
  rw [← read attrs', kept, read]

/-- No attribute that is evaluated is set by one that is. -/
def Unnested (marker : String) (names : List String) : Prop :=
  ∀ name ∈ names, ∀ target, EvaluatedForm marker name target →
    ∀ t, ¬ EvaluatedForm marker target t

theorem unnested_of_evaluatedName? {marker : String} (separable : Separable marker)
    (plain : ∀ name ∈ names, ∀ target ∈ evaluatedName? marker name,
      evaluatedName? marker target = none) : Unnested marker names := by
  intro name hn target form t form'
  have hname := evaluatedName?_eq_some_iff.2 ⟨separable, form⟩
  have hnone := plain name hn target hname
  rw [evaluatedName?_eq_some_iff.2 ⟨separable, form'⟩] at hnone
  cases hnone

/-- Two evaluated attributes have nothing to do with each other. -/
theorem apart_of_unnested_cons {marker name target : String}
    (nodup : (name :: names).Nodup) (unnested : Unnested marker (name :: names))
    (hname : evaluatedName? marker name = some target) :
    ∀ m ∈ names, ∀ t, evaluatedName? marker m = some t →
      (name ≠ m ∧ name ≠ t) ∧ target ≠ m ∧ target ≠ t := by
  obtain ⟨-, form⟩ := evaluatedName?_eq_some_iff.1 hname
  intro m hm t ht
  obtain ⟨-, form'⟩ := evaluatedName?_eq_some_iff.1 ht
  have apart : name ≠ m := fun same => (List.nodup_cons.1 nodup).1 (same ▸ hm)
  refine ⟨⟨apart, ?_⟩, ?_, ?_⟩
  · rintro rfl
    exact unnested m (List.mem_cons_of_mem _ hm) _ form' _ form
  · rintro rfl
    exact unnested name List.mem_cons_self _ form _ form'
  · rintro rfl
    exact apart (form.inj form')

theorem evaluated_of_mem {calls : W → List τ} (pure : setting.evaluator.Pure calls)
    (nodup : names.Nodup) (unnested : Unnested setting.options.evalMarker names)
    {name target source : String} (mem : name ∈ names)
    (hname : evaluatedName? setting.options.evalMarker name = some target)
    (hsource : attrs.get? name = some source)
    (run : Ends (evaluateAttrs setting place around names attrs) s attrs' s') :
    attrs'.get? name = none ∧ ∃ v, Gives setting.evaluator place.scope source v ∧
      DecidedBy setting.evaluator v (attrs.get? target) (attrs'.get? target) := by
  induction names generalizing attrs s with
  | nil => exact absurd mem List.not_mem_nil
  | cons m names ih =>
    have nodup' := (List.nodup_cons.1 nodup).2
    have unnested' : Unnested setting.options.evalMarker names :=
      fun n hn => unnested n (List.mem_cons_of_mem m hn)
    obtain ⟨passed, hrest⟩ | ⟨t, src, value?, w, hm, hsrc, hvalue, hrest⟩ :=
      ends_evaluateAttrs_cons run
    · rcases List.mem_cons.1 mem with rfl | mem
      · rcases passed with passed | passed
        · rw [hname] at passed
          cases passed
        · rw [hsource] at passed
          cases passed
      · exact ih nodup' unnested' mem hsource hrest
    · have apart := apart_of_unnested_cons nodup unnested hm
      have behind : t ≠ m := (evaluatedName?_eq_some_iff.1 hm).2.ne
      rcases List.mem_cons.1 mem with rfl | mem
      · obtain rfl : target = t := Option.some.inj (hname.symm.trans hm)
        obtain rfl : source = src := Option.some.inj (hsource.symm.trans hsrc)
        obtain ⟨v, gives, decides⟩ := decides_of_attributeText pure hvalue
        refine ⟨?_, v, gives, ?_⟩
        · rw [get?_evaluateAttrs_of_apart (fun n hn x hx => (apart n hn x hx).1) hrest,
            get?_settle attrs behind, if_pos rfl]
        · rw [get?_evaluateAttrs_of_apart (fun n hn x hx => (apart n hn x hx).2) hrest,
            get?_settle attrs behind, if_neg behind, if_pos rfl]
          exact decides _
      · obtain ⟨⟨hmn, hmt⟩, htn, htt⟩ := apart name mem target hname
        have kept : attrs.get? target = (settle attrs m t value?).get? target := by
          rw [get?_settle attrs behind, if_neg hmt.symm, if_neg htt.symm]
        rw [kept]
        refine ih nodup' unnested' mem ?_ hrest
        rw [get?_settle attrs behind, if_neg hmn.symm, if_neg htn.symm, hsource]

end Run

/-! ### The element -/

/-- What the attributes of an element are after its evaluated ones have been evaluated: these are
gone, each has set its target as its value says, and the others are as they were. What is under a
target whose value is absent, `kept` says. -/
structure Evaluated (ev : Evaluator V W) (scope : Scope V) (marker : String)
    (kept : String → Option String) (before after : Attrs) : Prop where
  gone : ∀ name target, EvaluatedForm marker name target → after.get? name = none
  decided : ∀ name target source, EvaluatedForm marker name target → (name, source) ∈ before →
    ∃ v, Gives ev scope source v ∧ DecidedBy ev v (kept target) (after.get? target)
  others : ∀ p : String → Bool,
    (∀ name ∈ before.names, ∀ target, EvaluatedForm marker name target →
      p name = false ∧ p target = false) →
    (after.filter fun a => p a.1) = before.filter fun a => p a.1

section Element

variable {setting : Setting V W} {place : Place V} {around : Attrs → List Node}
  {attrs attrs' : Attrs} {s s' : State W} {calls : W → List τ}

/-- The values decide their targets, except that an absent one leaves its target as it is. -/
theorem evaluated_evaluateAttrs (pure : setting.evaluator.Pure calls) (nodup : attrs.names.Nodup)
    (unnested : Unnested setting.options.evalMarker attrs.names)
    (separable : Separable setting.options.evalMarker)
    (run : Ends (evaluateAttrs setting place around attrs.names attrs) s attrs' s') :
    Evaluated setting.evaluator place.scope setting.options.evalMarker attrs.get? attrs attrs' where
  gone name target form := by
    have hname := evaluatedName?_eq_some_iff.2 ⟨separable, form⟩
    cases hsource : attrs.get? name with
    | some source =>
      have mem := List.mem_map_of_mem (f := Prod.fst) (Bindings.mem_of_get? hsource)
      exact (evaluated_of_mem pure nodup unnested mem hname hsource run).1
    | none =>
      have apart : ∀ m ∈ attrs.names, ∀ t,
          evaluatedName? setting.options.evalMarker m = some t → name ≠ m ∧ name ≠ t := by
        intro m hm t ht
        refine ⟨?_, ?_⟩
        · rintro rfl
          have bound := (Bindings.isSome_get?_iff attrs name).2 hm
          rw [hsource] at bound
          cases bound
        · rintro rfl
          exact unnested m hm _ (evaluatedName?_eq_some_iff.1 ht).2 _ form
      rw [get?_evaluateAttrs_of_apart apart run, hsource]
  decided name target source form mem :=
    (evaluated_of_mem pure nodup unnested (List.mem_map_of_mem mem)
      (evaluatedName?_eq_some_iff.2 ⟨separable, form⟩) (Bindings.get?_of_mem nodup mem) run).2
  others p other := filter_evaluateAttrs (fun name hn target hname =>
    other name hn target (evaluatedName?_eq_some_iff.1 hname).2) run

theorem evaluateAttrs_of_not_separable (separable : ¬ Separable setting.options.evalMarker)
    (run : Ends (evaluateAttrs setting place around attrs.names attrs) s attrs' s') :
    attrs' = attrs := by
  have all := filter_evaluateAttrs (p := fun _ => true) (fun name _ target hname => by
    rw [evaluatedName?_of_not_separable separable] at hname
    cases hname) run
  rwa [List.filter_eq_self.2 fun _ _ => rfl, List.filter_eq_self.2 fun _ _ => rfl] at all

/-- What becomes of attributes when those that have the form of evaluated ones are evaluated. The
values alone decide the targets exactly when all of that form are recognized by the marker, and none
that has an absent value stands beside an attribute with the name of its target. -/
theorem evaluateAttrs_decides_iff (pure : setting.evaluator.Pure calls) (nodup : attrs.names.Nodup)
    (unnested : Unnested setting.options.evalMarker attrs.names)
    (run : Ends (evaluateAttrs setting place around attrs.names attrs) s attrs' s') :
    let marker := setting.options.evalMarker
    (if Separable marker then
      Evaluated setting.evaluator place.scope marker attrs.get? attrs attrs'
    else attrs' = attrs) ∧
    (Evaluated setting.evaluator place.scope marker (fun _ => none) attrs attrs' ↔
      ∀ name target source, EvaluatedForm marker name target → (name, source) ∈ attrs →
        Separable marker ∧ ∀ v, Gives setting.evaluator place.scope source v →
          setting.evaluator.kind v = .absent → attrs.get? target = none) := by
  intro marker
  by_cases separable : Separable marker
  · have known := evaluated_evaluateAttrs pure nodup unnested separable run
    refine ⟨by rwa [if_pos separable], fun h name target source form mem => ?_, fun h => ?_⟩
    · refine ⟨separable, fun v gives absent => ?_⟩
      obtain ⟨u, gives', decides⟩ := known.decided name target source form mem
      obtain ⟨u', gives'', decides'⟩ := h.decided name target source form mem
      obtain rfl := gives.unique s.world gives'
      obtain rfl := gives.unique s.world gives''
      rw [DecidedBy, absent] at decides decides'
      exact decides.symm.trans decides'
    · refine ⟨known.gone, fun name target source form mem => ?_, known.others⟩
      obtain ⟨v, gives, decides⟩ := known.decided name target source form mem
      refine ⟨v, gives, ?_⟩
      have only := (h name target source form mem).2 v gives
      unfold DecidedBy at decides ⊢
      cases hkind : setting.evaluator.kind v with
      | absent =>
        rw [hkind] at decides
        exact decides.trans (only hkind)
      | _ => rwa [hkind] at decides
  · have same := evaluateAttrs_of_not_separable separable run
    refine ⟨by rwa [if_neg separable], fun h name target source form mem => ?_, fun h => ?_⟩
    · have gone := h.gone name target form
      rw [same, Bindings.get?_of_mem nodup mem] at gone
      cases gone
    · have none_evaluated : ∀ name target, EvaluatedForm marker name target →
          name ∉ attrs.names := by
        intro name target form mem
        obtain ⟨a, ha, rfl⟩ := List.mem_map.1 mem
        exact separable (h a.1 target a.2 form ha).1
      refine ⟨fun name target form => ?_, fun name target source form mem => ?_, fun p _ => ?_⟩
      · rw [same, ← Option.not_isSome_iff_eq_none, Bindings.isSome_get?_iff]
        exact none_evaluated name target form
      · exact absurd (List.mem_map_of_mem mem) (none_evaluated name target form)
      · rw [same]

end Element

/-- A place that sees a text under one name and an absent value under another. -/
def namedPlace : Place NameValue := { scope := .root [("who", .text "Ann"), ("none", .nothing)] }

/-- Evaluated attributes without others of the names that they set. -/
def tagged : Attrs := [("eval:title", "who"), ("id", "x"), ("eval:lang", "none")]

theorem evaluateAttrs_decides_tagged :
    tagged.names.Nodup ∧ Unnested nameSetting.options.evalMarker tagged.names ∧
    (evaluateAttrs nameSetting namedPlace (fun _ => []) tagged.names tagged
      (nameStart [])).1.toOption = some [("id", "x"), ("title", "Ann")] ∧
    Evaluated nameLanguage namedPlace.scope "eval" (fun _ => none) tagged
      [("id", "x"), ("title", "Ann")] := by
  have nodup : tagged.names.Nodup := by decide
  have unnested : Unnested nameSetting.options.evalMarker tagged.names :=
    unnested_of_evaluatedName? (by decide) (by decide)
  have done : (evaluateAttrs nameSetting namedPlace (fun _ => []) tagged.names tagged
      (nameStart [])).1.toOption = some [("id", "x"), ("title", "Ann")] := by decide +kernel
  have single : ∀ a ∈ tagged, ∀ target ∈ evaluatedName? "eval" a.1, tagged.get? target = none := by
    decide
  refine ⟨nodup, unnested, done, (evaluateAttrs_decides_iff nameLanguage_pure nodup unnested
    (ends_of_toOption done)).2.2 fun name target source form mem => ⟨by decide, fun v _ _ => ?_⟩⟩
  exact single _ mem target (evaluatedName?_eq_some_iff.2 ⟨by decide, form⟩)

/-- An absent value leaves an attribute in place that it should leave out. -/
theorem absent_value_leaves_attribute :
    let attrs : Attrs := [("lang", "en"), ("eval:lang", "none")]
    attrs.names.Nodup ∧ Unnested nameSetting.options.evalMarker attrs.names ∧
    (evaluateAttrs nameSetting namedPlace (fun _ => []) attrs.names attrs (nameStart [])).1.toOption
      = some [("lang", "en")] ∧
    ¬ Evaluated nameLanguage namedPlace.scope "eval" (fun _ => none) attrs [("lang", "en")] := by
  refine ⟨by decide, unnested_of_evaluatedName? (by decide) (by decide), by decide +kernel,
    fun h => ?_⟩
  obtain ⟨v, gives, decides⟩ :=
    h.decided "eval:lang" "lang" "none" ⟨by decide, by decide⟩ (by decide)
  have absent : Gives nameLanguage namedPlace.scope "none" .nothing := fun w => ⟨_, rfl⟩
  obtain rfl := gives.unique {} absent
  cases decides

end HtmlTemplate.Expand
