import HtmlTemplate.Expand.Reference

/-!
# Runs that end

`Ends x s a s'` says that the computation `x`, started in the state `s`, does not fail but ends with
`a` in the state `s'`. For every way to put computations together there is a lemma that takes such a
run apart into the runs of the parts.
-/

namespace HtmlTemplate.Expand

open HtmlTemplate.Markup HtmlTemplate.Component

variable {ε σ α β : Type}

/-- A computation that is started in one state ends with a result in another. -/
def Ends (x : ExceptT ε (StateM σ) α) (s : σ) (a : α) (s' : σ) : Prop :=
  @Eq (Except ε α × σ) (x s) (.ok a, s')

theorem ends_unique {x : ExceptT ε (StateM σ) α} {s s' t' : σ} {a b : α} (h : Ends x s a s')
    (h' : Ends x s b t') : a = b ∧ s' = t' := by
  have both : ((Except.ok a : Except ε α), s') = (.ok b, t') := h.symm.trans h'
  simpa using both

theorem run_bind (x : ExceptT ε (StateM σ) α) (f : α → ExceptT ε (StateM σ) β) (s : σ) :
    @Eq (Except ε β × σ) ((x >>= f) s) (match (x s : Except ε α × σ) with
      | (.ok a, s₁) => f a s₁
      | (.error e, s₁) => (.error e, s₁)) := by
  simp only [bind, ExceptT.bind, ExceptT.mk, ExceptT.bindCont, StateT.bind]
  rcases x s with ⟨e | a, s₁⟩ <;> rfl

theorem ends_bind_iff {x : ExceptT ε (StateM σ) α} {f : α → ExceptT ε (StateM σ) β} {s s' : σ}
    {b : β} : Ends (x >>= f) s b s' ↔ ∃ a s₁, Ends x s a s₁ ∧ Ends (f a) s₁ b s' := by
  unfold Ends
  rw [run_bind]
  rcases (x s : Except ε α × σ) with ⟨e | a, s₁⟩
  · simp
  · exact ⟨fun h => ⟨a, s₁, rfl, h⟩, by rintro ⟨_, _, ⟨rfl, rfl⟩, h⟩; exact h⟩

theorem run_bind_of_ends {x : ExceptT ε (StateM σ) α} {s s₁ : σ} {a : α} (run : Ends x s a s₁)
    (f : α → ExceptT ε (StateM σ) β) : (x >>= f) s = f a s₁ := by
  refine (run_bind x f s).trans ?_
  rw [run]

theorem run_get_bind (f : σ → ExceptT ε (StateM σ) α) (s : σ) :
    @Eq (Except ε α × σ) ((get >>= f) s) (f s s) := rfl

theorem run_modify_bind (g : σ → σ) (f : PUnit → ExceptT ε (StateM σ) α) (s : σ) :
    @Eq (Except ε α × σ) ((modify g >>= f) s) (f ⟨⟩ (g s)) := rfl

/-- What follows a computation matters only for what it ends with. -/
theorem bind_congr_of_ends {x : ExceptT ε (StateM σ) α} {f g : α → ExceptT ε (StateM σ) β} {s : σ}
    (h : ∀ a s', Ends x s a s' → f a s' = g a s') : (x >>= f) s = (x >>= g) s := by
  refine (run_bind x f s).trans (Eq.trans ?_ (run_bind x g s).symm)
  cases run : (x s : Except ε α × σ) with
  | mk result s₁ =>
    cases result with
    | error e => rfl
    | ok a => exact h a s₁ run

theorem bind_congr_start {x y : ExceptT ε (StateM σ) α} {s : σ}
    (h : @Eq (Except ε α × σ) (x s) (y s)) (f : α → ExceptT ε (StateM σ) β) :
    (x >>= f) s = (y >>= f) s := by
  refine (run_bind x f s).trans (Eq.trans ?_ (run_bind y f s).symm)
  rw [h]

theorem ends_pure_iff {a b : α} {s s' : σ} :
    Ends (pure a : ExceptT ε (StateM σ) α) s b s' ↔ a = b ∧ s = s' := by
  change ((Except.ok a : Except ε α), s) = (.ok b, s') ↔ _
  simp

theorem not_ends_throw {e : ε} {s s' : σ} {a : α} :
    ¬ Ends (throw e : ExceptT ε (StateM σ) α) s a s' := by
  change ¬ ((Except.error e : Except ε α), s) = (.ok a, s')
  simp

theorem not_ends_bind {x : ExceptT ε (StateM σ) α} {f : α → ExceptT ε (StateM σ) β}
    (h : ∀ a s b t, ¬ Ends (f a) s b t) (s : σ) (b : β) (t : σ) : ¬ Ends (x >>= f) s b t := by
  intro run
  obtain ⟨a, s₁, -, hfs⟩ := ends_bind_iff.1 run
  exact h a s₁ b t hfs

theorem ends_get_iff {s s' t : σ} :
    Ends (get : ExceptT ε (StateM σ) σ) s t s' ↔ s = t ∧ s = s' := by
  change ((Except.ok s : Except ε σ), s) = (.ok t, s') ↔ _
  simp

theorem ends_get_bind_iff {f : σ → ExceptT ε (StateM σ) α} {s s' : σ} {a : α} :
    Ends (get >>= f) s a s' ↔ Ends (f s) s a s' := by
  rw [ends_bind_iff]
  constructor
  · rintro ⟨t, s₁, hget, run⟩
    obtain ⟨rfl, rfl⟩ := ends_get_iff.1 hget
    exact run
  · exact fun run => ⟨s, s, ends_get_iff.2 ⟨rfl, rfl⟩, run⟩

theorem ends_modifyGet_iff {f : σ → α × σ} {s s' : σ} {a : α} :
    Ends (modifyGet f : ExceptT ε (StateM σ) α) s a s' ↔ f s = (a, s') := by
  change ((Except.ok (f s).1 : Except ε α), (f s).2) = (.ok a, s') ↔ _
  simp [Prod.ext_iff]

theorem ends_modify_iff {f : σ → σ} {s s' : σ} {u : PUnit} :
    Ends (modify f : ExceptT ε (StateM σ) PUnit) s u s' ↔ f s = s' := by
  change ((Except.ok ⟨⟩ : Except ε PUnit), f s) = (.ok u, s') ↔ _
  simp

theorem run_tryCatch (x : ExceptT ε (StateM σ) α) (handle : ε → ExceptT ε (StateM σ) α) (s : σ) :
    @Eq (Except ε α × σ) (tryCatch x handle s) (match (x s : Except ε α × σ) with
      | (.ok a, s₁) => (.ok a, s₁)
      | (.error e, s₁) => handle e s₁) := by
  simp only [tryCatch, tryCatchThe, MonadExceptOf.tryCatch, ExceptT.tryCatch, ExceptT.mk, bind,
    StateT.bind]
  rcases (x s : Except ε α × σ) with ⟨e | a, s₁⟩ <;> rfl

/-- A run that ends does not get to what handles errors. -/
theorem ends_tryCatch_of_ends {x : ExceptT ε (StateM σ) α} {s s' : σ} {a : α}
    (run : Ends x s a s') (handle : ε → ExceptT ε (StateM σ) α) :
    Ends (tryCatch x handle) s a s' := by
  refine (run_tryCatch x handle s).trans ?_
  rw [run]

theorem exists_of_bind_eq_ok {result : Except ε α} {f : α → Except ε β} {b : β}
    (h : result >>= f = .ok b) : ∃ a, result = .ok a ∧ f a = .ok b := by
  cases result with
  | error e => cases h
  | ok a => exact ⟨a, rfl, h⟩

theorem exists_of_map_eq_ok {result : Except ε α} {f : α → β} {b : β}
    (h : result.map f = .ok b) : ∃ a, result = .ok a ∧ f a = b := by
  cases result with
  | error e => cases h
  | ok a => exact ⟨a, rfl, Except.ok.inj h⟩

theorem eq_ok_of_toOption {result : Except ε α} {a : α} (h : result.toOption = some a) :
    result = .ok a := by
  cases result with
  | error e => cases h
  | ok b => exact congrArg Except.ok (Option.some.inj h)

theorem exists_error_of_toOption {result : Except ε α} (h : result.toOption = none) :
    ∃ e, result = .error e := by
  cases result with
  | error e => exact ⟨e, rfl⟩
  | ok b => cases h

/-- A run that can be computed ends as the computation says. -/
theorem ends_of_toOption {x : ExceptT ε (StateM σ) α} {s : σ} {a : α}
    (h : (x s).1.toOption = some a) : Ends x s a (x s).2 :=
  Prod.ext (eq_ok_of_toOption h) rfl

/-! ### Expansions -/

theorem mapError_ok {ε' : Type} (f : ε → ε') (a : α) :
    (Except.ok a : Except ε α).mapError f = .ok a := rfl

theorem mapError_error {ε' : Type} (f : ε → ε') (e : ε) :
    (Except.error e : Except ε α).mapError f = .error (f e) := rfl

namespace Expansion

variable {V W : Type}

theorem not_ends_stop {place : Place V} {left : List Node} {fault : Fault} {s s' : State W}
    {a : α} : ¬ Ends (stop place left fault) s a s' :=
  not_ends_throw

theorem not_ends_refuse {place : Place V} {left : List Node} {p : Problem} {s s' : State W}
    {a : α} : ¬ Ends (refuse place left p) s a s' := not_ends_stop

theorem ends_compute_iff {place : Place V} {left : List Node} {x : Act W α} {s s' : State W}
    {a : α} : Ends (compute place left x) s a s' ↔
      ∃ w, Ends x s.world a w ∧ { s with world := w } = s' := by
  change @Eq (Except Stop α × State W) (let r : Except Fault α × W := x s.world
    (r.1.mapError (⟨·, place.stack, left⟩), { s with world := r.2 })) _ ↔ _
  unfold Ends
  rcases (x s.world : Except Fault α × W) with ⟨e | b, w⟩ <;>
    simp [mapError_ok, mapError_error, and_assoc]

theorem ends_observe_iff {f : W → α} {s s' : State W} {a : α} :
    Ends (observe f) s a s' ↔ f s.world = a ∧ s = s' := by
  change ((Except.ok (f s.world) : Except Stop α), s) = (.ok a, s') ↔ _
  simp

theorem ends_within_iff {f : List Node → List Node} {x : Expansion W α} {s s' : State W} {a : α} :
    Ends (within f x) s a s' ↔ ∃ s₁, Ends x { s with notes := [] } a s₁ ∧
      { s₁ with notes := s₁.notes.map (Note.within f) ++ s.notes } = s' := by
  change @Eq (Except Stop α × State W) (let r : Except Stop α × State W := x { s with notes := [] }
    (r.1.mapError fun stop => { stop with left := f stop.left },
      { r.2 with notes := r.2.notes.map (Note.within f) ++ s.notes })) _ ↔ _
  unfold Ends
  rcases (x { s with notes := [] } : Except Stop α × State W) with ⟨e | b, s₁⟩ <;>
    simp [mapError_ok, mapError_error, and_assoc]

theorem ends_whole_iff {x : Expansion W α} {s s' : State W} {a : α} :
    Ends (whole x) s a s' ↔ ∃ s₁, Ends x { s with notes := [] } a s₁ ∧
      { s₁ with notes := s₁.notes.map Note.complete ++ s.notes } = s' := by
  change @Eq (Except Stop α × State W) (let r : Except Stop α × State W := x { s with notes := [] }
    (r.1, { r.2 with notes := r.2.notes.map Note.complete ++ s.notes })) _ ↔ _
  unfold Ends
  rcases (x { s with notes := [] } : Except Stop α × State W) with ⟨e | b, s₁⟩ <;> simp [and_assoc]

theorem ends_apart_iff {left : W → List Node} {x : Expansion W α} {s s' : State W} {a : α} :
    Ends (apart left x) s a s' ↔ Ends (whole x) s a s' := by
  change @Eq (Except Stop α × State W) (let r : Except Stop α × State W := whole x s
    (r.1.mapError fun stop => { stop with left := left r.2.world }, r.2)) _ ↔ _
  unfold Ends
  rcases (whole x s : Except Stop α × State W) with ⟨e | b, s₁⟩ <;>
    simp [mapError_ok, mapError_error]

theorem ends_attaching_iff {stack : List String} {x : Expansion W α} {s s' : State W} {a : α} :
    Ends (attaching stack x) s a s' ↔ Ends x s a s' := by
  change @Eq (Except Stop α × State W) (let r : Except Stop α × State W := x s
    (r.1.mapError fun stop => { stop with fault := stop.fault.attach stack }, r.2)) _ ↔ _
  unfold Ends
  rcases (x s : Except Stop α × State W) with ⟨e | b, s₁⟩ <;> simp [mapError_ok, mapError_error]

/-- Taking a step changes neither the evaluator nor the registry. -/
theorem ends_noteStep {o : Options} {forest : List Node} {s s' : State W} {u : Unit}
    (h : Ends (noteStep o forest) s u s') : s'.world = s.world ∧ s'.registry = s.registry := by
  unfold noteStep at h
  split at h
  · rw [← ends_modify_iff.1 h]
    exact ⟨rfl, rfl⟩
  · rw [← (ends_pure_iff.1 h).2]
    exact ⟨rfl, rfl⟩

theorem exists_ends_noteStep (o : Options) (forest : List Node) (s : State W) :
    ∃ s', Ends (noteStep o forest) s () s' := by
  unfold noteStep
  split
  · exact ⟨_, ends_modify_iff.2 rfl⟩
  · exact ⟨_, ends_pure_iff.2 ⟨rfl, rfl⟩⟩

end Expansion

end HtmlTemplate.Expand
