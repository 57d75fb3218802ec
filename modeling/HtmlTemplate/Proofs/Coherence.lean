import HtmlTemplate.Component.Registry
import HtmlTemplate.Proofs.Bindings
import HtmlTemplate.Proofs.Runs

/-!
# Coherent registries

`RegistryState.supplies` is what a registry gives for a name, and looking a component up does not
change it (`Lookup.exists_run_source`). A registry is coherent when every source that it keeps is
what its loader gives for the name. Then what it gives for a name (`RegistryState.given`) depends
only on the sources that were set by hand, on the loader and on the files, neither on what it keeps
nor on whether it keeps anything at all. Looking a component up, loading all components and
forgetting them leave a coherent registry coherent, however they end. `RegistryState.answer?` is the
source that a registry gives for a component, wherever it has it from; a lookup gives the answer and
keeps all answers as they are.
-/

namespace HtmlTemplate.Component

open HtmlTemplate.Expand

/-- What the loader of a registry gives for a name. -/
def RegistryState.loaded (r : RegistryState) (name : String) : Except LoadError String :=
  match r.registry.loader? with
  | none => .error (.notFound name []
      (some "No component loader configured; pass components= or a loader"))
  | some loader => (loader.source r.files name).map Source.text

/-- What a registry gives for a name when it keeps nothing. -/
def RegistryState.given (r : RegistryState) (name : String) : Except LoadError String :=
  match r.registry.overrides.get? name with
  | some text => .ok text
  | none => r.loaded name

/-- What a registry gives for a name, with what it keeps. -/
def RegistryState.supplies (r : RegistryState) (name : String) : Except LoadError String :=
  match Lookup.known? r.registry name with
  | some (text, _) => .ok text
  | none => r.loaded name

/-- Every source that a registry keeps is what its loader gives. -/
def RegistryState.Coherent (r : RegistryState) : Prop :=
  ∀ name text, r.registry.cache.get? name = some text → r.loaded name = .ok text

/-- Two registries have their sources from the same places. -/
structure SameSources (r r' : RegistryState) : Prop where
  overrides : r'.registry.overrides = r.registry.overrides
  loader : r'.registry.loader? = r.registry.loader?
  files : r'.files = r.files

/-- A registry that becomes another one keeps its sources, and its coherence. -/
structure Retains (r r' : RegistryState) : Prop where
  same : SameSources r r'
  coherent : r.Coherent → r'.Coherent

/-- A coherent registry that has its sources from where another one has them. -/
structure RegistryState.Serves (base r : RegistryState) : Prop where
  coherent : r.Coherent
  same : SameSources base r

namespace SameSources

variable {r r' r'' : RegistryState}

theorem refl (r : RegistryState) : SameSources r r := ⟨rfl, rfl, rfl⟩

theorem symm (h : SameSources r r') : SameSources r' r :=
  ⟨h.overrides.symm, h.loader.symm, h.files.symm⟩

theorem trans (h : SameSources r r') (h' : SameSources r' r'') : SameSources r r'' :=
  ⟨h'.overrides.trans h.overrides, h'.loader.trans h.loader, h'.files.trans h.files⟩

theorem loaded_eq (h : SameSources r r') : r'.loaded = r.loaded := by
  funext name
  rw [RegistryState.loaded, RegistryState.loaded, h.loader, h.files]

theorem given_eq (h : SameSources r r') : r'.given = r.given := by
  funext name
  rw [RegistryState.given, RegistryState.given, h.overrides, h.loaded_eq]

end SameSources

namespace Retains

variable {r r' r'' : RegistryState}

theorem trans (h : Retains r r') (h' : Retains r' r'') : Retains r r'' :=
  ⟨h.same.trans h'.same, fun coherent => h'.coherent (h.coherent coherent)⟩

/-- Only sources that the loader gives are kept in addition. -/
theorem of_cache (same : SameSources r r')
    (kept : ∀ name text, r'.registry.cache.get? name = some text →
      r.registry.cache.get? name = some text ∨ r.loaded name = .ok text) : Retains r r' := by
  refine ⟨same, fun coherent name text found => ?_⟩
  rw [same.loaded_eq]
  exact (kept name text found).elim (coherent name text) id

/-- A registry that keeps the same keeps its coherence. -/
theorem of_same (same : SameSources r r') (cache : r'.registry.cache = r.registry.cache) :
    Retains r r' :=
  of_cache same fun _ _ found => .inl (cache ▸ found)

theorem refl (r : RegistryState) : Retains r r := of_same (.refl r) rfl

/-- The log of a registry is no matter for its sources. -/
theorem of_log {log log' : List String} (h : Retains { r with log := log } r') :
    Retains r { r' with log := log' } := by
  have before : Retains r { r with log := log } := of_same ⟨rfl, rfl, rfl⟩ rfl
  have after : Retains r' { r' with log := log' } := of_same ⟨rfl, rfl, rfl⟩ rfl
  exact before.trans (h.trans after)

end Retains

theorem RegistryState.Serves.retain {base r r' : RegistryState} (h : base.Serves r)
    (kept : Retains r r') : base.Serves r' :=
  ⟨kept.coherent h.coherent, h.same.trans kept.same⟩

namespace Lookup

variable {name text : String} {r : RegistryState}

/-! ### Looking components up -/

theorem run_ask (loader : Loader) (name : String) (r : RegistryState) :
    @Eq (Except LoadError Source × RegistryState) (ask loader name r)
      (loader.source r.files name, { r with asked := name :: r.asked }) := by
  unfold ask
  rw [run_modify_bind, run_get_bind]
  dsimp only
  cases loader.source r.files name <;> rfl

theorem retains_remember (loaded : r.loaded name = .ok text) :
    Retains r
      { r with registry := { r.registry with cache := r.registry.cache.put name text } } := by
  refine .of_cache ⟨rfl, rfl, rfl⟩ fun m kept found => ?_
  rw [Bindings.get?_put] at found
  split at found
  · rename_i same
    cases found
    exact .inr (same ▸ loaded)
  · exact .inl found

/-- Keeping a source that the loader has just given is right. -/
theorem loaded_of_source {loader : Loader} {found : Source}
    (hloader : r.registry.loader? = some loader)
    (hfound : loader.source r.files name = .ok found) : r.loaded name = .ok found.text := by
  rw [RegistryState.loaded, hloader]
  exact congrArg (Except.map Source.text) hfound

/-- The source that a coherent registry has without its loader is the one that it gives. -/
theorem given_of_known {origin : String} (coherent : r.Coherent)
    (known : known? r.registry name = some (text, origin)) : r.given name = .ok text := by
  rw [RegistryState.given]
  unfold known? at known
  cases hover : r.registry.overrides.get? name with
  | some found =>
    simp only [hover, Option.some.injEq, Prod.mk.injEq] at known
    exact congrArg Except.ok known.1
  | none =>
    simp only [hover] at known
    split at known
    · obtain ⟨found, hfound, heq⟩ := Option.map_eq_some_iff.1 known
      obtain ⟨rfl, -⟩ := Prod.mk.inj heq
      exact coherent name found hfound
    · cases known

theorem given_of_unknown (unknown : known? r.registry name = none) :
    r.given name = r.loaded name := by
  rw [RegistryState.given]
  unfold known? at unknown
  cases hover : r.registry.overrides.get? name with
  | some found => simp [hover] at unknown
  | none => rfl

theorem given_eq_supplies (coherent : r.Coherent) (name : String) :
    r.given name = r.supplies name := by
  unfold RegistryState.supplies
  cases known : known? r.registry name with
  | some found => exact given_of_known coherent known
  | none => exact given_of_unknown known

theorem supplies_congr {r' : RegistryState} (registry : r'.registry = r.registry)
    (files : r'.files = r.files) : r'.supplies = r.supplies := by
  funext m
  unfold RegistryState.supplies RegistryState.loaded
  rw [registry, files]

/-- Keeping what the loader gave changes nothing for any name. -/
theorem supplies_remember (unknown : known? r.registry name = none)
    (loaded : r.loaded name = .ok text) :
    RegistryState.supplies
      { r with registry := { r.registry with cache := r.registry.cache.put name text } } =
        r.supplies := by
  funext m
  by_cases hm : m = name
  · subst hm
    have before : r.supplies m = .ok text := by rw [RegistryState.supplies, unknown, loaded]
    rw [before, RegistryState.supplies]
    cases hover : r.registry.overrides.get? m with
    | some found => simp [known?, hover] at unknown
    | none =>
      cases hcache : r.registry.cacheEnabled with
      | true => simp [known?, hover, hcache, Bindings.get?_put]
      | false =>
        simp only [known?, hover, hcache]
        exact loaded
  · have kept : known? { r.registry with cache := r.registry.cache.put name text } m =
        known? r.registry m := by
      simp [known?, Bindings.get?_put, hm]
    rw [RegistryState.supplies, RegistryState.supplies, kept]
    rfl

/-- Looking a component up gives what the registry supplies, retains its sources and changes nothing
for any name. -/
theorem exists_run_source (name : String) (r : RegistryState) :
    ∃ r', @Eq (Except LoadError String × RegistryState) (source name r) (r.supplies name, r') ∧
      Retains r r' ∧ r'.supplies = r.supplies := by
  rw [source, run_get_bind, RegistryState.supplies]
  cases hknown : known? r.registry name with
  | some known => exact ⟨_, rfl, .of_same ⟨rfl, rfl, rfl⟩ rfl, supplies_congr rfl rfl⟩
  | none =>
    cases hloader : r.registry.loader? with
    | none =>
      refine ⟨r, ?_, .refl r, rfl⟩
      rw [RegistryState.loaded, hloader]
      rfl
    | some loader =>
      simp only
      rw [run_bind, run_ask]
      cases hsource : loader.source r.files name with
      | error e =>
        refine ⟨{ r with asked := name :: r.asked }, ?_, .of_same ⟨rfl, rfl, rfl⟩ rfl,
          supplies_congr rfl rfl⟩
        rw [RegistryState.loaded, hloader]
        simp only [hsource]
        rfl
      | ok found =>
        have loaded := loaded_of_source hloader hsource
        rw [loaded]
        cases hcache : r.registry.cacheEnabled with
        | true =>
          exact ⟨_, rfl, (retains_remember loaded).trans (.of_same ⟨rfl, rfl, rfl⟩ rfl),
            (supplies_congr rfl rfl).trans (supplies_remember hknown loaded)⟩
        | false => exact ⟨_, rfl, .of_same ⟨rfl, rfl, rfl⟩ rfl, supplies_congr rfl rfl⟩

/-- A coherent registry gives for a name what it would give if it kept nothing, and retains its
sources. -/
theorem run_source (coherent : r.Coherent) (name : String) :
    ∃ r', @Eq (Except LoadError String × RegistryState) (source name r) (r.given name, r') ∧
      Retains r r' := by
  obtain ⟨r', run, kept, -⟩ := exists_run_source name r
  exact ⟨r', by rw [given_eq_supplies coherent]; exact run, kept⟩

/-! ### Loading and forgetting components -/

/-- A lookup keeps the sources of every registry that has the given loader. -/
def RetainsFor (loader : Loader) {α : Type} (x : Lookup α) : Prop :=
  ∀ r : RegistryState, r.registry.loader? = some loader → Retains r (x r).2

theorem retainsFor_bind {loader : Loader} {α β : Type} {x : Lookup α} {f : α → Lookup β}
    (hx : RetainsFor loader x) (hf : ∀ a, RetainsFor loader (f a)) :
    RetainsFor loader (x >>= f) := by
  intro r hloader
  have first := hx r hloader
  rw [run_bind]
  cases run : (x r : Except LoadError α × RegistryState) with
  | mk result r₁ =>
    rw [run] at first
    cases result with
    | error e => exact first
    | ok a => exact first.trans (hf a r₁ (first.same.loader.trans hloader))

theorem retainsFor_pure (loader : Loader) {α : Type} (a : α) :
    RetainsFor loader (Pure.pure a : Lookup α) :=
  fun r _ => .refl r

theorem retainsFor_forM {loader : Loader} {load : String → Lookup PUnit}
    (hload : ∀ name, RetainsFor loader (load name)) (names : List String) :
    RetainsFor loader (names.forM load) := by
  induction names with
  | nil => exact retainsFor_pure loader _
  | cons name names ih => exact retainsFor_bind (hload name) fun _ => ih

/-- Asking a loader for a component and keeping what it gives is right. -/
theorem retainsFor_load (loader : Loader) (name : String) :
    RetainsFor loader (do
      let found ← ask loader name
      remember name found.text) := by
  intro r hloader
  rw [run_bind, run_ask]
  cases hsource : loader.source r.files name with
  | error e => exact .of_same ⟨rfl, rfl, rfl⟩ rfl
  | ok found =>
    have asked : Retains r { r with asked := name :: r.asked } := .of_same ⟨rfl, rfl, rfl⟩ rfl
    exact asked.trans (retains_remember (loaded_of_source hloader hsource))

/-- Loading all components keeps what the loader gives for them, also when it stops in the
middle. -/
theorem retains_preload (r : RegistryState) : Retains r (preload r).2 := by
  rw [preload, run_get_bind]
  cases hloader : r.registry.loader? with
  | none => exact .refl r
  | some loader =>
    simp only
    rw [run_get_bind]
    cases loader.list? r.files with
    | error e => exact .refl r
    | ok names? =>
      cases names? with
      | none => exact .refl r
      | some names =>
        have load := retainsFor_forM (retainsFor_load loader) names
        refine retainsFor_bind load (fun _ => ?_) r hloader
        exact fun r _ => .of_same ⟨rfl, rfl, rfl⟩ rfl

theorem retains_clear (r : RegistryState) : Retains r (clear r).2 :=
  .of_cache ⟨rfl, rfl, rfl⟩ fun _ _ found => nomatch found

end Lookup

/-! ### What a registry answers -/

/-- The source that a registry gives for a component, if it gives one. -/
def RegistryState.answer? (r : RegistryState) (name : String) : Option String :=
  match Lookup.known? r.registry name with
  | some (text, _) => some text
  | none => r.registry.loader?.bind fun loader =>
    (loader.source r.files name).toOption.map Source.text

/-- A registry answers with what it supplies. -/
theorem RegistryState.answer?_eq (r : RegistryState) (name : String) :
    r.answer? name = (r.supplies name).toOption := by
  rw [answer?, supplies]
  cases Lookup.known? r.registry name with
  | some found => rfl
  | none =>
    dsimp only
    rw [loaded]
    cases r.registry.loader? with
    | none => rfl
    | some loader =>
      dsimp only [Option.bind_some]
      cases loader.source r.files name <;> rfl

theorem answer?_of_supplies {r r' : RegistryState} (same : r'.supplies = r.supplies) :
    r'.answer? = r.answer? := by
  funext name
  rw [RegistryState.answer?_eq, RegistryState.answer?_eq, same]

namespace Lookup

variable {name text : String} {r r' : RegistryState}

theorem ends_ask_iff {loader : Loader} {found : Source} :
    Ends (ask loader name) r found r' ↔
      loader.source r.files name = .ok found ∧ { r with asked := name :: r.asked } = r' := by
  unfold Ends
  rw [run_ask, Prod.mk.injEq]

/-- A lookup gives what the registry answers, and the registry answers the same afterwards. -/
theorem answer?_of_ends_source (run : Ends (source name) r text r') :
    r.answer? name = some text ∧ r'.answer? = r.answer? := by
  obtain ⟨r₁, run₁, -, kept⟩ := exists_run_source name r
  obtain ⟨given, rfl⟩ := Prod.mk.inj (run₁.symm.trans run)
  refine ⟨?_, answer?_of_supplies kept⟩
  rw [RegistryState.answer?_eq, given]
  rfl

theorem exists_ends_source (answer : r.answer? name = some text) :
    ∃ r', Ends (source name) r text r' := by
  obtain ⟨r', run, -⟩ := exists_run_source name r
  rw [RegistryState.answer?_eq] at answer
  rw [eq_ok_of_toOption answer] at run
  exact ⟨r', run⟩

end Lookup

end HtmlTemplate.Component
