import HtmlTemplate.Proofs.Preloading

/-!
# Components are loaded once

A registry that keeps what it loads asks its loader for the source of a component only when it has
none of its own. `Looked` says what looking a name up does to a registry, and from it `Loads` says
of any request which names the loader was asked for and which of them are kept: just those for
which the loader had a source. So over a whole life of a registry no name is answered twice, and
the names that are kept are those that were answered (`answered_once`). The files may change
between the requests in any way, and a loader of the host may answer by them as it likes.
-/

namespace HtmlTemplate.Component

open Expand

/-! ### Requests -/

/-- What a registry is asked for: the source of a component, or whether there is one. -/
inductive Query
  | source (name : String)
  | has (name : String)

/-- A query with the files as they are when it is made. -/
structure Visit where
  files : FileTree
  query : Query

namespace Query

/-- The name that a query is about. -/
def name : Query → String
  | source name => name
  | has name => name

/-- Makes a query; tells whether there is a component of the name. -/
def run : Query → Lookup Bool
  | source name => do
    let _ ← Lookup.source name
    return true
  | has name => Lookup.has name

end Query

namespace RegistryState

/-- A registry with the files as they are now. -/
def withFiles (r : RegistryState) (files : FileTree) : RegistryState := { r with files := files }

/-- What a visit gives, and the registry after it. -/
def visit (r : RegistryState) (v : Visit) : Except LoadError Bool × RegistryState :=
  v.query.run (r.withFiles v.files)

/-- A registry after visits. -/
def visitAll (r : RegistryState) (visits : List Visit) : RegistryState :=
  visits.foldl (fun r v => (r.visit v).2) r

/-- A registry that loads all components first, with the files as they are then, or does not. -/
def opened (r : RegistryState) : Option FileTree → RegistryState
  | none => r
  | some files => (Lookup.preload (r.withFiles files)).2

/-- The names that the loader was asked for since an earlier state, the last one first. -/
def askedSince (r' r : RegistryState) : List String :=
  r'.asked.take (r'.asked.length - r.asked.length)

/-- Whether the loader has a source for a name. -/
def answers (r : RegistryState) (name : String) : Bool := (r.loaded name).toOption.isSome

/-- The names for which the loader gave a source since an earlier state, between which and now the
files were the same. -/
def answeredSince (r' r : RegistryState) : List String := (r'.askedSince r).filter r'.answers

/-- The names for which the loader gave a source in visits, the last one first. -/
def answeredIn (r : RegistryState) : List Visit → List String
  | [] => []
  | v :: visits => answeredIn (r.visit v).2 visits ++ (r.visit v).2.answeredSince r

end RegistryState

/-! ### One lookup -/

variable {r r' r'' : RegistryState} {name : String} {names : List String}

/-- What looking a name up gives and makes of a registry. -/
inductive Looked (r : RegistryState) (name : String) : Except LoadError String → RegistryState → Prop
  | known {text origin : String} (known : Lookup.known? r.registry name = some (text, origin))
    (log : List String) : Looked r name (.ok text) { r with log := log }
  | nowhere (e : LoadError) : Looked r name (.error e) r
  | refused {loader : Loader} {e : LoadError}
    (unknown : Lookup.known? r.registry name = none) (loader? : r.registry.loader? = some loader)
    (source : loader.source r.files name = .error e) :
    Looked r name (.error e) { r with asked := name :: r.asked }
  | found {loader : Loader} {found : Source}
    (unknown : Lookup.known? r.registry name = none) (loader? : r.registry.loader? = some loader)
    (source : loader.source r.files name = .ok found) (log : List String) :
    Looked r name (.ok found.text) { Lookup.keeping r name found.text with log := log }

theorem looked_source (enabled : r.registry.cacheEnabled = true) (name : String) :
    Looked r name (Lookup.source name r).1 (Lookup.source name r).2 := by
  rw [Lookup.source, run_get_bind]
  cases known : Lookup.known? r.registry name with
  | some origin => exact .known known _
  | none =>
    cases loader? : r.registry.loader? with
    | none => exact .nowhere _
    | some loader =>
      simp only
      rw [run_bind, Lookup.run_ask]
      cases source : loader.source r.files name with
      | error e => exact .refused known loader? source
      | ok found =>
        simp only [enabled, if_true]
        exact .found known loader? source _

/-! ### What a request loads -/

/-- A registry becomes another one by asking its loader for some names, the last one first, and
keeps those among them for which the loader has a source. -/
structure Loads (r r' : RegistryState) (names : List String) : Prop where
  asked : r'.asked = names ++ r.asked
  files : r'.files = r.files
  registry : r'.registry = { r.registry with cache := r'.registry.cache }
  kept : r'.registry.cache.names.Perm (names.filter r.answers ++ r.registry.cache.names)
  distinct : r.registry.cache.names.Nodup → r'.registry.cache.names.Nodup

/-- Asking for names leaves it as it was what the loader has. -/
theorem Loads.answers_eq (h : Loads r r' names) : r'.answers = r.answers := by
  funext name
  rw [RegistryState.answers, RegistryState.answers, RegistryState.loaded, RegistryState.loaded,
    h.registry, h.files]

theorem Loads.askedSince_eq (h : Loads r r' names) : r'.askedSince r = names := by
  rw [RegistryState.askedSince, h.asked, List.length_append, Nat.add_sub_cancel]
  exact List.take_left

theorem Loads.answeredSince_eq (h : Loads r r' names) :
    r'.answeredSince r = names.filter r.answers := by
  rw [RegistryState.answeredSince, h.askedSince_eq, h.answers_eq]

theorem Loads.refl (r : RegistryState) : Loads r r [] := ⟨rfl, rfl, rfl, .refl _, id⟩

theorem Loads.trans {more : List String} (h : Loads r r' names) (h' : Loads r' r'' more) :
    Loads r r'' (more ++ names) where
  asked := by rw [h'.asked, h.asked, List.append_assoc]
  files := h'.files.trans h.files
  registry := by rw [h'.registry, h.registry]
  kept := by
    have first := h'.kept.trans (h.kept.append_left (more.filter r'.answers))
    rwa [h.answers_eq, ← List.append_assoc, ← List.filter_append] at first
  distinct := fun distinct => h'.distinct (h.distinct distinct)

/-- The log is no matter for what a registry has loaded. -/
theorem Loads.with_log (h : Loads r r' names) (log : List String) :
    Loads r { r' with log := log } names :=
  ⟨h.asked, h.files, h.registry, h.kept, h.distinct⟩

theorem answers_of_source {loader : Loader} (loader? : r.registry.loader? = some loader) :
    r.answers name = (loader.source r.files name).toOption.isSome := by
  simp only [RegistryState.answers, RegistryState.loaded, loader?]
  cases loader.source r.files name <;> rfl

/-- A loader that has no source for a name is asked in vain. -/
theorem loads_refused {loader : Loader} {e : LoadError}
    (loader? : r.registry.loader? = some loader) (source : loader.source r.files name = .error e) :
    Loads r { r with asked := name :: r.asked } [name] where
  asked := rfl
  files := rfl
  registry := rfl
  kept := by
    have none : r.answers name = false := by rw [answers_of_source loader?, source]; rfl
    rw [List.filter_cons_of_neg (by simp [none])]
    exact .refl _
  distinct := id

/-- A source that the loader has for a name that is not kept yet is kept. -/
theorem loads_keeping {loader : Loader} {found : Source}
    (fresh : name ∉ r.registry.cache.names) (loader? : r.registry.loader? = some loader)
    (source : loader.source r.files name = .ok found) :
    Loads r (Lookup.keeping r name found.text) [name] where
  asked := rfl
  files := rfl
  registry := rfl
  kept := by
    have some : r.answers name = true := by rw [answers_of_source loader?, source]; rfl
    rw [List.filter_cons_of_pos some, Lookup.cache_keeping, Bindings.put_of_fresh fresh]
    simp [Bindings.names]
  distinct := fun distinct => Bindings.nodup_names_put distinct name found.text

/-- A registry that does not know a name has it neither among the sources set by hand nor among
those that it keeps. -/
theorem fresh_of_unknown (enabled : r.registry.cacheEnabled = true)
    (unknown : Lookup.known? r.registry name = none) :
    name ∉ r.registry.overrides.names ∧ name ∉ r.registry.cache.names := by
  unfold Lookup.known? at unknown
  cases overridden : r.registry.overrides.get? name with
  | some text => simp [overridden] at unknown
  | none =>
    simp only [overridden, enabled, if_true, Option.map_eq_none_iff] at unknown
    exact ⟨Bindings.get?_eq_none_iff.1 overridden, Bindings.get?_eq_none_iff.1 unknown⟩

/-- A request that is made to a registry: what it loads, that it asks for no name that is set by
hand, and that nothing is kept when it fails. -/
structure Asks (r r' : RegistryState) (names : List String) (fails : Prop) : Prop where
  loads : Loads r r' names
  others : ∀ name ∈ names, name ∉ r.registry.overrides.names
  unkept : fails → r'.registry.cache = r.registry.cache

theorem asks_of_looked (enabled : r.registry.cacheEnabled = true)
    {result : Except LoadError String} (looked : Looked r name result r') :
    ∃ names, Asks r r' names (result.toOption = none) := by
  cases looked with
  | known known log => exact ⟨[], (Loads.refl r).with_log log, by simp, fun _ => rfl⟩
  | nowhere e => exact ⟨[], .refl r, by simp, fun _ => rfl⟩
  | refused unknown loader? source =>
    exact ⟨[name], loads_refused loader? source, by simpa using (fresh_of_unknown enabled unknown).1,
      fun _ => rfl⟩
  | found unknown loader? source log =>
    obtain ⟨other, fresh⟩ := fresh_of_unknown enabled unknown
    exact ⟨[name], (loads_keeping fresh loader? source).with_log log, by simpa using other,
      fun fails => nomatch fails⟩

/-- Whether there is a component is told by looking it up. -/
theorem run_has (name : String) (r : RegistryState) :
    @Eq (Except LoadError Bool × RegistryState) (Lookup.has name r)
      (match (Lookup.source name r : Except LoadError String × RegistryState) with
        | (.ok _, r') => (.ok true, r')
        | (.error (.notFound ..), r') => (.ok false, r')
        | (.error e, r') => (.error e, r')) := by
  simp only [Lookup.has, tryCatch, tryCatchThe, MonadExceptOf.tryCatch, ExceptT.tryCatch,
    ExceptT.mk, bind, ExceptT.bind, ExceptT.bindCont, StateT.bind]
  rcases (Lookup.source name r : Except LoadError String × RegistryState) with ⟨e | text, r'⟩
  · cases e <;> rfl
  · rfl

/-- Both queries look their name up, and succeed when it is found. -/
theorem visit_eq (r : RegistryState) (v : Visit) :
    let lookup := (Lookup.source v.query.name (r.withFiles v.files) :
      Except LoadError String × RegistryState)
    (r.visit v).2 = lookup.2 ∧ ((r.visit v).1 ≠ .ok true → lookup.1.toOption = none) := by
  obtain ⟨files, query⟩ := v
  cases query with
  | source name =>
    have run : (r.visit ⟨files, .source name⟩ : Except LoadError Bool × RegistryState) = _ :=
      run_bind (Lookup.source name) (fun _ => pure true) (r.withFiles files)
    rw [run]
    dsimp only [Query.name]
    rcases (Lookup.source name (r.withFiles files) : Except LoadError String × RegistryState) with
      ⟨e | text, r'⟩
    · exact ⟨rfl, fun _ => rfl⟩
    · exact ⟨rfl, fun fails => absurd rfl fails⟩
  | has name =>
    have run : (r.visit ⟨files, .has name⟩ : Except LoadError Bool × RegistryState) = _ :=
      run_has name (r.withFiles files)
    rw [run]
    dsimp only [Query.name]
    rcases (Lookup.source name (r.withFiles files) : Except LoadError String × RegistryState) with
      ⟨e | text, r'⟩
    · cases e <;> exact ⟨rfl, fun _ => rfl⟩
    · exact ⟨rfl, fun fails => absurd rfl fails⟩

theorem asks_visit (enabled : r.registry.cacheEnabled = true) (v : Visit) :
    ∃ names, Asks (r.withFiles v.files) (r.visit v).2 names ((r.visit v).1 ≠ .ok true) := by
  obtain ⟨same, failed⟩ := visit_eq r v
  let now := r.withFiles v.files
  have enabled : now.registry.cacheEnabled = true := enabled
  obtain ⟨names, asks⟩ := asks_of_looked enabled (looked_source enabled v.query.name)
  rw [same]
  exact ⟨names, asks.loads, asks.others, fun fails => asks.unkept (failed fails)⟩

/-! ### Loading all components first -/

section Preload

variable {loader : Loader}

/-- What is loaded name by name, until a name has no source. -/
theorem exists_loads_forM (loader? : r.registry.loader? = some loader) (distinct : names.Nodup)
    (fresh : ∀ name ∈ names, name ∉ r.registry.cache.names) :
    ∃ asked, Loads r (names.forM (Lookup.load loader) r).2 asked := by
  induction names generalizing r with
  | nil => exact ⟨[], .refl r⟩
  | cons name names ih =>
    obtain ⟨other, distinct⟩ := List.nodup_cons.1 distinct
    have first : name ∉ r.registry.cache.names := fresh name List.mem_cons_self
    change ∃ asked, Loads r ((Lookup.load loader name >>= fun _ =>
      names.forM (Lookup.load loader)) r).2 asked
    rw [run_bind]
    have step : (Lookup.load loader name r : Except LoadError Unit × RegistryState) = _ :=
      run_bind (Lookup.ask loader name) (fun found => Lookup.remember name found.text) r
    rw [Lookup.run_ask] at step
    cases source : loader.source r.files name with
    | error e =>
      simp only [source] at step
      rw [step]
      exact ⟨[name], loads_refused loader? source⟩
    | ok found =>
      simp only [source] at step
      have step : Lookup.load loader name r = (.ok (), Lookup.keeping r name found.text) := step
      rw [step]
      -- the names that follow are still not kept, for none of them is the one just loaded
      obtain ⟨asked, rest⟩ := ih (r := Lookup.keeping r name found.text) loader? distinct
        fun n mem kept => by
          rw [Lookup.cache_keeping, Bindings.mem_names_put] at kept
          rcases kept with rfl | kept
          · exact other mem
          · exact fresh n (List.mem_cons_of_mem name mem) kept
      exact ⟨_, (loads_keeping first loader? source).trans rest⟩

/-- Loading all components, with a loader that lists none twice. -/
theorem exists_loads_preload (empty : r.registry.cache = [])
    (distinct : ∀ loader, r.registry.loader? = some loader →
      ∀ names, loader.list? r.files = .ok (some names) → names.Nodup) :
    ∃ asked, Loads r (Lookup.preload r).2 asked := by
  rw [Lookup.preload, run_get_bind]
  cases loader? : r.registry.loader? with
  | none => exact ⟨[], .refl r⟩
  | some loader =>
    simp only
    rw [run_get_bind]
    cases listed : loader.list? r.files with
    | error e => exact ⟨[], .refl r⟩
    | ok names? =>
      cases names? with
      | none => exact ⟨[], .refl r⟩
      | some names =>
        obtain ⟨asked, loads⟩ := exists_loads_forM (r := r) loader? (distinct loader loader? names listed)
          (by simp [empty, Bindings.names])
        refine ⟨asked, ?_⟩
        change Loads r ((names.forM (Lookup.load loader) >>= _) r).2 asked
        rw [run_bind]
        rcases run : (names.forM (Lookup.load loader) r : Except LoadError Unit × RegistryState)
          with ⟨e | ⟨⟩, r'⟩
        · rw [run] at loads
          exact loads
        · rw [run] at loads
          exact loads.with_log _

end Preload

/-! ### The life of a registry -/

/-- What holds of a registry that keeps what it loads all along: the names that it keeps are those
that its loader has answered. -/
structure Keeps (overrides : Bindings String) (r : RegistryState) (answered : List String) : Prop where
  enabled : r.registry.cacheEnabled = true
  overrides : r.registry.overrides = overrides
  distinct : r.registry.cache.names.Nodup
  kept : r.registry.cache.names.Perm answered

section Life

variable {overrides : Bindings String} {answered : List String}

theorem Keeps.load (h : Keeps overrides r answered) (files : FileTree)
    (loads : Loads (r.withFiles files) r' names) :
    Keeps overrides r' (r'.answeredSince r ++ answered) where
  enabled := by rw [loads.registry]; exact h.enabled
  overrides := by rw [loads.registry]; exact h.overrides
  distinct := loads.distinct h.distinct
  kept := by
    have since : r'.answeredSince r = names.filter (r.withFiles files).answers :=
      loads.answeredSince_eq
    rw [since]
    exact loads.kept.trans (h.kept.append_left _)

theorem Keeps.visitAll (h : Keeps overrides r answered) (visits : List Visit) :
    Keeps overrides (r.visitAll visits) (r.answeredIn visits ++ answered) := by
  -- what was answered before a visit is carried along, so that the cache is accounted for in full
  induction visits generalizing r answered with
  | nil => exact h
  | cons v visits ih =>
    obtain ⟨names, asks⟩ := asks_visit h.enabled v
    have rest := ih (h.load v.files asks.loads)
    rwa [← List.append_assoc] at rest

/-- The names of the sources that were set by hand are in their registered form. -/
theorem mem_names_make (overrides : Bindings String) (loader? : Option Loader) (enabled : Bool) :
    name ∈ (Registry.make overrides loader? enabled).overrides.names ↔
      name ∈ overrides.names.map Naming.kebabCase := by
  have step (b : Bindings String) :
      name ∈ (overrides.foldl (fun b e => b.put (Naming.kebabCase e.1) e.2) b).names ↔
        name ∈ b.names ∨ name ∈ overrides.names.map Naming.kebabCase := by
    induction overrides generalizing b with
    | nil => simp [Bindings.names]
    | cons entry overrides ih =>
      rw [List.foldl_cons, ih, Bindings.mem_names_put]
      simp only [Bindings.names, List.map_cons, List.mem_cons]
      tauto
  simpa [Bindings.names, Registry.make] using step []

/-- A registry that has just been made, and has loaded all components or has not. -/
theorem keeps_opened (overrides : Bindings String) (loader? : Option Loader)
    (first? : Option FileTree)
    (distinct : ∀ loader ∈ loader?, ∀ files ∈ first?, ∀ names,
      loader.list? files = .ok (some names) → names.Nodup) :
    let new : RegistryState := { registry := .make overrides loader? true }
    Keeps new.registry.overrides (new.opened first?) ((new.opened first?).answeredSince new) := by
  intro new
  have start : Keeps new.registry.overrides new [] := ⟨rfl, rfl, List.nodup_nil, .refl _⟩
  cases first? with
  | none =>
    have none : new.answeredSince new = [] := (Loads.refl new).answeredSince_eq
    rw [RegistryState.opened, none]
    exact start
  | some files =>
    obtain ⟨asked, loads⟩ := exists_loads_preload (r := new.withFiles files) rfl
      fun loader known names listed => distinct loader known files rfl names listed
    have opened := start.load files loads
    rwa [List.append_nil] at opened

end Life

/-- The life of a registry that keeps what it loads: with whatever loader, it is made, may load all
components, and is visited. No name is answered by the loader twice, and the names that are kept in
the end are those that were answered. No visit asks the loader for a name that is set by hand, and
one that fails adds nothing to what is kept. -/
theorem answered_once (overrides : Bindings String) (loader? : Option Loader)
    (first? : Option FileTree)
    (distinct : ∀ loader ∈ loader?, ∀ files ∈ first?, ∀ names,
      loader.list? files = .ok (some names) → names.Nodup) (visits : List Visit) :
    let new : RegistryState := { registry := .make overrides loader? true }
    let first := new.opened first?
    let last := first.visitAll visits
    let answered := first.answeredIn visits ++ first.answeredSince new
    (∀ name, answered.count name ≤ 1) ∧
      (∀ name, name ∈ last.registry.cachedNames ↔ name ∈ answered) ∧
      ∀ v : Visit,
        (∀ name ∈ overrides.names.map Naming.kebabCase, name ∉ (last.visit v).2.askedSince last) ∧
          ((last.visit v).1 ≠ .ok true → (last.visit v).2.registry.cache = last.registry.cache) := by
  intro new first last answered
  have keeps : Keeps new.registry.overrides last answered :=
    (keeps_opened overrides loader? first? distinct).visitAll visits
  refine ⟨List.nodup_iff_count.1 (keeps.kept.nodup_iff.1 keeps.distinct), fun name => ?_,
    fun v => ?_⟩
  · rw [Registry.cachedNames, Loader.mem_sortTexts]
    exact keeps.kept.mem_iff
  · obtain ⟨names, asks⟩ := asks_visit keeps.enabled v
    have since : (last.visit v).2.askedSince last = names := asks.loads.askedSince_eq
    rw [since]
    refine ⟨fun name overridden asked => ?_, asks.unkept⟩
    refine asks.others name asked ?_
    change name ∈ last.registry.overrides.names
    rw [keeps.overrides]
    exact (mem_names_make overrides loader? true).2 overridden

/-- A loader that has an empty source, and one for a name that is set by hand as well. -/
def cardLoader : Loader :=
  .custom (fun _ name => Loader.lookIn [("card", ""), ("top-bar", "<p></p>")] name)
    (fun _ => .ok (some ["card", "top-bar"]))

/-- All components are loaded first; then what is asked for is there already, or is not there at
all. -/
theorem answered_once_cards :
    let new : RegistryState := { registry := .make [("TopBar", "<b></b>")] (some cardLoader) true }
    let first := new.opened (some {})
    let visits := [⟨{}, .has "card"⟩, ⟨{}, .source "top-bar"⟩, ⟨{}, .has "TopBar"⟩]
    (∀ l ∈ some cardLoader, ∀ files ∈ some ({} : FileTree), ∀ names,
      l.list? files = .ok (some names) → names.Nodup) ∧
      (first.visitAll visits).asked = ["TopBar", "top-bar", "card"] ∧
      (∀ name, name ∈ (first.visitAll visits).registry.cachedNames ↔ name ∈ ["top-bar", "card"]) ∧
      "top-bar" ∉ ((first.visitAll visits).visit ⟨{}, .has "top-bar"⟩).2.askedSince
        (first.visitAll visits) := by
  have distinct : ∀ l ∈ some cardLoader, ∀ files ∈ some ({} : FileTree), ∀ names,
      l.list? files = .ok (some names) → names.Nodup := by
    rintro _ ⟨⟩ files - names listed
    obtain rfl := Option.some.inj (Except.ok.inj listed)
    decide
  have kebab : Naming.kebabCase "TopBar" = "top-bar" := by decide +kernel
  have made : Registry.make [("TopBar", "<b></b>")] (some cardLoader) true =
      { overrides := [("top-bar", "<b></b>")], loader? := some cardLoader } := by
    simp [Registry.make, kebab, Bindings.put]
  intro new first visits
  obtain ⟨-, kept, unasked⟩ :=
    answered_once [("TopBar", "<b></b>")] (some cardLoader) (some {}) distinct visits
  refine ⟨distinct, ?_, ?_, (unasked ⟨{}, .has "top-bar"⟩).1 _ (by simp [Bindings.names, kebab])⟩
  · simp only [visits, first, new, made]
    decide +kernel
  · have answered : first.answeredIn visits ++ first.answeredSince new = ["top-bar", "card"] := by
      simp only [visits, first, new, made]
      decide +kernel
    rw [← answered]
    exact kept

end HtmlTemplate.Component
