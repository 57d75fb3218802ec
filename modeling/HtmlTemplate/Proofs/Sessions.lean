import HtmlTemplate.Proofs.NameLanguage
import HtmlTemplate.Proofs.Repetition

/-!
# Sessions with a compiler

A session is a row of calls of one compiler: templates are compiled, all components are loaded, and
components are forgotten, in any order and whatever fails. Every template is compiled in a context
of its own. A session with an evaluator that comes to the same again has no memory
(`Compiler.session_eq`): a template comes to what a new compiler makes of it, whether that keeps
components or not, and after each call the context is the one from before the session.
-/

namespace HtmlTemplate

open HtmlTemplate.Markup HtmlTemplate.Component HtmlTemplate.Expand HtmlTemplate.Expand.Expansion

variable {V W : Type}

/-! ### Whether components are kept is no matter for expansion -/

/-- A setting whose options say whether components are to be kept. -/
def Expand.Setting.caching (setting : Setting V W) (cached : Bool) : Setting V W :=
  { setting with options := { setting.options with cacheComponents := cached } }

section Caching

variable (setting : Setting V W) (cached : Bool)

theorem evaluateAttrs_caching (place : Place V) (around : Attrs → List Node)
    (names : List String) : ∀ attrs,
      evaluateAttrs (setting.caching cached) place around names attrs =
        evaluateAttrs setting place around names attrs := by
  induction names with
  | nil => exact fun attrs => rfl
  | cons name names ih =>
    intro attrs
    simp only [evaluateAttrs, ih]
    rfl

theorem expandRounds_caching (place : Place V) (loop : Node) (items : V) (name : String)
    (inside : Place V → Expansion W (List Node)) (fuel : Nat) : ∀ position,
      expandRounds (setting.caching cached) place loop items name inside fuel position =
        expandRounds setting place loop items name inside fuel position := by
  induction fuel with
  | zero => exact fun position => rfl
  | succ fuel ih =>
    intro position
    simp only [expandRounds, ih]
    rfl

theorem expandLoop_caching (place : Place V) (tag : String) (attrs : Attrs) (children : List Node)
    (inside : Place V → Expansion W (List Node)) :
    expandLoop (setting.caching cached) place tag attrs children inside =
      expandLoop setting place tag attrs children inside := by
  simp only [expandLoop, expandRounds_caching]
  rfl

variable (deeper : ForestExpansion V W)

theorem expandElement_caching (place : Place V) (tag : String) (attrs : Attrs)
    (children : List Node) (e : Expandable V W) :
    expandElement (setting.caching cached) deeper place tag attrs children e =
      expandElement setting deeper place tag attrs children e := by
  simp only [expandElement, expandLoop_caching]
  rfl

theorem expandNode_caching (place : Place V) (e : Expandable V W) :
    expandNode (setting.caching cached) deeper place e = expandNode setting deeper place e := by
  simp only [expandNode, evaluateAttrs_caching, expandElement_caching]
  rfl

theorem expandItem_caching (place : Place V) (item : RowItem V W) :
    expandItem (setting.caching cached) deeper place item =
      expandItem setting deeper place item := by
  cases item with
  | single e => exact expandNode_caching setting cached deeper place e
  | chain first links =>
    simp only [expandItem, evaluateAttrs_caching]
    rfl

theorem expandItems_caching (item : RowItem V W → Expansion W (List Node)) :
    expandItems (setting.caching cached).options item = expandItems setting.options item := by
  funext row
  induction row with
  | nil => rfl
  | cons i row ih =>
    simp only [expandItems, ih]
    rfl

theorem expandLevels_caching (levels : Nat) :
    expandLevels (setting.caching cached) levels = expandLevels setting levels := by
  induction levels with
  | zero => rfl
  | succ levels ih =>
    have row : expandRow (setting.caching cached) (expandLevels setting levels) =
        expandRow setting (expandLevels setting levels) := by
      funext place siblings
      have item : expandItem (setting.caching cached) (expandLevels setting levels) place =
          expandItem setting (expandLevels setting levels) place :=
        funext (expandItem_caching setting cached _ place)
      exact congrFun ((congrArg _ item).trans (expandItems_caching setting cached _)) _
    funext place forest
    rw [expandLevels, expandLevels, ih, row]

theorem compileSource_caching (scope : Scope V) (source : String) :
    compileSource (setting.caching cached) scope source = compileSource setting scope source := by
  have whole (forest : List Node) : compileForest (setting.caching cached) scope forest =
      compileForest setting scope forest := by
    unfold compileForest expandForest expand
    rw [expandLevels_caching]
    rfl
  unfold compileSource
  simp only [whole]
  rfl

end Caching

/-! ### Calls -/

/-- A call of a compiler. -/
inductive Call (V : Type)
  /-- Compiles a template in a context, with bindings given by name over it. -/
  | compile (source : String) (context named : Bindings V)
  | preload
  | clearCache

namespace Compiler

/-- What a compiler makes of the template of a call, if the call has one. -/
def answer? (c : Compiler V W) : Call V → Option (Except Fault String)
  | .compile source context named => some (c.compileIn source context named).1
  | _ => none

/-- A call of a compiler: what it makes of the template, and what becomes of it. A template is
compiled in a context of its own, within the limit of that. -/
def serve (c : Compiler V W) : Call V → Rendering (Option (Except Fault String) × Compiler V W)
  | .compile source context named => Rendering.withContext c.setting.limit do
    let here ← Rendering.context
    let (result, after) := { c with setting := { c.setting with limit := here.limit } }.compileIn
      source context named
    return (some result, after)
  | .preload => return (none, c.preload.2)
  | .clearCache => return (none, c.clearCache)

/-- Serves calls one after another, and tells for each of them what the compiler makes of its
template and what the context is afterwards. -/
def session (c : Compiler V W) :
    List (Call V) → Rendering (List (Option (Except Fault String) × Option RenderContext))
  | [] => return []
  | call :: calls => do
    let (result, after) ← c.serve call
    let current ← get
    let rest ← after.session calls
    return (result, current) :: rest

/-- What has become of a compiler: it may keep other components and have its evaluator in another
state, but it has the same sources. -/
structure Remains (c d : Compiler V W) : Prop where
  setting : d.setting = c.setting
  context : d.context = c.context
  sources : c.state.registry.Serves d.state.registry

variable {c d : Compiler V W}

/-- A compiler makes the same of a template as what has become of it. -/
theorem compileIn_of_remains (hev : c.setting.evaluator.Repeatable)
    (coherent : c.state.registry.Coherent) (h : c.Remains d) (source : String)
    (context named : Bindings V) :
    (d.compileIn source context named).1 = (c.compileIn source context named).1 ∧
      c.Remains (d.compileIn source context named).2 := by
  obtain ⟨setting, bindings, state⟩ := d
  obtain ⟨rfl, rfl, sources⟩ := h
  unfold compileIn
  split
  · exact ⟨rfl, rfl, rfl, sources⟩
  · let scope : Scope V := .root (c.context.overlay (context.overlay named))
    obtain ⟨same, -, serves⟩ := repeats_compileSource hev scope source c.state state
      ⟨⟨coherent, .refl _⟩, sources⟩
    rw [mapError_id, mapError_id] at same
    exact ⟨same.symm, rfl, rfl, serves⟩

/-- Computations of the registry leave a compiler what it is when they retain its sources. -/
theorem remains_withRegistry (h : c.Remains d) {α : Type} {x : Lookup α}
    (retains : ∀ r, Retains r (x r).2) : c.Remains (d.run (withRegistry x)).2 := by
  have kept : Retains { d.state.registry with log := [] }
      (x { d.state.registry with log := [] }).2 := retains _
  exact ⟨h.setting, h.context, h.sources.retain (Retains.of_log kept)⟩

/-- A call of what has become of a compiler gives what the compiler itself makes of the template,
and neither the compiler nor the context is another one afterwards. -/
theorem serve_of_remains (hev : c.setting.evaluator.Repeatable)
    (coherent : c.state.registry.Coherent) (h : c.Remains d) (call : Call V)
    (current : Option RenderContext) : ∃ after, c.Remains after ∧
      Ends (d.serve call) current (c.answer? call, after) current := by
  cases call with
  | compile source context named =>
    obtain ⟨same, remains⟩ := compileIn_of_remains hev coherent h source context named
    refine ⟨_, remains, ?_⟩
    rw [answer?, ← same]
    rfl
  | preload => exact ⟨_, remains_withRegistry h Lookup.retains_preload, rfl⟩
  | clearCache => exact ⟨_, remains_withRegistry h Lookup.retains_clear, rfl⟩

theorem session_of_remains (hev : c.setting.evaluator.Repeatable)
    (coherent : c.state.registry.Coherent) (calls : List (Call V))
    (current : Option RenderContext) : ∀ {d : Compiler V W}, c.Remains d →
      Ends (d.session calls) current (calls.map fun call => (c.answer? call, current)) current := by
  induction calls with
  | nil => exact fun _ => ends_pure_iff.2 ⟨rfl, rfl⟩
  | cons call calls ih =>
    intro d h
    obtain ⟨after, remains, served⟩ := serve_of_remains hev coherent h call current
    refine ends_bind_iff.2 ⟨_, current, served, ends_get_bind_iff.2 ?_⟩
    exact ends_bind_iff.2 ⟨_, current, ih remains, ends_pure_iff.2 ⟨rfl, rfl⟩⟩

theorem coherent_make (o : Options) (ev : Evaluator V W) (world : W) (context : Bindings V)
    (loader? : Option Loader) (files : FileTree) :
    (make o ev world context loader? files).state.registry.Coherent :=
  fun _ _ found => nomatch found

/-- New compilers with the same sources and bindings make the same of a template, whether they keep
components or not. -/
theorem answer?_caching {ev : Evaluator V W} (hev : ev.Repeatable) (o : Options) (world world' : W)
    (context : Bindings V) (loader? : Option Loader) (files : FileTree) (cached : Bool)
    (call : Call V) :
    (make { o with cacheComponents := cached } ev world' context loader? files).answer? call =
      (make o ev world context loader? files).answer? call := by
  let c := make o ev world context loader? files
  let d := make { o with cacheComponents := cached } ev world' context loader? files
  have coherent := coherent_make o ev world context loader? files
  have serves : c.state.registry.Serves d.state.registry :=
    ⟨coherent_make _ ev world' context loader? files, rfl, rfl, rfl⟩
  cases call with
  | compile source given named =>
    simp only [answer?, compileIn]
    split
    · rfl
    · let scope : Scope V := .root (context.overlay (given.overlay named))
      have hsetting : c.setting.evaluator.Repeatable := hev
      have same := (repeats_compileSource hsetting scope source c.state d.state
        ⟨⟨coherent, .refl _⟩, serves⟩).1
      rw [mapError_id, mapError_id] at same
      have run := congrFun (compileSource_caching c.setting cached scope source) d.state
      exact congrArg some ((congrArg Prod.fst run).trans same.symm)
  | preload => rfl
  | clearCache => rfl

end Compiler

/-! ### The language of names -/

namespace Expand.NameLanguage

/-- Scripts come to the same when the same attributes were read before. -/
abbrev Rereads {α : Type} (x : Act NameState α) : Prop :=
  Reproduces (fun w w' : NameState => w.used = w'.used) id x

theorem rereads_execute (source : String) (scope : Scope NameValue) :
    Rereads (execute source scope) := by
  intro w w' h
  unfold execute
  cases scope.flatten.get? propsName with
  | none => exact ⟨rfl, h⟩
  | some v =>
    cases v with
    | props given =>
      cases hgiven : given.get? source with
      | none =>
        simp only [hgiven]
        exact ⟨trivial, h⟩
      | some text =>
        simp only [hgiven]
        exact ⟨trivial, congrArg (source :: ·) h⟩
    | _ => exact ⟨rfl, h⟩

theorem rereads_executeAll (sources : List String) :
    ∀ scope, Rereads (executeAll nameLanguage sources scope) := by
  induction sources with
  | nil => exact fun scope => reproduces_pure scope
  | cons source rest ih => exact fun scope => reproduces_bind (rereads_execute source scope) ih

theorem repeats_scripts (given : Attrs) (scope : Scope NameValue) (sources : List String) :
    Act.Repeats (runScripts nameLanguage given scope sources) := by
  intro w w'
  have rest : Rereads (executeAll nameLanguage sources (scope.child [(propsName, .props given)]) >>=
      fun inner => do
        modify (nameLanguage.closeProps (.props given))
        return ({ inner with frame := Bindings.erase inner.frame propsName },
          nameLanguage.leftover (.props given) (← get))) := by
    refine reproduces_bind (rereads_executeAll sources _) fun inner => ?_
    refine reproduces_bind (fun w w' h => ⟨rfl, h⟩) fun _ => ?_
    refine reproduces_get (fun w w' h => ?_) fun _ => reproduces_pure _
    change Pure.pure (_, given.filter fun entry => !w.used.contains entry.1) =
      Pure.pure (_, given.filter fun entry => !w'.used.contains entry.1)
    rw [h]
  have same := (rest { w with used := [] } { w' with used := [] } rfl).1
  rw [mapError_id, mapError_id] at same
  exact same

end Expand.NameLanguage

theorem nameLanguage_repeatable : nameLanguage.Repeatable where
  evaluate _ _ _ _ := rfl
  evaluateUncaught _ _ := rfl
  scripts := NameLanguage.repeats_scripts
  text _ _ _ := rfl
  member v _ _ _ := by cases v <;> rfl
  shown _ _ _ := rfl
  truth _ _ _ := rfl
  same _ _ _ _ := rfl
  length v _ _ := by cases v <;> rfl

namespace Compiler

/-- A session with a compiler has no memory: whatever is called in whatever order, and whatever of
it fails, a template comes to what a new compiler makes of it, and after each call the context is
the one from before the session. -/
theorem session_eq {ev : Evaluator V W} (hev : ev.Repeatable) (o : Options) (world : W)
    (context : Bindings V) (loader? : Option Loader) (files : FileTree) (calls : List (Call V))
    (current : Option RenderContext) (cached : Bool) (world' : W) :
    let fresh := make { o with cacheComponents := cached } ev world' context loader? files
    Ends ((make o ev world context loader? files).session calls) current
      (calls.map fun call => (fresh.answer? call, current)) current := by
  have coherent := coherent_make o ev world context loader? files
  have run := session_of_remains (c := make o ev world context loader? files) hev coherent calls
    current ⟨rfl, rfl, coherent, .refl _⟩
  simp only [answer?_caching hev o world world' context loader? files cached]
  exact run

/-- A session within another rendering: a component is used before and after all components are
loaded and forgotten, and one that does not exist is asked for. -/
theorem session_eq_cards :
    let c := make nameOptions nameLanguage {} [("v", .text "hi")]
      (some (.table [("card", "<p>%%v%%</p>")])) {}
    let card : Call NameValue := .compile "<x-card></x-card>" [] []
    let missing : Call NameValue := .compile "<x-gone></x-gone>" [] []
    let outside : Option RenderContext := some { stack := ["page"], step := 3 }
    let shown := some (.ok "<p>hi</p>")
    ∃ fault, Ends (c.session [card, missing, .preload, card, .clearCache, card]) outside
      [(shown, outside), (some (.error fault), outside), (none, outside), (shown, outside),
        (none, outside), (shown, outside)] outside := by
  intro c card missing outside shown
  let fresh := make { nameOptions with cacheComponents := false } nameLanguage
    { calls := ["before"] } [("v", .text "hi")]
    (some (.table [("card", "<p>%%v%%</p>")])) {}
  have run : Ends (c.session [card, missing, .preload, card, .clearCache, card]) outside
      [(fresh.answer? card, outside), (fresh.answer? missing, outside), (none, outside),
        (fresh.answer? card, outside), (none, outside), (fresh.answer? card, outside)] outside :=
    session_eq nameLanguage_repeatable nameOptions {} [("v", .text "hi")] _ {}
      [card, missing, .preload, card, .clearCache, card] outside false { calls := ["before"] }
  have found : (fresh.compileIn "<x-card></x-card>" [] []).1.toOption =
      some "<p>hi</p>" := by decide +kernel
  have lost : (fresh.compileIn "<x-gone></x-gone>" [] []).1.toOption = none := by decide +kernel
  have hcard : fresh.answer? card = shown := congrArg some (eq_ok_of_toOption found)
  obtain ⟨fault, hmissing⟩ := exists_error_of_toOption lost
  have hmissing : fresh.answer? missing = some (.error fault) := congrArg some hmissing
  rw [hcard, hmissing] at run
  exact ⟨fault, run⟩

end Compiler

end HtmlTemplate
