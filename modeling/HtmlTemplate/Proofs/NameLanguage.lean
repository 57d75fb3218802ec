import HtmlTemplate.Compiler
import HtmlTemplate.Proofs.Steady

/-!
# A language of names

The smallest language that templates can be expanded with: an expression is a name, and its value is
what the scope binds to that name. A script is the name of an attribute of the use, which it reads
and binds. The state records the texts that were handed to the evaluator. Concrete runs are about
this language and about `nameOptions`, the options that are used when no others are asked for,
without layout.
-/

namespace HtmlTemplate.Expand

open HtmlTemplate.Markup HtmlTemplate.Text HtmlTemplate.Component

/-- Values of the language of names. -/
inductive NameValue
  | nothing
  | text (s : String)
  | row (texts : List String)
  /-- The attributes of a use. -/
  | props (given : Attrs)
deriving DecidableEq, Repr

/-- The state of the language of names. -/
structure NameState where
  /-- The texts that were handed to the evaluator, in order. -/
  calls : List String := []
  /-- The attributes of the current use that scripts have read. -/
  used : List String := []
deriving DecidableEq, Repr

namespace NameState

/-- Records a text that is handed to the evaluator. -/
def call (source : String) (w : NameState) : NameState := { w with calls := w.calls ++ [source] }

end NameState

namespace NameLanguage

/-- The fault that a name is not bound. -/
def unbound (source : String) (visible : Bindings NameValue) : Fault :=
  .ofProblem (.undefinedVariable source (some source) visible.names)

def evaluate (source : String) (scope : Scope NameValue) : Act NameState NameValue := fun w =>
  (match scope.flatten.get? source with
    | some v => .ok v
    | none => .error (unbound source scope.flatten),
    w.call source)

/-- Binds a name to the attribute that it names, if the use has that. -/
def execute (source : String) (scope : Scope NameValue) :
    Act NameState (Scope NameValue) := fun w =>
  match scope.flatten.get? propsName with
  | some (.props given) =>
    match given.get? source with
    | some s => (.ok (scope.put source (.text s)), { w.call source with used := source :: w.used })
    | none => (.ok (scope.put source .nothing), w.call source)
  | _ => (.error (unbound propsName scope.flatten), w.call source)

def kind : NameValue → ValueKind
  | .nothing => .absent
  | .text s => .text s
  | _ => .other

def text : NameValue → String
  | .nothing => ""
  | .text s => s
  | .row texts => String.join texts
  | .props given => String.join given.names

def shown (v : NameValue) : ShownValue := ⟨"value", text v, "value"⟩

end NameLanguage

/-- The language of names. -/
def nameLanguage : Evaluator NameValue NameState where
  evaluate := NameLanguage.evaluate
  evaluateUncaught := return .nothing
  execute := NameLanguage.execute
  kind := NameLanguage.kind
  truth v _ := v != .nothing
  text v := return NameLanguage.text v
  same a b _ := a == b
  length? v _ := match v with
    | .row texts => some texts.length
    | _ => none
  member? v position := match v with
    | .row texts => return texts[position]?.map .text
    | _ => return none
  shown v := return NameLanguage.shown v
  openProps given _ w := (.props given, { w with used := [] })
  leftover v w := match v with
    | .props given => given.filter fun entry => !w.used.contains entry.1
    | _ => []
  closeProps _ w := w

namespace NameLanguage

theorem settled_evaluate (source : String) (visible : Bindings NameValue) :
    Act.Settled NameState.calls (fun w : NameState =>
      (match visible.get? source with
        | some v => .ok v
        | none => .error (unbound source visible),
        w.call source) : Act NameState NameValue) := by
  intro w w' v t _ run
  unfold Ends at run ⊢
  cases h : visible.get? source with
  | none => simp [h] at run
  | some value =>
    simp only [h, Prod.mk.injEq, Except.ok.injEq] at run ⊢
    obtain ⟨rfl, rfl⟩ := run
    exact ⟨w'.call source, [source], ⟨rfl, rfl⟩, ⟨rfl, rfl⟩, ⟨rfl, rfl⟩⟩

theorem executeAll_steady (sources : List String) :
    ∀ (scope scope' : Scope NameValue) (w w' t : NameState), w.used = w'.used →
      Ends (executeAll nameLanguage sources scope) w scope' t → ∃ t',
        Ends (executeAll nameLanguage sources scope) w' scope' t' ∧ t.used = t'.used ∧
          t.calls = w.calls ++ sources ∧ t'.calls = w'.calls ++ sources := by
  induction sources with
  | nil =>
    intro scope scope' w w' t hused run
    obtain ⟨rfl, rfl⟩ := ends_pure_iff.1 run
    exact ⟨w', ends_pure_iff.2 ⟨rfl, rfl⟩, hused, by simp, by simp⟩
  | cons source rest ih =>
    intro scope scope' w w' t hused run
    obtain ⟨mid, w₁, hfirst, hrest⟩ := ends_bind_iff.1 run
    have first : ∃ w₁', Ends (execute source scope) w' mid w₁' ∧ w₁.used = w₁'.used ∧
        w₁.calls = w.calls ++ [source] ∧ w₁'.calls = w'.calls ++ [source] := by
      change Ends (execute source scope) w mid w₁ at hfirst
      unfold execute Ends at hfirst
      unfold execute Ends
      cases hprops : scope.flatten.get? propsName with
      | none => simp [hprops] at hfirst
      | some v =>
        cases v with
        | props given =>
          cases hgiven : given.get? source with
          | none =>
            simp only [hprops, hgiven, Prod.mk.injEq, Except.ok.injEq] at hfirst ⊢
            obtain ⟨rfl, rfl⟩ := hfirst
            exact ⟨_, ⟨rfl, rfl⟩, hused, rfl, rfl⟩
          | some text =>
            simp only [hprops, hgiven, Prod.mk.injEq, Except.ok.injEq] at hfirst ⊢
            obtain ⟨rfl, rfl⟩ := hfirst
            exact ⟨_, ⟨rfl, rfl⟩, congrArg (source :: ·) hused, rfl, rfl⟩
        | _ => simp [hprops] at hfirst
    obtain ⟨w₁', hfirst', hused₁, hcalls, hcalls'⟩ := first
    obtain ⟨t', hrest', hused', hcallst, hcallst'⟩ := ih mid scope' w₁ w₁' t hused₁ hrest
    refine ⟨t', ends_bind_iff.2 ⟨mid, w₁', hfirst', hrest'⟩, hused', ?_, ?_⟩
    · rw [hcallst, hcalls, List.append_assoc, List.singleton_append]
    · rw [hcallst', hcalls', List.append_assoc, List.singleton_append]

theorem settled_scripts (given : Attrs) (scope : Scope NameValue) (sources : List String) :
    Act.Settled NameState.calls (runScripts nameLanguage given scope sources) := by
  rintro w w' ⟨inner, left⟩ t _ run
  simp only [runScripts, ends_bind_iff, ends_modifyGet_iff, ends_modify_iff, ends_get_iff,
    ends_pure_iff] at run ⊢
  obtain ⟨props, _, hopen, scope', w₁, hrun, ⟨⟩, _, rfl, _, _, ⟨rfl, rfl⟩, hleft, rfl⟩ := run
  obtain ⟨rfl, rfl⟩ := Prod.ext_iff.1 hopen
  obtain ⟨w₁', hrun', hused, hcalls, hcalls'⟩ :=
    executeAll_steady sources _ _ { w with used := [] } { w' with used := [] } _ rfl hrun
  have same :
      nameLanguage.leftover (.props given) w₁ = nameLanguage.leftover (.props given) w₁' := by
    change given.filter (fun entry => !w₁.used.contains entry.1) =
      given.filter fun entry => !w₁'.used.contains entry.1
    rw [hused]
  exact ⟨w₁', sources,
    ⟨_, _, rfl, scope', w₁', hrun', ⟨⟩, _, rfl, _, _, ⟨rfl, rfl⟩, same ▸ hleft, rfl⟩,
    ⟨rfl, hcalls⟩, ⟨rfl, hcalls'⟩⟩

end NameLanguage

theorem nameLanguage_pure : nameLanguage.Pure NameState.calls where
  evaluate source := ⟨_, fun _ => rfl, NameLanguage.settled_evaluate source⟩
  evaluateUncaught := steady_pure _
  scripts := NameLanguage.settled_scripts
  text _ := steady_pure _
  member v _ := by cases v <;> exact steady_pure _
  truth _ _ _ := rfl
  same _ _ _ _ := rfl
  length v _ _ := by cases v <;> rfl

theorem nameLanguage_records : nameLanguage.Records NameState.calls := by
  intro source scope w v w' run
  change ((match scope.flatten.get? source with
    | some v => .ok v
    | none => .error _, w.call source) : Except Fault NameValue × NameState) = (.ok v, w') at run
  obtain ⟨-, rfl⟩ := Prod.mk.inj run
  rfl

/-- The options that are used when no others are asked for, without layout. -/
def nameOptions : Options where
  componentTag := "component"
  yieldTag := "yield"
  slotTag := "slot"
  fillTag := "fill"
  stackTag := "stack"
  pushTag := "push"
  dynamicTag := "dynamic"
  componentPrefix := "x-"
  attrMarker := "attr"
  evalMarker := "eval"
  contentPattern := match Pattern.parse Request.defaultPattern with
    | .ok p => p
    | .error _ => ⟨"", .nothing, 0⟩
  titleRule := .preserve
  depthLimit := .count 100
  components := []
  componentsRoot := "./components"
  cacheComponents := true
  pretty := false
  debug := false
  encoding := "utf-8"
  strategies := []

/-- Templates in the language of names. -/
def nameSetting : Setting NameValue NameState where
  options := nameOptions
  evaluator := nameLanguage
  limit := nameOptions.depthLimit

/-- The state before anything is expanded, with the given sources of components. -/
def nameStart (sources : Bindings String) : State NameState where
  world := {}
  registry := { registry := Registry.make sources none true }

end HtmlTemplate.Expand
