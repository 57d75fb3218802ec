import HtmlTemplate.Proofs.ReadNames
import HtmlTemplate.Proofs.Runs
import HtmlTemplate.Proofs.Scopes
import HtmlTemplate.Script.Interpret

/-!
# Names as program texts

A program text that is a name has the value that the scope binds to the name: the text is read as
that name, the scope is flattened into the frame that the program runs in, and the name is looked up
there.
-/

namespace HtmlTemplate.Script

open HtmlTemplate.Expand HtmlTemplate.Text

/-! ### The cache -/

namespace ProgramCache

/-- A program that comes from the cache is the one that reading its text anew gives. -/
theorem map_fst_read (c : ProgramCache) (mode : ReadMode) (source : String) :
    (c.read mode source).1.map Prod.fst = readProgram mode source := by
  unfold read
  split
  · rename_i entry found
    have key : entry.1 = (source, mode) := by simpa using List.find?_some found
    have faithful := c.faithful entry (List.mem_of_find?_eq_some found)
    rw [key] at faithful
    exact faithful.symm
  · dsimp only
    split
    · rename_i flaw reading
      exact reading.symm
    · rename_i program reading
      exact reading.symm

theorem exists_read {mode : ReadMode} {source : String} {program : Program}
    (h : readProgram mode source = .ok program) (c : ProgramCache) :
    ∃ number, (c.read mode source).1 = .ok (program, number) := by
  have same := c.map_fst_read mode source
  rw [h] at same
  cases found : (c.read mode source).1 with
  | error flaw =>
    rw [found] at same
    cases same
  | ok known =>
    rw [found] at same
    obtain rfl := Except.ok.inj same
    exact ⟨known.2, rfl⟩

end ProgramCache

/-- The world after a program text has been looked up in the cache. -/
def World.afterReading (w : World) (mode : ReadMode) (source : String) : World :=
  { w with cache := (w.cache.read mode source).2 }

theorem run_readCached_bind {α : Type} (mode : ReadMode) (source : String)
    (f : Program × Nat → Run α) (w : World) :
    @Eq (Except Raised α × World) ((readCached mode source >>= f) w)
      (match (w.cache.read mode source).1 with
        | .ok program => f program (w.afterReading mode source)
        | .error flaw => (.error flaw.raised, w.afterReading mode source)) := by
  show @Eq (Except Raised α × World)
    (((match (w.cache.read mode source).1 with
      | .ok program => return program
      | .error flaw => throw flaw.raised : Run (Program × Nat)) >>= f)
      (w.afterReading mode source)) _
  cases (w.cache.read mode source).1 <;> rfl

/-! ### What a program sees -/

/-- Under the name of the library programs see the library, and under the others what the scope or
else an alias gives. -/
theorem get?_namespaceOf {s : Scope Value} (distinct : s.Distinct) (library : Nat)
    (name : String) : (namespaceOf library s).get? name =
      if name = libraryName then some (.object library)
      else (s.get? name).or (aliases.get? name) := by
  rw [namespaceOf, Bindings.get?_put, Bindings.get?_overlay (Scope.nodup_names_flatten s),
    Scope.get?_flatten distinct]

theorem get?_namespaceOf_of_item {s : Scope Value} (distinct : s.Distinct) (library : Nat)
    {name : String} (other : name ≠ libraryName) {v : Value} (bound : s.item name = .ok v) :
    (namespaceOf library s).get? name = some v := by
  rw [get?_namespaceOf distinct, if_neg other, Scope.item_eq_ok_iff.1 bound, Option.some_or]

/-! ### The value of a name -/

theorem ends_bindingsOf {w : World} {frame : Nat} {space : Namespace}
    (here : w.object frame = .names space) : Ends (bindingsOf frame) w space.bindings w := by
  refine ends_bind_iff.2 ⟨space, w, ?_, ends_pure_iff.2 ⟨rfl, rfl⟩⟩
  refine ends_bind_iff.2 ⟨.names space, w, ?_, ends_pure_iff.2 ⟨rfl, rfl⟩⟩
  rw [← here]
  rfl

/-- A name that belongs to the outermost frame has the value that is bound there. -/
theorem ends_interpret_name {w : World} {env : Env} {space : Namespace} {name : String}
    {v : Value} (here : w.object env.globals = .names space) (outermost : env.owner? name = none)
    (bound : space.bindings.get? name = some v) (depth : Nat) :
    Ends (interpret (depth + 1) _ (.eval env (.name name))) w v w := by
  have frame : env.frameOf name = env.globals := by rw [Env.frameOf, outermost]; rfl
  have value : Ends (valueOf env name) w v w := by
    refine ends_bind_iff.2 ⟨space.bindings, w, frame ▸ ends_bindingsOf here, ?_⟩
    rw [bound]
    exact ends_pure_iff.2 ⟨rfl, rfl⟩
  exact ends_bind_iff.2 ⟨v, w, value, ends_pure_iff.2 ⟨rfl, rfl⟩⟩

/-! ### Program texts -/

theorem ends_withDiagnosis {α : Type} {source : String} {globals : Nat} {x : Run α} {w w' : World}
    {a : α} (run : Ends x w a w') : Ends (withDiagnosis source globals x) w a w' :=
  ends_tryCatch_of_ends run _

/-- The world with one more object. -/
def World.push (w : World) (o : Object) : World := { w with objects := w.objects.push o }

theorem World.object_push (w : World) (o : Object) : (w.push o).object w.objects.size = o := by
  simp [World.object, World.push]

theorem ends_openFrame (s : Scope Value) (w : World) :
    Ends (openFrame s) w (⟨namespaceOf w.library s, distinct_namespaceOf w.library s⟩,
      w.objects.size)
      (w.push (.names ⟨namespaceOf w.library s, distinct_namespaceOf w.library s⟩)) := rfl

theorem exists_ends_evaluateStep {name : String} (h : IsName name) {s : Scope Value} {v : Value}
    {w : World} (bound : (namespaceOf w.library s).get? name = some v) (depth : Nat) :
    ∃ w', Ends (evaluateStep (interpret (depth + 1)) name s) w v w' := by
  let noted : World := { w with calls := (.expression, some name) :: w.calls }
  let read := noted.afterReading .expression name
  obtain ⟨number, known⟩ := ProgramCache.exists_read (readProgram_name h) noted.cache
  let opened := read.push (.names ⟨namespaceOf w.library s, distinct_namespaceOf w.library s⟩)
  have value : Ends (evalIn (interpret (depth + 1))
      { globals := read.objects.size, program := number } (.name name)) opened v opened :=
    ends_interpret_name (read.object_push _) rfl bound depth
  have rest : Ends (openFrame s >>= fun opened => withDiagnosis name opened.2
      (evalIn (interpret (depth + 1)) { globals := opened.2, program := number } (.name name)))
      read v opened :=
    ends_bind_iff.2 ⟨_, _, ends_openFrame s read, ends_withDiagnosis value⟩
  refine ⟨opened, ?_⟩
  unfold evaluateStep
  rw [h.strip_eq]
  refine (run_readCached_bind .expression name _ noted).trans ?_
  rw [known]
  exact rest

/-- A program text that is a name has the value that the program sees under the name. -/
theorem exists_ends_evaluate {name : String} (h : IsName name) {s : Scope Value} {v : Value}
    {w : World} (bound : (namespaceOf w.library s).get? name = some v) :
    ∃ w', Ends (evaluate name s) w v w' :=
  exists_ends_evaluateStep h bound 999998

/-! ### Views and programs -/

/-- All views of a scope agree, and programs see what lookups find: in a frame that is made of the
flattened bindings every bound name has the value that is looked up directly, and a program text has
the aliases and the library besides. -/
theorem views_agree {s : Scope Value} (distinct : s.Distinct) :
    s.ViewsAgree ∧
    (∀ name v, s.item name = .ok v → ∀ (w : World) (env : Env) (depth : Nat),
      w.object env.globals = .names (.ofBindings s.flatten) → env.owner? name = none →
      Ends (interpret (depth + 1) _ (.eval env (.name name))) w v w) ∧
    (∀ library name, (namespaceOf library s).get? name =
      if name = libraryName then some (.object library)
      else (s.get? name).or (aliases.get? name)) ∧
    ∀ name v, IsName name → name ≠ libraryName → s.item name = .ok v →
      ∀ w, ∃ w', Ends (evaluate name s) w v w' := by
  refine ⟨Scope.viewsAgree distinct, fun name v bound w env depth here outermost => ?_,
    get?_namespaceOf distinct, fun name v form other bound w => ?_⟩
  · have visible : (Namespace.ofBindings s.flatten).bindings.get? name = some v := by
      show (Bindings.overlay [] s.flatten).get? name = some v
      rw [Bindings.get?_overlay (Scope.nodup_names_flatten s), Scope.get?_flatten distinct,
        Scope.item_eq_ok_iff.1 bound, Option.some_or]
    exact ends_interpret_name here outermost visible depth
  · exact exists_ends_evaluate form (get?_namespaceOf_of_item distinct w.library other bound)

/-- A scope with a name that an inner frame hides, in another place than the outer frame has it. -/
def hidingScope : Scope Value where
  frame := [("x", .int .shared 1)]
  outer := [[], [("y", .int .shared 2), ("x", .int .shared 3), ("true", .nothing)]]

theorem views_agree_hidingScope : hidingScope.Distinct ∧ hidingScope.ViewsAgree ∧
    hidingScope.names = ["x", "y", "true"] ∧ hidingScope.flatten.names = ["y", "x", "true"] ∧
    ∀ w, ∃ w', Ends (evaluate "x" hidingScope) w (.int .shared 1) w' := by
  have distinct : hidingScope.Distinct := by
    simp [Scope.Distinct, Scope.frames, hidingScope, Bindings.names]
  obtain ⟨agree, -, -, evaluated⟩ := views_agree distinct
  exact ⟨distinct, agree, by decide, by decide,
    evaluated "x" _ (by decide +kernel) (by decide) rfl⟩

end HtmlTemplate.Script
