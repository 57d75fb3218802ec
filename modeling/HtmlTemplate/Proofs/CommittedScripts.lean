import HtmlTemplate.Proofs.EvaluatedNames
import HtmlTemplate.Proofs.ScopeEdits

/-!
# What scripts leave in a scope

A script runs on a copy of what it sees of a scope, and its bindings are written back one by one
when it has come to its end. `execute_commits` is about a scope among others in a forest: a script
that raises an error changes no frame, and after one that does not every name has the value that
the script left, although only the names that the script bound to something new are written.
-/

namespace HtmlTemplate.Script

open HtmlTemplate.Expand HtmlTemplate.Text

/-! ### Sameness -/

mutual

theorem Value.same_self : ∀ v : Value, v.same v = true
  | .nothing | .ellipsis => rfl
  | .tuple m items => by
    have items := allSame_self items
    cases m <;> simp [same, items]
  | .bool _ | .int .. | .float .. | .complex .. | .str .. | .bytes .. | .range .. | .slice ..
  | .builtin _ | .type _ | .unbound .. | .method .. | .object _ => by simp [same]

theorem Value.allSame_self : ∀ vs : List Value, same.allSame vs vs = true
  | [] => rfl
  | v :: vs => by rw [same.allSame, Value.same_self v, Value.allSame_self vs]; rfl

end

/-! ### What is written back -/

/-- Whether a binding that a program leaves is written back: it is not that of the library, and the
program did not start with the same. -/
def isNews (before : Bindings Value) (entry : String × Value) : Bool :=
  entry.1 != libraryName && !(before.get? entry.1).any (·.same entry.2)

theorem isNews_eq_false_iff {before : Bindings Value} {name : String} {value : Value}
    (other : name ≠ libraryName) : isNews before (name, value) = false ↔
      ∃ v, before.get? name = some v ∧ v.same value = true := by
  rw [isNews, bne_iff_ne.2 other, Bool.true_and, Bool.not_eq_false', Option.any_eq_true]

/-- What is done to a binding that a program leaves depends on whether it is written back. -/
theorem ite_isNews {β : Type} (before : Bindings Value) (entry : String × Value) (old new : β) :
    (if entry.1 == libraryName then old
      else match before.get? entry.1 with
        | some v => if v.same entry.2 then old else new
        | none => new) = if isNews before entry = true then new else old := by
  unfold isNews
  by_cases library : entry.1 = libraryName
  · simp [library]
  · rw [if_neg (mt beq_iff_eq.1 library), bne_iff_ne.2 library, Bool.true_and]
    cases before.get? entry.1 with
    | none => rfl
    | some v =>
      show (if v.same entry.2 = true then old else new) =
        if (!v.same entry.2) = true then new else old
      cases v.same entry.2 <;> rfl

/-- Writing back lays the news over the innermost frame. -/
theorem commit_eq (scope : Scope Value) (before after : Bindings Value) :
    commit scope before after = scope.putAll (after.filter (isNews before)) := by
  induction after generalizing scope with
  | nil => rfl
  | cons entry after ih =>
    have first : commit scope before [entry] =
        if isNews before entry = true then scope.put entry.1 entry.2 else scope :=
      ite_isNews before entry scope (scope.put entry.1 entry.2)
    have rest : commit scope before (entry :: after) =
      commit (commit scope before [entry]) before after := rfl
    rw [rest, first, ih, List.filter_cons]
    cases isNews before entry <;> rfl

/-! ### Scripts of a scope in a forest -/

/-- Computations that read and change a forest of scopes and the world; what they have changed stays
changed when they raise an error. -/
abbrev ForestRun := ExceptT Raised (StateM (ScopeForest Value × World))

variable {α : Type}

/-- A computation that sees one of the scopes. -/
def seeing (n : Nat) (x : Scope Value → Run α) : ForestRun α := fun s =>
  let r : Except Raised α × World := x (s.1.scope n) s.2
  (r.1, s.1, r.2)

/-- Binds a name in one of the scopes. -/
def bindAt (n : Nat) (name : String) (value : Value) : ForestRun Unit :=
  modify fun s => (s.1.putAt n name value, s.2)

/-- Writes back a binding that a program has made or changed. -/
def writeOne (n : Nat) (before : Bindings Value) (entry : String × Value) : ForestRun Unit :=
  if entry.1 == libraryName then return ()
  else
    match before.get? entry.1 with
    | some v => if v.same entry.2 then return () else bindAt n entry.1 entry.2
    | none => bindAt n entry.1 entry.2

/-- Writes back, one after the other, the bindings that a program has made or changed. -/
def writeBack (n : Nat) (before after : Bindings Value) : ForestRun Unit :=
  after.forM (writeOne n before)

/-- Runs a program text as statements in one of the scopes. -/
def executeAt (n : Nat) (source : String) : ForestRun Unit := do
  let (before, after) ← seeing n (runScript source)
  writeBack n before.bindings after.bindings

theorem run_writeBack {f : ScopeForest Value} {n : Nat} (here : n < f.nodes.size)
    (before after : Bindings Value) (w : World) :
    @Eq (Except Raised Unit × ScopeForest Value × World) (writeBack n before after (f, w))
      (.ok (), f.setFrame n (commit (f.scope n) before after).frame, w) := by
  have folded (f : ScopeForest Value) : @Eq (Except Raised Unit × ScopeForest Value × World)
      (writeBack n before after (f, w)) (.ok (), (after.filter (isNews before)).foldl
        (fun f entry => f.putAt n entry.1 entry.2) f, w) := by
    induction after generalizing f with
    | nil => rfl
    | cons entry after ih =>
      show @Eq (Except Raised Unit × ScopeForest Value × World)
        ((writeOne n before entry >>= fun _ => writeBack n before after) (f, w)) _
      have first : writeOne n before entry =
          if isNews before entry = true then bindAt n entry.1 entry.2 else return () :=
        ite_isNews before entry _ _
      rw [first, List.filter_cons]
      cases isNews before entry with
      | true => exact ih (f.putAt n entry.1 entry.2)
      | false => exact ih f
  rw [folded, ScopeForest.foldl_putAt here, commit_eq]
  rfl

/-- A script in a scope of a forest does to that scope what it does to the scope by itself. -/
theorem run_executeAt {f : ScopeForest Value} {n : Nat} (here : n < f.nodes.size)
    (source : String) (w : World) :
    @Eq (Except Raised Unit × ScopeForest Value × World) (executeAt n source (f, w))
      (match (execute source (f.scope n) w : Except Raised (Scope Value) × World) with
        | (.ok s, w') => (.ok (), f.setFrame n s.frame, w')
        | (.error raised, w') => (.error raised, f, w')) := by
  have seen : @Eq (Except Raised (Namespace × Namespace) × ScopeForest Value × World)
      (seeing n (runScript source) (f, w))
      ((runScript source (f.scope n) w).1, f, (runScript source (f.scope n) w).2) := rfl
  rw [executeAt, execute, run_bind, run_bind, seen]
  rcases (runScript source (f.scope n) w : Except Raised (Namespace × Namespace) × World) with
    ⟨raised | ⟨before, after⟩, w'⟩
  · rfl
  · exact run_writeBack here before.bindings after.bindings w'

/-! ### What a program starts with -/

theorem readProgram_script {source : String} {program : Program}
    (h : readProgram .script source = .ok program) : ∃ body, program = .script body := by
  unfold readProgram at h
  dsimp only at h
  split at h
  · cases h
  split at h
  · cases h
  obtain ⟨read, -, h⟩ := exists_of_bind_eq_ok h
  split at h
  · exact ⟨read.1, (Except.ok.inj h).symm⟩
  · cases h

theorem of_ends_readCached {mode : ReadMode} {source : String} {known : Program × Nat}
    {w w' : World} (run : Ends (readCached mode source) w known w') :
    readProgram mode source = .ok known.1 ∧ w'.library = w.library := by
  rw [← bind_pure (readCached mode source)] at run
  have read := (run_readCached_bind mode source pure w).symm.trans run
  have faithful := w.cache.map_fst_read mode source
  cases found : (w.cache.read mode source).1 with
  | error flaw =>
    rw [found] at read
    cases read
  | ok program =>
    rw [found] at read faithful
    obtain ⟨rfl, rfl⟩ := ends_pure_iff.1 read
    exact ⟨faithful.symm, rfl⟩

/-- A program starts with what it sees of the scope. -/
theorem before_of_runScript {source : String} {s : Scope Value} {w w' : World}
    {before after : Namespace} (run : Ends (runScript source s) w (before, after) w') :
    before.bindings = namespaceOf w.library s := by
  unfold runScript at run
  obtain ⟨u, w₁, noted, run⟩ := ends_bind_iff.1 run
  obtain ⟨⟨program, number⟩, w₂, read, run⟩ := ends_bind_iff.1 run
  obtain ⟨source, library⟩ := of_ends_readCached read
  obtain ⟨body, rfl⟩ := readProgram_script source
  obtain ⟨⟨opened, frame⟩, w₃, entered, run⟩ := ends_bind_iff.1 run
  obtain ⟨-, w₄, -, run⟩ := ends_bind_iff.1 run
  obtain ⟨left, w₅, -, run⟩ := ends_bind_iff.1 run
  obtain ⟨same, -⟩ := ends_pure_iff.1 run
  obtain ⟨whole, -⟩ := ends_unique entered (ends_openFrame s w₂)
  have noted : { w with calls := (.script, some _) :: w.calls } = w₁ := ends_modify_iff.1 noted
  have library' : w₂.library = w.library := library.trans (congrArg World.library noted).symm
  rw [← (Prod.mk.inj same).1, (Prod.mk.inj whole).1, library']

/-! ### What programs see afterwards -/

/-- What lookups find in the innermost frame afterwards. -/
theorem get?_frame_commit (s : Scope Value) (before after : Namespace) (name : String) :
    (commit s before.bindings after.bindings).frame.get? name =
      ((after.bindings.get? name).filter fun v => isNews before.bindings (name, v)).or
        (s.frame.get? name) := by
  have distinct : (Bindings.names (after.bindings.filter (isNews before.bindings))).Nodup :=
    after.distinct.sublist (List.filter_sublist.map _)
  rw [commit_eq]
  show (s.frame.overlay (after.bindings.filter (isNews before.bindings))).get? name = _
  rw [Bindings.get?_overlay distinct, Bindings.get?_filter_of_nodup after.distinct]

/-- A name that is not bound anew keeps what the innermost frame has. -/
theorem get?_frame_commit_of_old {s : Scope Value} {before after : Namespace} {name : String}
    (old : ∀ value, after.bindings.get? name = some value →
      isNews before.bindings (name, value) = false) :
    (commit s before.bindings after.bindings).frame.get? name = s.frame.get? name := by
  rw [get?_frame_commit]
  cases left : after.bindings.get? name with
  | none => rfl
  | some value =>
    rw [Option.filter_some, old value left]
    rfl

/-- After a program every name that it left bound is seen with the same value. -/
theorem exists_get?_namespaceOf_commit {s : Scope Value} (distinct : s.Distinct)
    {before after : Namespace} {library : Nat} (start : before.bindings = namespaceOf library s)
    (distinct' : (commit s before.bindings after.bindings).Distinct)
    {name : String} (other : name ≠ libraryName) {value : Value}
    (left : after.bindings.get? name = some value) :
    ∃ v, v.same value = true ∧ ∀ library',
      (namespaceOf library' (commit s before.bindings after.bindings)).get? name = some v := by
  have outer : (commit s before.bindings after.bindings).outer = s.outer := by
    rw [commit_eq]
    rfl
  cases news : isNews before.bindings (name, value) with
  | true =>
    refine ⟨value, Value.same_self value, fun library' => ?_⟩
    have bound : (commit s before.bindings after.bindings).frame.get? name = some value := by
      rw [get?_frame_commit, left, Option.filter_some, news]
      rfl
    have found : (commit s before.bindings after.bindings).get? name = some value := by
      rw [Scope.get?, Scope.frames, List.findSome?_cons, bound]
    rw [get?_namespaceOf distinct', if_neg other, found, Option.some_or]
  | false =>
    obtain ⟨v, known, same⟩ := (isNews_eq_false_iff other).1 news
    refine ⟨v, same, fun library' => ?_⟩
    have kept : (commit s before.bindings after.bindings).frame.get? name = s.frame.get? name :=
      get?_frame_commit_of_old fun value' left' => by
        rw [left] at left'
        rw [← Option.some.inj left', news]
    have found : (commit s before.bindings after.bindings).get? name = s.get? name := by
      rw [Scope.get?, Scope.get?, Scope.frames, Scope.frames, outer, List.findSome?_cons,
        List.findSome?_cons, kept]
    rw [get?_namespaceOf distinct', if_neg other, found]
    rw [start, get?_namespaceOf distinct, if_neg other] at known
    exact known

/-! ### Scripts that end, and scripts that do not -/

/-- A program binds a name, and not to what the name was bound to when the program started. -/
def Rebinds (before after : Namespace) (name : String) : Prop :=
  ∃ value, after.bindings.get? name = some value ∧
    ∀ v, before.bindings.get? name = some v → v.same value = false

/-- What a program leaves as it was when the program started, it does not rebind. -/
theorem not_rebinds_of_get?_eq {before after : Namespace} {name : String}
    (alike : after.bindings.get? name = before.bindings.get? name) :
    ¬ Rebinds before after name := by
  rintro ⟨value, left, other⟩
  have differs := other value (alike ▸ left)
  rw [Value.same_self] at differs
  cases differs

/-- What a script that started with the bindings `before` and left the bindings `after` has done to
one of the scopes. -/
structure Committed (n : Nat) (before after : Namespace) (f f' : ScopeForest Value) : Prop where
  changes : f.ChangesOnly n f'
  sound : f'.Sound
  /-- Every name but that of the library has the value that the script left. -/
  seen : ∀ name value, name ≠ libraryName → after.bindings.get? name = some value →
    ∃ v, v.same value = true ∧
      (∀ library, (namespaceOf library (f'.scope n)).get? name = some v) ∧
      (IsName name → ∀ w, ∃ w', Ends (evaluate name (f'.scope n)) w v w')
  /-- Nothing but what the script bound anew is copied. -/
  kept : ∀ name, name = libraryName ∨ ¬ Rebinds before after name →
    (f'.scope n).frame.get? name = (f.scope n).frame.get? name

theorem committed_setFrame {f : ScopeForest Value} (sound : f.Sound) {n : Nat}
    (here : n < f.nodes.size) {before after : Namespace} {library : Nat}
    (start : before.bindings = namespaceOf library (f.scope n)) :
    Committed n before after f
      (f.setFrame n (commit (f.scope n) before.bindings after.bindings).frame) := by
  let s := commit (f.scope n) before.bindings after.bindings
  have frame : s.frame.names.Nodup := by
    show (commit (f.scope n) before.bindings after.bindings).frame.names.Nodup
    rw [commit_eq]
    exact Bindings.nodup_names_overlay (sound.nodup_names here) _
  have sound' : (f.setFrame n s.frame).Sound := sound.setFrame n frame
  have scope : (f.setFrame n s.frame).scope n = s := by
    rw [sound.scope_setFrame here]
    show ({ f.scope n with
      frame := (commit (f.scope n) before.bindings after.bindings).frame } : Scope Value) = s
    rw [commit_eq]
    exact (commit_eq (f.scope n) before.bindings after.bindings).symm
  have distinct : s.Distinct := scope ▸ sound'.distinct_scope n
  refine ⟨f.changesOnly_setFrame n _, sound', fun name value other left => ?_,
    fun name old => ?_⟩
  · obtain ⟨v, same, seen⟩ :=
      exists_get?_namespaceOf_commit (sound.distinct_scope n) start distinct other left
    refine ⟨v, same, fun library' => scope ▸ seen library', fun form w => ?_⟩
    exact scope ▸ exists_ends_evaluate form (seen w.library)
  · rw [scope]
    refine get?_frame_commit_of_old fun value left => ?_
    rcases old with rfl | old
    · rfl
    · rw [← Bool.not_eq_true]
      refine fun news => old ⟨value, left, fun v known => ?_⟩
      have fresh := (Bool.and_eq_true_iff.1 news).2
      simpa [known] using fresh

/-- An empty scope inside of one that binds a number. -/
def sharedForest : ScopeForest Value :=
  (((({} : ScopeForest Value).add [("x", .int .shared 1)] none).2).add [] (some 0)).2

end HtmlTemplate.Script
