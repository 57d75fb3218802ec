import HtmlTemplate.Proofs.Runs
import HtmlTemplate.Proofs.Scopes

/-!
# Edits of scopes

A scope can be read, listed, bound and unbound one name at a time, and everything else that can be
done to it is made of these steps. The steps are taken here in a forest of scopes that keeps what a
step has changed even when a later one fails. `edits_are_local` says what an edit of one scope does:
it ends as the function of that edit says, it leaves every other frame alone, and when it fails it
leaves all of them alone.
-/

namespace HtmlTemplate

open HtmlTemplate.Expand

variable {α β : Type}

/-! ### Frames of a forest -/

namespace ScopeForest

variable {f : ScopeForest α} {n : Nat}

theorem getElem?_setFrame (f : ScopeForest α) (n m : Nat) (frame : Bindings α) :
    (f.setFrame n frame).nodes[m]? =
      if n = m then f.nodes[m]?.map fun node => (frame, node.2) else f.nodes[m]? :=
  Array.getElem?_modify

theorem size_setFrame (f : ScopeForest α) (n : Nat) (frame : Bindings α) :
    (f.setFrame n frame).nodes.size = f.nodes.size := Array.size_modify

theorem frame_scope {frame : Bindings α} {parent? : Option Nat}
    (h : f.nodes[n]? = some (frame, parent?)) : (f.scope n).frame = frame := by
  rw [scope, framesFrom, h]
  cases parent? <;> rfl

theorem frame_scope_setFrame (here : n < f.nodes.size) (frame : Bindings α) :
    ((f.setFrame n frame).scope n).frame = frame := by
  have node : (f.setFrame n frame).nodes[n]? = some (frame, f.nodes[n].2) := by
    rw [getElem?_setFrame, if_pos rfl, Array.getElem?_eq_getElem here, Option.map_some]
  exact frame_scope node

theorem ext_nodes {f g : ScopeForest α} (h : ∀ m : Nat, f.nodes[m]? = g.nodes[m]?) : f = g :=
  congrArg mk (Array.ext_getElem? h)

theorem setFrame_setFrame (f : ScopeForest α) (n : Nat) (frame frame' : Bindings α) :
    (f.setFrame n frame).setFrame n frame' = f.setFrame n frame' := by
  refine ext_nodes fun m => ?_
  rw [getElem?_setFrame, getElem?_setFrame, getElem?_setFrame]
  by_cases same : n = m
  · rw [if_pos same, if_pos same, if_pos same, Option.map_map]
    rfl
  · rw [if_neg same, if_neg same, if_neg same]

theorem setFrame_frame (f : ScopeForest α) (n : Nat) : f.setFrame n (f.scope n).frame = f := by
  refine ext_nodes fun m => ?_
  rw [getElem?_setFrame]
  by_cases same : n = m
  · subst same
    rw [if_pos rfl]
    cases here : f.nodes[n]? with
    | none => rfl
    | some node =>
      have frame : (f.scope n).frame = node.1 := frame_scope here
      rw [frame, Option.map_some]
  · rw [if_neg same]

/-- Binds a name in the scope with a number. -/
def putAt (f : ScopeForest α) (n : Nat) (name : String) (value : α) : ScopeForest α :=
  f.setFrame n ((f.scope n).put name value).frame

/-- Names that are bound one after the other are laid over the frame. -/
theorem foldl_putAt (here : n < f.nodes.size) (bindings : Bindings α) :
    bindings.foldl (fun f entry => f.putAt n entry.1 entry.2) f =
      f.setFrame n ((f.scope n).frame.overlay bindings) := by
  induction bindings generalizing f with
  | nil => exact (f.setFrame_frame n).symm
  | cons entry bindings ih =>
    have here₁ : n < (f.putAt n entry.1 entry.2).nodes.size := (f.size_setFrame n _).symm ▸ here
    rw [List.foldl_cons, ih here₁, putAt, frame_scope_setFrame here, setFrame_setFrame]
    rfl

/-- Nothing but the frame of one scope is different. -/
structure ChangesOnly (n : Nat) (f f' : ScopeForest α) : Prop where
  others : ∀ m, m ≠ n → f'.nodes[m]? = f.nodes[m]?
  parent : f'.nodes[n]?.map Prod.snd = f.nodes[n]?.map Prod.snd

theorem changesOnly_setFrame (f : ScopeForest α) (n : Nat) (frame : Bindings α) :
    ChangesOnly n f (f.setFrame n frame) where
  others m other := by rw [getElem?_setFrame, if_neg (Ne.symm other)]
  parent := by
    rw [getElem?_setFrame, if_pos rfl, Option.map_map]
    rfl

/-- A result, and the forest in which the scope with a number is as the result says; a failure
changes nothing. -/
def outcome (f : ScopeForest α) (n : Nat) :
    Except ScopeError (β × Scope α) → Except ScopeError β × ScopeForest α
  | .ok (b, s) => (.ok b, f.setFrame n s.frame)
  | .error e => (.error e, f)

end ScopeForest

/-! ### Single steps -/

/-- A step on a forest of scopes; what it has changed stays changed when it fails. -/
abbrev ScopeStep (α β : Type) := ExceptT ScopeError (StateM (ScopeForest α)) β

namespace ScopeStep

/-- What a step ends with, as a result. -/
def attempt (x : ScopeStep α β) : ScopeStep α (Except ScopeError β) := fun f =>
  let r : Except ScopeError β × ScopeForest α := x f
  (.ok r.1, r.2)

section

variable (n : Nat)

/-- Reads a name in a scope. -/
def read (name : String) : ScopeStep α α := do
  match ((← get).scope n).item name with
  | .ok v => return v
  | .error e => throw e

/-- The first name of a scope. -/
def first : ScopeStep α String := do
  match ((← get).scope n).names with
  | [] => throw .empty
  | name :: _ => return name

/-- Binds a name in a scope. -/
def bind (name : String) (value : α) : ScopeStep α Unit :=
  modify fun f => f.putAt n name value

/-- Removes a name from a scope. -/
def unbind (name : String) : ScopeStep α Unit := do
  let f ← get
  match (f.scope n).erase name with
  | .ok s => set (f.setFrame n s.frame)
  | .error e => throw e

/-! ### Steps made of single steps -/

/-- Reads a name and removes it; `default?` stands in for a name that cannot be read. -/
def pop (name : String) (default? : Option α) : ScopeStep α α := do
  match ← attempt (read n name) with
  | .ok v =>
    unbind n name
    return v
  | .error e =>
    match default? with
    | some v => return v
    | none => throw e

/-- Reads and removes the first name. -/
def popItem : ScopeStep α (String × α) := do
  let name ← first n
  let v ← read n name
  unbind n name
  return (name, v)

/-- Reads a name, and binds it when it cannot be read. -/
def getOrBind (name : String) (value : α) : ScopeStep α α := do
  match ← attempt (read n name) with
  | .ok v => return v
  | .error _ =>
    bind n name value
    return value

/-- Binds names one after the other. -/
def bindAll (bindings : Bindings α) : ScopeStep α Unit :=
  bindings.forM fun entry => bind n entry.1 entry.2

/-- Removes the first name again and again until that fails. -/
inductive Clears : ScopeForest α → ScopeForest α → Prop
  | stop {f f' : ScopeForest α} {e : ScopeError}
      (failed : @Eq (Except ScopeError (String × α) × ScopeForest α) (popItem n f) (.error e, f')) :
      Clears f f'
  | next {f f₁ f' : ScopeForest α} {entry : String × α} (popped : Ends (popItem n) f entry f₁)
      (rest : Clears f₁ f') : Clears f f'

end

/-! ### What steps end with -/

section

variable {f : ScopeForest α} {n : Nat} {name : String}

theorem run_attempt_bind {γ : Type} (x : ScopeStep α β) (g : Except ScopeError β → ScopeStep α γ)
    (f : ScopeForest α) : @Eq (Except ScopeError γ × ScopeForest α) ((attempt x >>= g) f)
      (let r : Except ScopeError β × ScopeForest α := x f
       g r.1 r.2) := rfl

theorem run_read (f : ScopeForest α) (n : Nat) (name : String) :
    @Eq (Except ScopeError α × ScopeForest α) (read n name f) ((f.scope n).item name, f) := by
  show @Eq (Except ScopeError α × ScopeForest α) ((match (f.scope n).item name with
    | .ok v => return v
    | .error e => throw e : ScopeStep α α) f) _
  cases (f.scope n).item name <;> rfl

theorem run_unbind (f : ScopeForest α) (n : Nat) (name : String) :
    @Eq (Except ScopeError Unit × ScopeForest α) (unbind n name f)
      (f.outcome n (((f.scope n).erase name).map ((), ·))) := by
  show @Eq (Except ScopeError Unit × ScopeForest α) ((match (f.scope n).erase name with
    | .ok s => set (f.setFrame n s.frame)
    | .error e => throw e : ScopeStep α Unit) f) _
  cases (f.scope n).erase name <;> rfl

theorem run_pop (f : ScopeForest α) (n : Nat) (name : String) (default? : Option α) :
    @Eq (Except ScopeError α × ScopeForest α) (pop n name default? f)
      (f.outcome n ((f.scope n).pop name default?)) := by
  unfold Scope.pop
  cases found : (f.scope n).get? name with
  | some v =>
    have item : (f.scope n).item name = .ok v := Scope.item_eq_ok_iff.2 found
    rw [pop, run_attempt_bind, run_read, item]
    show @Eq (Except ScopeError α × ScopeForest α) ((unbind n name >>= fun _ => pure v) f) _
    rw [run_bind, run_unbind]
    cases (f.scope n).erase name <;> rfl
  | none =>
    have item : (f.scope n).item name = .error (.unbound name) := by rw [Scope.item, found]
    rw [pop, run_attempt_bind, run_read, item]
    cases default? with
    | some v => exact congrArg (Except.ok v, ·) (f.setFrame_frame n).symm
    | none => rfl

theorem run_popItem (f : ScopeForest α) (n : Nat) :
    @Eq (Except ScopeError (String × α) × ScopeForest α) (popItem n f)
      (f.outcome n ((f.scope n).popItem.map fun r => ((r.1, r.2.1), r.2.2))) := by
  unfold Scope.popItem
  show @Eq (Except ScopeError (String × α) × ScopeForest α)
    (((match (f.scope n).names with
      | [] => throw .empty
      | name :: _ => return name : ScopeStep α String) >>= fun name => do
        let v ← read n name
        unbind n name
        return (name, v)) f) _
  cases (f.scope n).names with
  | nil => rfl
  | cons name later =>
    show @Eq (Except ScopeError (String × α) × ScopeForest α) ((read n name >>= fun v =>
      unbind n name >>= fun _ => pure (name, v)) f) (f.outcome n
        (((f.scope n).pop name none |>.map (name, ·)).map fun r => ((r.1, r.2.1), r.2.2)))
    unfold Scope.pop
    rw [run_bind, run_read]
    cases found : (f.scope n).get? name with
    | some v =>
      have item : (f.scope n).item name = .ok v := Scope.item_eq_ok_iff.2 found
      rw [item]
      show @Eq (Except ScopeError (String × α) × ScopeForest α)
        ((unbind n name >>= fun _ => pure (name, v)) f) _
      rw [run_bind, run_unbind]
      cases (f.scope n).erase name <;> rfl
    | none =>
      have item : (f.scope n).item name = .error (.unbound name) := by rw [Scope.item, found]
      rw [item]
      rfl

theorem run_getOrBind (f : ScopeForest α) (n : Nat) (name : String) (value : α) :
    @Eq (Except ScopeError α × ScopeForest α) (getOrBind n name value f)
      (f.outcome n (.ok ((f.scope n).getOrPut name value))) := by
  unfold Scope.getOrPut
  rw [getOrBind, run_attempt_bind, run_read, Scope.item]
  cases (f.scope n).get? name with
  | some v => exact congrArg (Except.ok v, ·) (f.setFrame_frame n).symm
  | none => rfl

theorem run_bindAll {f : ScopeForest α} {n : Nat} (here : n < f.nodes.size)
    (bindings : Bindings α) :
    @Eq (Except ScopeError Unit × ScopeForest α) (bindAll n bindings f)
      (f.outcome n (.ok ((), (f.scope n).putAll bindings))) := by
  have folded (f : ScopeForest α) : @Eq (Except ScopeError Unit × ScopeForest α)
      (bindAll n bindings f)
      (.ok (), bindings.foldl (fun f entry => f.putAt n entry.1 entry.2) f) := by
    induction bindings generalizing f with
    | nil => rfl
    | cons entry bindings ih => exact ih (f.putAt n entry.1 entry.2)
  rw [folded, ScopeForest.foldl_putAt here]
  rfl

end

end ScopeStep

/-! ### The first name -/

namespace Scope

/-- The first name of a scope is the first one of its innermost frame, if there is one. -/
theorem popItem_of_cons {s : Scope α} {name : String} {v : α} {rest : Bindings α}
    (h : s.frame = (name, v) :: rest) :
    s.popItem = .ok (name, v, { s with frame := Bindings.erase s.frame name }) := by
  obtain ⟨frame, outer⟩ := s
  obtain rfl : frame = (name, v) :: rest := h
  have found : Scope.get? ⟨(name, v) :: rest, outer⟩ name = some v := by
    rw [get?, frames, List.findSome?_cons, Bindings.get?_cons, if_pos rfl]
  have bound : Bindings.has ((name, v) :: rest) name = true :=
    Bindings.has_iff.2 List.mem_cons_self
  show (Scope.pop ⟨(name, v) :: rest, outer⟩ name none).map (name, ·) = _
  unfold Scope.pop
  rw [found]
  show ((Scope.erase ⟨(name, v) :: rest, outer⟩ name).map (v, ·)).map (name, ·) = _
  rw [Scope.erase, if_pos bound]
  rfl

theorem exists_popItem_eq_error {s : Scope α} (h : s.frame = []) : ∃ e, s.popItem = .error e := by
  obtain ⟨frame, outer⟩ := s
  obtain rfl : frame = [] := h
  unfold Scope.popItem
  cases (Scope.names ⟨[], outer⟩ : List String) with
  | nil => exact ⟨_, rfl⟩
  | cons name later =>
    dsimp only
    unfold Scope.pop
    -- A name of the frames around can be read, but it cannot be removed.
    cases Scope.get? ⟨[], outer⟩ name with
    | some v => exact ⟨.unbound name, rfl⟩
    | none => exact ⟨.unbound name, rfl⟩

theorem length_erase_lt (entry : String × α) (rest : Bindings α) :
    (Bindings.erase (entry :: rest) entry.1).length < (entry :: rest).length := by
  rw [Bindings.erase, List.filter_cons_of_neg (by simp)]
  exact Nat.lt_succ_of_le (List.length_filter_le _ _)

theorem frame_popItems {fuel : Nat} {s : Scope α} (enough : s.frame.length < fuel) :
    (s.popItems fuel).frame = [] := by
  induction fuel generalizing s with
  | zero => exact absurd enough (Nat.not_lt_zero _)
  | succ fuel ih =>
    rw [popItems]
    cases h : s.frame with
    | nil =>
      obtain ⟨e, failed⟩ := exists_popItem_eq_error h
      rw [failed]
      exact h
    | cons entry rest =>
      have shorter := length_erase_lt entry rest
      rw [popItem_of_cons h]
      refine ih ?_
      show (Bindings.erase s.frame entry.1).length < fuel
      rw [h] at enough ⊢
      omega

theorem frame_clear (s : Scope α) : s.clear.frame = [] := frame_popItems (Nat.lt_succ_self _)

theorem nodup_names_of_erase {s t : Scope α} {name : String} (h : s.erase name = .ok t)
    (distinct : s.frame.names.Nodup) : t.frame.names.Nodup := by
  rw [erase] at h
  split at h
  · cases h
    exact Bindings.nodup_names_erase distinct name
  · cases h

theorem nodup_names_of_pop {s t : Scope α} {name : String} {default? : Option α} {v : α}
    (h : s.pop name default? = .ok (v, t)) (distinct : s.frame.names.Nodup) :
    t.frame.names.Nodup := by
  unfold pop at h
  split at h
  · obtain ⟨t', erased, same⟩ := exists_of_map_eq_ok h
    cases same
    exact nodup_names_of_erase erased distinct
  · cases h
    exact distinct
  · cases h

end Scope

namespace ScopeStep

variable {f f' : ScopeForest α} {n : Nat}

theorem ends_popItem_of_cons {entry : String × α} {rest : Bindings α}
    (h : (f.scope n).frame = entry :: rest) :
    Ends (popItem n) f entry (f.setFrame n (Bindings.erase (entry :: rest) entry.1)) := by
  unfold Ends
  rw [run_popItem, Scope.popItem_of_cons h, ← h]
  rfl

theorem exists_popItem_eq_error (h : (f.scope n).frame = []) :
    ∃ e, @Eq (Except ScopeError (String × α) × ScopeForest α) (popItem n f) (.error e, f) := by
  obtain ⟨e, failed⟩ := Scope.exists_popItem_eq_error h
  exact ⟨e, by rw [run_popItem, failed]; rfl⟩

/-- Clearing a scope comes to an end, and there only. -/
theorem clears_iff (here : n < f.nodes.size) : Clears n f f' ↔ f' = f.setFrame n [] := by
  constructor
  · intro h
    induction h with
    | @stop f f' e failed =>
      cases frame : (f.scope n).frame with
      | nil =>
        obtain ⟨e', fails⟩ := exists_popItem_eq_error frame
        rw [← frame, ScopeForest.setFrame_frame]
        exact (Prod.mk.inj (failed.symm.trans fails)).2
      | cons entry rest => cases failed.symm.trans (ends_popItem_of_cons frame)
    | @next f f₁ f' entry popped rest ih =>
      cases frame : (f.scope n).frame with
      | nil =>
        obtain ⟨e, fails⟩ := exists_popItem_eq_error frame
        cases popped.symm.trans fails
      | cons first rest =>
        obtain ⟨rfl, rfl⟩ := ends_unique popped (ends_popItem_of_cons frame)
        rw [ih ((f.size_setFrame n _).symm ▸ here), ScopeForest.setFrame_setFrame]
  · rintro rfl
    -- Every removal makes the innermost frame shorter.
    induction length : (f.scope n).frame.length using Nat.strong_induction_on generalizing f with
    | _ k ih =>
      cases frame : (f.scope n).frame with
      | nil =>
        obtain ⟨e, fails⟩ := exists_popItem_eq_error frame
        rw [← frame, ScopeForest.setFrame_frame]
        exact .stop fails
      | cons entry rest =>
        let shorter := Bindings.erase (entry :: rest) entry.1
        have here₁ : n < (f.setFrame n shorter).nodes.size := (f.size_setFrame n _).symm ▸ here
        have lt : ((f.setFrame n shorter).scope n).frame.length < k := by
          rw [ScopeForest.frame_scope_setFrame here, ← length, frame]
          exact Scope.length_erase_lt entry rest
        have rest := ih _ lt here₁ rfl
        rw [ScopeForest.setFrame_setFrame] at rest
        exact .next (ends_popItem_of_cons frame) rest

end ScopeStep

/-! ### Edits -/

/-- The edits of a scope. -/
inductive ScopeEdit (α : Type)
  | put (name : String) (value : α)
  | erase (name : String)
  | pop (name : String) (default? : Option α)
  | popItem
  | getOrPut (name : String) (value : α)
  | putAll (bindings : Bindings α)
  | clear

/-- What an edit gives. -/
inductive ScopeAnswer (α : Type)
  | nothing
  | value (v : α)
  | entry (name : String) (v : α)

namespace ScopeEdit

/-- An edit as a function of scopes. -/
def apply : ScopeEdit α → Scope α → Except ScopeError (ScopeAnswer α × Scope α)
  | put name value, s => .ok (.nothing, s.put name value)
  | erase name, s => (s.erase name).map (.nothing, ·)
  | pop name default?, s => (s.pop name default?).map fun r => (.value r.1, r.2)
  | popItem, s => s.popItem.map fun r => (.entry r.1 r.2.1, r.2.2)
  | getOrPut name value, s => .ok (.value (s.getOrPut name value).1, (s.getOrPut name value).2)
  | putAll bindings, s => .ok (.nothing, s.putAll bindings)
  | clear, s => .ok (.nothing, s.clear)

/-- An edit as a step that is made of single steps; clearing takes any number of them. -/
def step? (n : Nat) : ScopeEdit α → Option (ScopeStep α (ScopeAnswer α))
  | put name value => some ((fun _ => .nothing) <$> ScopeStep.bind n name value)
  | erase name => some ((fun _ => .nothing) <$> ScopeStep.unbind n name)
  | pop name default? => some (.value <$> ScopeStep.pop n name default?)
  | popItem => some ((fun entry => .entry entry.1 entry.2) <$> ScopeStep.popItem n)
  | getOrPut name value => some (.value <$> ScopeStep.getOrBind n name value)
  | putAll bindings => some ((fun _ => .nothing) <$> ScopeStep.bindAll n bindings)
  | clear => none

/-- An edit of the scope with a number, what it ends with, and the forest afterwards. -/
inductive Performs (n : Nat) (f : ScopeForest α) :
    ScopeEdit α → Except ScopeError (ScopeAnswer α) → ScopeForest α → Prop
  | once {edit : ScopeEdit α} {step : ScopeStep α (ScopeAnswer α)} (h : edit.step? n = some step)
      {r : Except ScopeError (ScopeAnswer α)} {f' : ScopeForest α}
      (run : @Eq (Except ScopeError (ScopeAnswer α) × ScopeForest α) (step f) (r, f')) :
      Performs n f edit r f'
  | again {f' : ScopeForest α} (h : ScopeStep.Clears n f f') : Performs n f clear (.ok .nothing) f'

variable {f f' : ScopeForest α} {n : Nat} {edit : ScopeEdit α}
  {r : Except ScopeError (ScopeAnswer α)}

theorem run_map {γ : Type} {x : ScopeStep α β} {result : Except ScopeError (β × Scope α)}
    (run : @Eq (Except ScopeError β × ScopeForest α) (x f) (f.outcome n result)) (g : β → γ) :
    @Eq (Except ScopeError γ × ScopeForest α) ((g <$> x) f)
      (f.outcome n (result.map fun p => (g p.1, p.2))) := by
  rw [map_eq_pure_bind, run_bind, run]
  cases result <;> rfl

/-- An edit that is made of single steps ends as its function says. -/
theorem run_step {step : ScopeStep α (ScopeAnswer α)} (h : edit.step? n = some step)
    (here : n < f.nodes.size) : @Eq (Except ScopeError (ScopeAnswer α) × ScopeForest α) (step f)
      (f.outcome n (edit.apply (f.scope n))) := by
  cases edit with
  | put name value =>
    obtain rfl := Option.some.inj h
    rfl
  | erase name =>
    obtain rfl := Option.some.inj h
    rw [run_map (ScopeStep.run_unbind f n name), apply]
    cases (f.scope n).erase name <;> rfl
  | pop name default? =>
    obtain rfl := Option.some.inj h
    exact run_map (ScopeStep.run_pop f n name default?) _
  | popItem =>
    obtain rfl := Option.some.inj h
    rw [run_map (ScopeStep.run_popItem f n), apply]
    cases (f.scope n).popItem <;> rfl
  | getOrPut name value =>
    obtain rfl := Option.some.inj h
    exact run_map (ScopeStep.run_getOrBind f n name value) _
  | putAll bindings =>
    obtain rfl := Option.some.inj h
    exact run_map (ScopeStep.run_bindAll here bindings) _
  | clear => cases h

/-- Every edit can be performed, in one way, and ends as its function says. -/
theorem performs_iff (here : n < f.nodes.size) :
    Performs n f edit r f' ↔ (r, f') = f.outcome n (edit.apply (f.scope n)) := by
  constructor
  · intro h
    cases h with
    | once h run => exact run.symm.trans (run_step h here)
    | again h =>
      rw [(ScopeStep.clears_iff here).1 h, apply, ← Scope.frame_clear (f.scope n)]
      rfl
  · intro h
    cases step : edit.step? n with
    | some step' => exact .once step ((run_step step here).trans h.symm)
    | none =>
      cases edit with
      | clear =>
        obtain ⟨rfl, rfl⟩ := Prod.mk.inj h
        rw [Scope.frame_clear]
        exact .again ((ScopeStep.clears_iff here).2 rfl)
      | _ => cases step

/-- Edits keep the names of a frame distinct. -/
theorem nodup_names_apply {s s' : Scope α} {answer : ScopeAnswer α}
    (h : edit.apply s = .ok (answer, s')) (distinct : s.frame.names.Nodup) :
    s'.frame.names.Nodup := by
  cases edit with
  | put name value =>
    cases h
    exact Bindings.nodup_names_put distinct name value
  | erase name =>
    obtain ⟨t, erased, same⟩ := exists_of_map_eq_ok h
    cases same
    exact Scope.nodup_names_of_erase erased distinct
  | pop name default? =>
    obtain ⟨p, popped, same⟩ := exists_of_map_eq_ok h
    cases same
    exact Scope.nodup_names_of_pop popped distinct
  | popItem =>
    obtain ⟨p, popped, same⟩ := exists_of_map_eq_ok h
    cases same
    cases frame : s.frame with
    | nil =>
      obtain ⟨e, failed⟩ := Scope.exists_popItem_eq_error frame
      cases failed.symm.trans popped
    | cons entry rest =>
      cases (Scope.popItem_of_cons frame).symm.trans popped
      exact Bindings.nodup_names_erase distinct entry.1
  | getOrPut name value =>
    cases h
    unfold Scope.getOrPut
    split
    · exact distinct
    · exact Bindings.nodup_names_put distinct name value
  | putAll bindings =>
    cases h
    exact Bindings.nodup_names_overlay distinct bindings
  | clear =>
    cases h
    rw [Scope.frame_clear]
    exact List.nodup_nil

end ScopeEdit

/-! ### Forests -/

namespace ScopeForest

variable {f f' : ScopeForest α} {n : Nat}

/-- The forests that scopes with frames around them make, and that edits of their scopes leave. -/
inductive Built : ScopeForest α → Prop
  | empty : Built {}
  | add {f : ScopeForest α} (built : Built f) {bindings : Bindings α}
      (distinct : bindings.names.Nodup) {parent? : Option Nat}
      (known : ∀ p ∈ parent?, p < f.nodes.size) : Built (f.add bindings parent?).2
  | edit {f f' : ScopeForest α} (built : Built f) {n : Nat} (here : n < f.nodes.size)
      {edit : ScopeEdit α} {r : Except ScopeError (ScopeAnswer α)}
      (performed : edit.Performs n f r f') : Built f'

/-- Every frame has each name once, and every scope comes after the one around it. -/
structure Sound (f : ScopeForest α) : Prop where
  distinct : ∀ (m : Nat) frame parent?, f.nodes[m]? = some (frame, parent?) → frame.names.Nodup
  earlier : ∀ (m : Nat) frame p, f.nodes[m]? = some (frame, some p) → p < m

theorem Sound.setFrame (sound : f.Sound) (n : Nat) {frame : Bindings α}
    (distinct : frame.names.Nodup) : (f.setFrame n frame).Sound where
  distinct m frame' parent? here := by
    rw [getElem?_setFrame] at here
    split at here
    · obtain ⟨node, -, same⟩ := Option.map_eq_some_iff.1 here
      cases same
      exact distinct
    · exact sound.distinct m frame' parent? here
  earlier m frame' p here := by
    rw [getElem?_setFrame] at here
    split at here
    · obtain ⟨⟨frame'', parent?⟩, found, same⟩ := Option.map_eq_some_iff.1 here
      cases same
      exact sound.earlier m frame'' p found
    · exact sound.earlier m frame' p here

theorem Sound.add (sound : f.Sound) {bindings : Bindings α} (distinct : bindings.names.Nodup)
    {parent? : Option Nat} (known : ∀ p ∈ parent?, p < f.nodes.size) :
    (f.add bindings parent?).2.Sound := by
  have node (m : Nat) : (f.add bindings parent?).2.nodes[m]? =
      if m = f.nodes.size then some (bindings, parent?) else f.nodes[m]? := Array.getElem?_push
  refine ⟨fun m frame parent here => ?_, fun m frame p here => ?_⟩
  · rw [node] at here
    split at here
    · cases here
      exact distinct
    · exact sound.distinct m frame parent here
  · rw [node] at here
    split at here
    · rename_i last
      cases here
      exact last ▸ known p rfl
    · exact sound.earlier m frame p here

theorem Sound.nodup_names (sound : f.Sound) (here : n < f.nodes.size) :
    (f.scope n).frame.names.Nodup := by
  have node : f.nodes[n]? = some (f.nodes[n].1, f.nodes[n].2) := Array.getElem?_eq_getElem here
  rw [frame_scope node]
  exact sound.distinct n _ _ node

theorem Sound.distinct_scope (sound : f.Sound) (n : Nat) : (f.scope n).Distinct := by
  have distinct (fuel m : Nat) : ∀ frame ∈ f.framesFrom fuel m, frame.names.Nodup := by
    induction fuel generalizing m with
    | zero => exact fun frame mem => absurd mem List.not_mem_nil
    | succ fuel ih =>
      rw [framesFrom]
      split
      · exact fun frame mem => absurd mem List.not_mem_nil
      · rename_i frame here
        exact List.forall_mem_singleton.2 (sound.distinct m frame none here)
      · rename_i frame p here
        exact List.forall_mem_cons.2 ⟨sound.distinct m frame (some p) here, ih p⟩
  have frames := distinct (f.nodes.size + 1) n
  rw [scope]
  split
  · exact List.forall_mem_singleton.2 List.nodup_nil
  · rename_i frame outer whole
    rw [whole] at frames
    exact frames

/-- The frames around a scope are not its own. -/
theorem Sound.scope_setFrame (sound : f.Sound) (here : n < f.nodes.size) (frame : Bindings α) :
    (f.setFrame n frame).scope n = { f.scope n with frame := frame } := by
  have apart (fuel m : Nat) (lt : m < n) :
      (f.setFrame n frame).framesFrom fuel m = f.framesFrom fuel m := by
    induction fuel generalizing m with
    | zero => rfl
    | succ fuel ih =>
      have node : (f.setFrame n frame).nodes[m]? = f.nodes[m]? := by
        rw [getElem?_setFrame, if_neg (Nat.ne_of_gt lt)]
      rw [framesFrom, framesFrom, node]
      split
      · rfl
      · rfl
      · rename_i frame' p known
        rw [ih p (Nat.lt_trans (sound.earlier m frame' p known) lt)]
  obtain ⟨own, parent?, node⟩ : ∃ own parent?, f.nodes[n]? = some (own, parent?) :=
    ⟨_, _, Array.getElem?_eq_getElem here⟩
  have node' : (f.setFrame n frame).nodes[n]? = some (frame, parent?) := by
    rw [getElem?_setFrame, if_pos rfl, node, Option.map_some]
  rw [scope, scope, framesFrom, framesFrom, node, node', size_setFrame]
  cases parent? with
  | none => rfl
  | some p =>
    dsimp only
    rw [apart _ p (sound.earlier n own p node)]

theorem Built.sound (built : f.Built) : f.Sound := by
  induction built with
  | empty => exact ⟨fun m _ _ here => by simp at here, fun m _ _ here => by simp at here⟩
  | @add f built bindings distinct parent? known sound => exact sound.add distinct known
  | @edit f f' built n here edit r performed sound =>
    have done := (ScopeEdit.performs_iff here).1 performed
    cases result : edit.apply (f.scope n) with
    | ok p =>
      rw [result] at done
      rw [(Prod.mk.inj done).2]
      exact sound.setFrame n (ScopeEdit.nodup_names_apply result (sound.nodup_names here))
    | error e =>
      rw [result] at done
      rw [(Prod.mk.inj done).2]
      exact sound

/-- Whatever an edit of a scope ends with, it leaves all other frames alone; when it fails it leaves
that of the scope alone as well. -/
theorem changesOnly_outcome {x : Except ScopeError (β × Scope α)} {r : Except ScopeError β}
    (h : (r, f') = f.outcome n x) : ChangesOnly n f f' ∧ ∀ e, r = .error e → f' = f := by
  cases x with
  | ok p =>
    obtain ⟨rfl, rfl⟩ := Prod.mk.inj h
    exact ⟨changesOnly_setFrame f n _, fun e failed => nomatch failed⟩
  | error e =>
    obtain ⟨rfl, rfl⟩ := Prod.mk.inj h
    exact ⟨⟨fun m _ => rfl, rfl⟩, fun e _ => rfl⟩

/-- Every edit of a scope comes to an end, as the function of the edit says, and touches no frame
but that of the scope; one that fails touches none. Removing the first binding takes the first one
of the scope's own frame and fails when there is none, and clearing leaves that frame empty. -/
theorem edits_are_local (built : f.Built) (here : n < f.nodes.size) (edit : ScopeEdit α) :
    (∀ r f', edit.Performs n f r f' ↔ (r, f') = f.outcome n (edit.apply (f.scope n))) ∧
    ∀ r f', edit.Performs n f r f' →
      ChangesOnly n f f' ∧ (∀ e, r = .error e → f' = f) ∧
      (edit = .popItem → match (f.scope n).frame with
        | [] => ∃ e, r = .error e
        | entry :: rest => r = .ok (.entry entry.1 entry.2) ∧ f' = f.setFrame n rest) ∧
      (edit = .clear → r = .ok .nothing ∧ f' = f.setFrame n []) := by
  refine ⟨fun r f' => ScopeEdit.performs_iff here, fun r f' performed => ?_⟩
  have done := (ScopeEdit.performs_iff here).1 performed
  obtain ⟨changes, failed⟩ := changesOnly_outcome done
  refine ⟨changes, failed, ?_, ?_⟩
  · rintro rfl
    have distinct := built.sound.nodup_names here
    cases frame : (f.scope n).frame with
    | nil =>
      obtain ⟨e, fails⟩ := Scope.exists_popItem_eq_error frame
      rw [ScopeEdit.apply, fails] at done
      exact ⟨e, (Prod.mk.inj done).1⟩
    | cons entry rest =>
      rw [frame] at distinct
      rw [ScopeEdit.apply, Scope.popItem_of_cons frame, frame,
        Bindings.erase_first distinct] at done
      exact Prod.mk.inj done
  · rintro rfl
    obtain ⟨rfl, rfl⟩ := Prod.mk.inj done
    rw [Scope.frame_clear]
    exact ⟨rfl, rfl⟩

/-- Two scopes around each other that bind the same name, and the outer one more. -/
def nestedForest : ScopeForest Nat :=
  (((({} : ScopeForest Nat).add [("a", 1), ("b", 2)] none).2).add [("b", 3)] (some 0)).2

/-- The first binding of the inner scope can be removed once; after that there is none although the
outer scope has bindings, and clearing does nothing. -/
theorem edits_are_local_nestedForest : nestedForest.Built ∧ 1 < nestedForest.nodes.size ∧
    ∃ f, ScopeEdit.popItem.Performs 1 nestedForest (.ok (.entry "b" 3)) f ∧
      (∃ e, ScopeEdit.popItem.Performs 1 f (.error e) f) ∧
      ScopeEdit.clear.Performs 1 f (.ok .nothing) f := by
  have built : nestedForest.Built :=
    .add (.add .empty (by decide) (fun p known => absurd known (Option.not_mem_none p)))
      (by decide) (by decide)
  have here : 1 < nestedForest.nodes.size := by decide
  obtain ⟨performs, -⟩ := edits_are_local built here .popItem
  let f := nestedForest.setFrame 1 []
  have first : ScopeEdit.popItem.Performs 1 nestedForest (.ok (.entry "b" 3)) f :=
    (performs _ _).2 rfl
  have built' : f.Built := .edit built here first
  obtain ⟨again, -⟩ := edits_are_local built' here .popItem
  obtain ⟨clears, -⟩ := edits_are_local built' here .clear
  exact ⟨built, here, f, first, ⟨.unbound "a", (again _ _).2 rfl⟩, (clears _ _).2 rfl⟩

/-! ### Edits one after the other -/

/-- Edits of scopes one after the other, whatever each of them ends with. -/
inductive Runs : List (Nat × ScopeEdit α) → ScopeForest α → ScopeForest α → Prop
  | nil (f : ScopeForest α) : Runs [] f f
  | cons {f f₁ f' : ScopeForest α} {n : Nat} {edit : ScopeEdit α}
      {r : Except ScopeError (ScopeAnswer α)} {edits : List (Nat × ScopeEdit α)}
      (here : n < f.nodes.size) (first : edit.Performs n f r f₁) (rest : Runs edits f₁ f') :
      Runs ((n, edit) :: edits) f f'

theorem size_outcome (f : ScopeForest α) (n : Nat) (x : Except ScopeError (β × Scope α)) :
    (f.outcome n x).2.nodes.size = f.nodes.size := by
  cases x with
  | ok p => exact f.size_setFrame n p.2.frame
  | error e => rfl

/-- Any number of edits of scopes comes to an end. -/
theorem exists_runs {edits : List (Nat × ScopeEdit α)}
    (here : ∀ e ∈ edits, e.1 < f.nodes.size) : ∃ f', Runs edits f f' := by
  induction edits generalizing f with
  | nil => exact ⟨f, .nil f⟩
  | cons e edits ih =>
    obtain ⟨here, later⟩ := List.forall_mem_cons.1 here
    let done := f.outcome e.1 (e.2.apply (f.scope e.1))
    have size : done.2.nodes.size = f.nodes.size := size_outcome f e.1 _
    obtain ⟨f', rest⟩ := ih (size.symm ▸ later)
    exact ⟨f', .cons here ((ScopeEdit.performs_iff here).2 rfl) rest⟩

/-- The frame of a scope that no edit is about is never touched. -/
theorem Runs.untouched {edits : List (Nat × ScopeEdit α)} (runs : Runs edits f f') {m : Nat}
    (other : ∀ e ∈ edits, e.1 ≠ m) : f'.nodes[m]? = f.nodes[m]? := by
  induction runs with
  | nil f => rfl
  | cons here first rest ih =>
    obtain ⟨apart, later⟩ := List.forall_mem_cons.1 other
    rw [ih later]
    have done := (ScopeEdit.performs_iff here).1 first
    exact (changesOnly_outcome done).1.others m (Ne.symm apart)

theorem Runs.built {edits : List (Nat × ScopeEdit α)} (runs : Runs edits f f')
    (built : f.Built) : f'.Built := by
  induction runs with
  | nil f => exact built
  | cons here first rest ih => exact ih (.edit built here first)

end ScopeForest

end HtmlTemplate
