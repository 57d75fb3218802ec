import HtmlTemplate.Proofs.PropReads
import HtmlTemplate.Proofs.Stops

/-!
# Reads of props that fail

A read of props fails when the props are closed, when an attribute is asked for that is kept from
programs, or when the value of a prop is asked for and its expression fails. In the first two cases
nothing has happened. In the last one the attribute is used up before its expression is evaluated,
and no value is kept for it; so it can neither be read again nor passed on
(`failed_read_keeps_iff`).
-/

namespace HtmlTemplate.Script

open HtmlTemplate.Expand

section Failing

variable {perform : Perform} {n : Nat} {w w' : World} {p : Props} {e : Raised}

/-! ### Computations that only look -/

/-- A computation that ends and leaves the state as it is. -/
def Looks {α : Type} (x : Run α) (w : World) : Prop := ∃ a, Ends x w a w

theorem looks_pure {α : Type} (a : α) : Looks (pure a : Run α) w := ⟨a, rfl⟩

theorem looks_bind {α β : Type} {x : Run α} {f : α → Run β} (looks : Looks x w)
    (later : ∀ a, Looks (f a) w) : Looks (x >>= f) w := by
  obtain ⟨a, ends⟩ := looks
  obtain ⟨b, ends'⟩ := later a
  exact ⟨b, (run_bind_of_ends ends f).trans ends'⟩

theorem looks_objectAt_bind {α : Type} {f : Object → Run α} (looks : Looks (f (w.object n)) w) :
    Looks (objectAt n >>= f) w := looks

theorem looks_hasOperation (v : Value) (name : String) : Looks (hasOperation v name) w := by
  unfold hasOperation
  cases v <;> dsimp only <;> split <;> exact ⟨_, rfl⟩

theorem looks_typeValue (h : w.object n = .props p) : Looks (typeValue (.object n)) w := by
  unfold typeValue
  refine looks_bind ⟨_, rfl⟩ fun type => looks_objectAt_bind ?_
  rw [h]
  dsimp only
  split <;> exact looks_pure _

/-- A part of props is found, or there is none and nothing has happened. -/
theorem ends_partOf_props (h : w.object n = .props p) (name : String) :
    ∃ part? w₁, Ends (partOf (.object n) name) w part? w₁ ∧ (part? = none → w₁ = w) := by
  unfold partOf
  by_cases cls : name = "__class__"
  · subst cls
    simp only
    obtain ⟨a, ends⟩ := looks_typeValue h
    exact ⟨_, _, (run_bind_of_ends ends _).trans rfl, fun _ => rfl⟩
  · simp only
    have shown : Ends (objectAt n) w (.props p) w := congrArg (fun o => (Except.ok o, w)) h
    by_cases closed : name = "_closed"
    · exact ⟨_, _, (run_bind_of_ends shown _).trans (by simp only [closed]; rfl), fun _ => rfl⟩
    · by_cases resolved : name = "_resolved"
      · exact ⟨some _, _, (run_bind_of_ends shown _).trans (by simp only [resolved]; rfl), nofun⟩
      · refine ⟨none, w, (run_bind_of_ends shown _).trans ?_, fun _ => rfl⟩
        simp only [beq_eq_false_iff_ne.2 closed, beq_eq_false_iff_ne.2 resolved]
        rfl

/-! ### One read -/

theorem not_fails_method {v : Value} {name : String} :
    ¬ Fails (do return .method (← freshMark) v name : Run Value) w e w' :=
  not_fails_of_ends rfl

theorem ends_typeOf_props (h : w.object n = .props p) : Ends (typeOf (.object n)) w "Props" w := by
  change (Except.ok ((Value.object n).typeName w), w) = _
  rw [Value.typeName, h]
  rfl

/-- A read by attribute that is kept from programs does nothing when it fails. -/
theorem fails_attributeOf_hidden (h : w.object n = .props p) {name : String}
    (hidden : ¬ (PropRead.attribute_ name).Public)
    (run : Fails (attributeOf perform (.object n) name) w e w') : w' = w := by
  unfold attributeOf at run
  obtain ⟨part?, w₁, found, still⟩ := ends_partOf_props h name
  replace run := (run_bind_of_ends found _).symm.trans run
  cases part? with
  | some part => exact absurd run (not_fails_of_ends rfl)
  | none =>
    rw [still rfl] at run
    replace run := (run_bind_of_ends (ends_typeOf_props h) _).symm.trans run
    split at run
    · exact absurd run not_fails_method
    · rename_i noMethod
      obtain ⟨operates, looked⟩ := looks_hasOperation (.object n) name
      replace run := (run_bind_of_ends looked _).symm.trans run
      split at run
      · exact absurd run not_fails_method
      · replace run := (run_objectAt_bind n _ w).symm.trans run
        rw [h] at run
        have private_ : name.startsWith "_" = true := by
          cases visible : name.startsWith "_" with
          | true => rfl
          | false =>
            refine absurd ⟨visible, ?_⟩ hidden
            rintro rfl
            exact noMethod (by decide)
        simp only [private_, if_true] at run
        exact (fails_throw_iff.1 run).2.symm

theorem not_fails_newStr (raw : String) : ¬ Fails (newStr raw) w e w' := by
  unfold newStr
  split <;> exact not_fails_of_ends rfl

theorem not_fails_remember {key : String} {v : Value} :
    ¬ Fails (do
      match ← objectAt n with
      | .props p => do
        setProps n { p with resolved := p.resolved.put key v }
        return v
      | _ => return v) w e w' := by
  intro run
  replace run := (run_objectAt_bind n _ w).symm.trans run
  cases held : w.object n <;> rw [held] at run <;> exact not_fails_of_ends rfl run

/-- A read by key fails when the props are closed, or when the value of an attribute is asked for
and its expression fails after the attribute was used up. -/
theorem fails_readProp {key : String} (h : w.object n = .props p)
    (run : Fails (readProp perform n p key) w e w') :
    (p.closed = true ∧ w' = w) ∨
    p.closed = false ∧ p.resolved.get? key = none ∧ ∃ raw, (propKey key).1 = true ∧
      p.attrs.get? (propName key) = some raw ∧ ∃ w₁,
        w₁.object n = .props { p with attrs := p.attrs.erase (propName key) } ∧
          Fails (perform Value (.evaluate raw (p.scope.child []))) w₁ e w' := by
  obtain ⟨attrs, resolved, closed, scope⟩ := p
  unfold readProp at run
  unfold propName
  simp only at run ⊢
  cases closed with
  | true => exact .inl ⟨rfl, (fails_throw_iff.1 run).2.symm⟩
  | false =>
    simp only [Bool.false_eq_true, if_false] at run
    refine .inr ⟨rfl, ?_⟩
    cases known : resolved.get? key with
    | some u =>
      rw [known] at run
      exact absurd run (not_fails_of_ends rfl)
    | none =>
      rw [known] at run
      refine ⟨rfl, ?_⟩
      cases found : attrs.get? (propKey key).2 with
      | none =>
        simp only [found] at run
        exact absurd run (not_fails_of_ends rfl)
      | some raw =>
        simp only [found] at run
        rcases fails_bind_iff.1 run with first | ⟨_, w₁, hset, run⟩
        · exact absurd first not_fails_modify
        have used := object_of_ends_setObject h hset
        split at run
        · rcases fails_bind_iff.1 run with failed | ⟨v, w₂, -, later⟩
          · exact ⟨raw, ‹_›, rfl, w₁, used, failed⟩
          · exact absurd later not_fails_remember
        · rcases fails_bind_iff.1 run with failed | ⟨v, w₂, -, later⟩
          · exact absurd failed (not_fails_newStr raw)
          · exact absurd later not_fails_remember

/-! ### Any read -/

/-- Expressions that fail in a scope leave the props with a number alone. -/
def FailsApart (perform : Perform) (n : Nat) (scope : Scope Value) : Prop :=
  ∀ source w e w', Fails (perform Value (.evaluate source (scope.child []))) w e w' →
    w'.object n = w.object n

/-- A read that is not kept from programs fails like a read by key, in whatever way it is done. -/
theorem PropRead.fails_run {r : PropRead} (visible : r.Public) (h : w.object n = .props p)
    (run : Fails (r.run perform n) w e w') : Fails (readProp perform n p r.key) w e w' := by
  replace run := (r.run_eq h visible).symm.trans run
  split at run
  · exact run
  · cases r with
    | get m key default? => exact absurd run (not_fails_of_ends rfl)
    | _ => exact run

/-- A read that is kept from programs does nothing when it fails. -/
theorem PropRead.fails_run_hidden {r : PropRead} (hidden : ¬ r.Public) (h : w.object n = .props p)
    (run : Fails (r.run perform n) w e w') : w' = w := by
  cases r with
  | attribute_ name => exact fails_attributeOf_hidden h hidden run
  | item m key => exact absurd trivial hidden
  | get m key default? => exact absurd trivial hidden

theorem hasProp_eq (p : Props) (key : String) :
    hasProp p key = ((p.resolved.get? key).isSome || (p.attrs.get? (propName key)).isSome) := rfl

/-- What happens to props when a read fails, in whatever way it is done: they stay as they are
exactly when they are closed, or when the read is one that is kept from programs. Otherwise the
value of an attribute was asked for; then the attribute is gone, no value is kept for it, and its key
is none of the props any more. -/
theorem failed_read_keeps_iff {r : PropRead} (h : w.object n = .props p)
    (apart : FailsApart perform n p.scope) (run : Fails (r.run perform n) w e w') :
    ∃ p', w'.object n = .props p' ∧ (p' = p ↔ p.closed = true ∨ ¬ r.Public) ∧
      (p' ≠ p → (propKey r.key).1 = true ∧ hasProp p r.key = true ∧ hasProp p' r.key = false ∧
        p' = { p with attrs := p.attrs.erase (propName r.key) }) := by
  by_cases visible : r.Public
  · rcases fails_readProp h (r.fails_run visible h run) with
      ⟨closed, rfl⟩ | ⟨opened, unread, raw, evaluates, found, w₁, used, failed⟩
    · exact ⟨p, h, iff_of_true rfl (.inl closed), fun other => absurd rfl other⟩
    · have had : hasProp p r.key = true := by
        rw [hasProp_eq, found]
        exact Bool.or_true _
      have lost : hasProp { p with attrs := p.attrs.erase (propName r.key) } r.key = false := by
        rw [hasProp_eq, unread, Bindings.get?_erase, if_pos rfl]
        rfl
      refine ⟨_, (apart _ _ _ _ failed).trans used, iff_of_false (fun same => ?_) ?_, fun _ =>
        ⟨evaluates, had, lost, rfl⟩⟩
      · rw [same, had] at lost
        cases lost
      · simp [opened, visible]
  · obtain rfl := r.fails_run_hidden visible h run
    exact ⟨p, h, iff_of_true rfl (.inr visible), fun other => absurd rfl other⟩

end Failing

/-! ### A name that is not bound -/

/-- A use whose attribute holds a name that its scope does not bind. -/
def unboundProps : Props where
  attrs := [("count", "m"), ("title", "Hi")]
  scope := .root [("n", .int .shared 2)]

/-- A state in which the props of that use are the only object. -/
def unboundWorld : World := { objects := #[.props unboundProps] }

theorem failsApart_lookUpNames (n : Nat) (scope : Scope Value) :
    FailsApart lookUpNames n scope := by
  intro source w e w' run
  unfold lookUpNames at run
  simp only at run
  split at run
  · exact absurd run (not_fails_of_ends rfl)
  · rw [(fails_throw_iff.1 run).2]

theorem failed_read_keeps_unbound :
    unboundWorld.object 0 = .props unboundProps ∧
    FailsApart lookUpNames 0 unboundProps.scope ∧
    ∃ e w', Fails ((PropRead.item .shared "$count").run lookUpNames 0) unboundWorld e w' ∧
      ∃ p', w'.object 0 = .props p' ∧ p' ≠ unboundProps := by
  have apart := failsApart_lookUpNames 0 unboundProps.scope
  have run : Fails ((PropRead.item .shared "$count").run lookUpNames 0) unboundWorld _ _ :=
    (run_access rfl .shared "$count").trans rfl
  obtain ⟨p', held, keeps, -⟩ := failed_read_keeps_iff rfl apart run
  refine ⟨rfl, apart, _, _, run, p', held, fun same => ?_⟩
  rcases keeps.1 same with closed | hidden
  · cases closed
  · exact hidden trivial

/-- The attribute is used up though its value was not found: after the failed read the props do not
have its key, and its text is not passed on. -/
theorem failed_read_loses_attribute :
    ∃ e w' p', Fails ((PropRead.item .shared "$count").run lookUpNames 0) unboundWorld e w' ∧
      w'.object 0 = .props p' ∧ p'.attrs = [("title", "Hi")] ∧
      hasProp unboundProps "$count" = true ∧ hasProp p' "$count" = false := by
  refine ⟨_, _, _, (run_access rfl .shared "$count").trans rfl, rfl, ?_⟩
  decide +kernel

end HtmlTemplate.Script
