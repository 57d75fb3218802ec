import HtmlTemplate.Proofs.Uses

/-!
# Blocks of contexts and components

A `Program` opens contexts and puts components on their stacks in blocks that lie inside each other;
any step may raise an error, and errors may be caught anywhere. Contexts are told apart here, and a
block may be about a context that is not the current one. However a program ends, the current context
and all the stacks are what they were (`restored_run`). At each moment on the way the stack of a
context lists the blocks of its components around that moment (`inside_of_passes`). A program all of
whose blocks are about the current context does what `withContext` and `withComponent` do
(`rendering_eq`).
-/

namespace HtmlTemplate.Rendering

/-! ### Contexts -/

/-- The contexts made so far, each known by its place in the row, and which of them is current. -/
structure Contexts where
  made : List RenderContext := []
  current? : Option Nat := none
deriving DecidableEq, Repr

/-- Which context a block or a step is about. -/
inductive Holder
  | current
  /-- A context that the program holds on to, whether it is current or not. -/
  | made (i : Nat)

namespace Contexts

/-- The current context. -/
def here? (s : Contexts) : Option RenderContext := s.current?.bind (s.made[·]?)

/-- The place of a context, and the context. -/
def find? (s : Contexts) : Holder → Option (Nat × RenderContext)
  | .current => s.current?.bind fun i => s.made[i]?.map (i, ·)
  | .made i => s.made[i]?.map (i, ·)

/-- Changes the context at one place. -/
def change (s : Contexts) (i : Nat) (f : RenderContext → RenderContext) : Contexts :=
  { s with made := s.made.modify i f }

/-- Makes a new context the current one. -/
def opened (s : Contexts) (limit : DepthLimit) : Contexts where
  made := s.made ++ [{ limit := limit }]
  current? := some s.made.length

/-- The components being expanded in the context at a place. -/
def stackOf (s : Contexts) (i : Nat) : List String := s.made[i]?.elim [] RenderContext.stack

end Contexts

/-- Puts a component on the stack. -/
def pushed (name : String) (c : RenderContext) : RenderContext :=
  { c with stack := c.stack ++ [name] }

/-- Takes the last component off the stack. -/
def popped (c : RenderContext) : RenderContext := { c with stack := c.stack.dropLast }

/-- Counts a rewrite step. -/
def stepped (c : RenderContext) : RenderContext := { c with step := c.step + 1 }

/-! ### Programs -/

/-- Programs of blocks and steps. -/
inductive Program
  | skip
  | raise (e : RenderingError)
  /-- One program after another. -/
  | next (first second : Program)
  /-- A program and, when it raises an error, what is made of the error. -/
  | attempt (body : Program) (handler : RenderingError → Program)
  /-- What is made of the current context; so a program may open one only where there is none. -/
  | look (go : Option RenderContext → Program)
  /-- Refuses a component that would nest too deeply. -/
  | check (holder : Holder) (name : String)
  | count (holder : Holder)
  /-- A program with a component on the stack of a context. -/
  | component (holder : Holder) (name : String) (body : Program)
  /-- A program with a new context. -/
  | render (limit : DepthLimit) (body : Program)

namespace Program

/-- Runs a program. The context that was current before a new one is what is restored, and the
component that is taken off a stack is the last one, whatever became of them inside. -/
def run : Program → Contexts → Except RenderingError Unit × Contexts
  | skip, s => (.ok (), s)
  | raise e, s => (.error e, s)
  | next first second, s =>
    match first.run s with
    | (.ok (), s₁) => second.run s₁
    | (.error e, s₁) => (.error e, s₁)
  | attempt body handler, s =>
    match body.run s with
    | (.ok (), s₁) => (.ok (), s₁)
    | (.error e, s₁) => (handler e).run s₁
  | look go, s => (go s.here?).run s
  | check holder name, s =>
    match s.find? holder with
    | none => (.error .noContext, s)
    | some (_, c) => ((checkDepth c.limit c.stack name).mapError .diagnostic, s)
  | count holder, s =>
    match s.find? holder with
    | none => (.error .noContext, s)
    | some (i, _) => (.ok (), s.change i stepped)
  | component holder name body, s =>
    match s.find? holder with
    | none => (.error .noContext, s)
    | some (i, c) =>
      match checkDepth c.limit c.stack name with
      | .error d => (.error (.diagnostic d), s)
      | .ok () =>
        let (result, s₁) := body.run (s.change i (pushed name))
        (result, s₁.change i popped)
  | render limit body, s =>
    let (result, s₁) := body.run (s.opened limit)
    (result, { s₁ with current? := s.current? })

end Program

/-! ### What a block leaves -/

namespace Contexts

variable {s t u : Contexts} {i j : Nat} {c : RenderContext} {holder : Holder}

theorem find?_eq_some (h : s.find? holder = some (i, c)) : s.made[i]? = some c := by
  cases holder with
  | current =>
    obtain ⟨j, -, found⟩ := Option.bind_eq_some_iff.1 h
    obtain ⟨c', made, same⟩ := Option.map_eq_some_iff.1 found
    obtain ⟨rfl, rfl⟩ := Prod.mk.inj same
    exact made
  | made j =>
    obtain ⟨c', made, same⟩ := Option.map_eq_some_iff.1 h
    obtain ⟨rfl, rfl⟩ := Prod.mk.inj same
    exact made

theorem stackOf_of_made (h : s.made[i]? = some c) : s.stackOf i = c.stack := by
  rw [stackOf, h]
  rfl

theorem made_change (f : RenderContext → RenderContext) :
    (s.change i f).made[j]? = if j = i then (s.made[j]?).map f else s.made[j]? := by
  rw [change, List.getElem?_modify]
  by_cases same : j = i
  · simp [same]
  · simp [same, Ne.symm same]

theorem made_change_self (f : RenderContext → RenderContext) (h : s.made[i]? = some c) :
    (s.change i f).made[i]? = some (f c) := by
  rw [made_change, if_pos rfl, h]
  rfl

theorem made_change_of_ne (f : RenderContext → RenderContext) (other : j ≠ i) :
    (s.change i f).made[j]? = s.made[j]? := by
  rw [made_change, if_neg other]

theorem exists_made_change {f : RenderContext → RenderContext} (limit : ∀ c, (f c).limit = c.limit)
    (h : s.made[j]? = some c) :
    ∃ c' : RenderContext, (s.change i f).made[j]? = some c' ∧ c'.limit = c.limit := by
  rw [made_change, h]
  split
  · exact ⟨f c, rfl, limit c⟩
  · exact ⟨c, rfl, rfl⟩

theorem stackOf_change_self (f : RenderContext → RenderContext) (h : s.made[i]? = some c) :
    (s.change i f).stackOf i = (f c).stack :=
  stackOf_of_made (made_change_self f h)

theorem stackOf_change_of_ne (f : RenderContext → RenderContext) (other : j ≠ i) :
    (s.change i f).stackOf j = s.stackOf j := by
  rw [stackOf, made_change_of_ne f other, stackOf]

theorem stackOf_opened (limit : DepthLimit) : (s.opened limit).stackOf i = s.stackOf i := by
  unfold stackOf opened
  rcases Nat.lt_trichotomy i s.made.length with old | new | none
  · rw [List.getElem?_append_left old]
  · simp [new]
  · rw [List.getElem?_eq_none (by simp; omega), List.getElem?_eq_none (by omega)]

theorem made_opened (limit : DepthLimit) (h : s.made[i]? = some c) :
    (s.opened limit).made[i]? = some c := by
  rw [opened, List.getElem?_append_left (List.getElem?_eq_some_iff.1 h).1, h]

/-- The current context and all the stacks are what they were. The contexts that were there are
there still, with their limits. -/
structure Restored (s t : Contexts) : Prop where
  current : t.current? = s.current?
  stack : ∀ i, t.stackOf i = s.stackOf i
  limits : ∀ (i : Nat) (c : RenderContext), s.made[i]? = some c →
    ∃ c' : RenderContext, t.made[i]? = some c' ∧ c'.limit = c.limit

theorem Restored.refl (s : Contexts) : Restored s s := ⟨rfl, fun _ => rfl, fun _ c h => ⟨c, h, rfl⟩⟩

theorem Restored.trans (h : Restored s t) (h' : Restored t u) : Restored s u := by
  refine ⟨h'.current.trans h.current, fun i => (h'.stack i).trans (h.stack i), fun i c made => ?_⟩
  obtain ⟨c', made', limit⟩ := h.limits i c made
  obtain ⟨c'', made'', limit'⟩ := h'.limits i c' made'
  exact ⟨c'', made'', limit'.trans limit⟩

/-- A change of a context that keeps its stack and its limit. -/
theorem restored_change {f : RenderContext → RenderContext} (stack : ∀ c, (f c).stack = c.stack)
    (limit : ∀ c, (f c).limit = c.limit) : Restored s (s.change i f) := by
  refine ⟨rfl, fun j => ?_, fun j c made => exists_made_change limit made⟩
  rw [stackOf, made_change, stackOf]
  split
  · cases s.made[j]? with
    | none => rfl
    | some c => exact stack c
  · rfl

/-- What a program leaves that runs with a component on a stack, when the component is taken off. -/
theorem Restored.popped {name : String} (found : s.made[i]? = some c)
    (h : Restored (s.change i (pushed name)) t) : Restored s (t.change i Rendering.popped) := by
  have changed := made_change_self (pushed name) found
  obtain ⟨c', made', limit⟩ := h.limits i _ changed
  -- The body has left the stack as it found it, so what is taken off is the name that was put on.
  have stack : c'.stack = c.stack ++ [name] := by
    rw [← stackOf_of_made made', h.stack, stackOf_of_made changed]
    rfl
  refine ⟨h.current, fun j => ?_, fun j d made => ?_⟩
  · by_cases same : j = i
    · rw [same, stackOf_change_self _ made', stackOf_of_made found, Rendering.popped, stack]
      exact List.dropLast_concat
    · rw [stackOf_change_of_ne _ same, h.stack, stackOf_change_of_ne _ same]
  · by_cases same : j = i
    · subst same
      obtain rfl : c = d := Option.some.inj (found.symm.trans made)
      exact ⟨Rendering.popped c', made_change_self _ made', limit⟩
    · obtain ⟨d', made'', limit'⟩ := h.limits j d ((made_change_of_ne _ same).trans made)
      exact ⟨d', (made_change_of_ne _ same).trans made'', limit'⟩

/-- What a program leaves that runs with a new context, when the one before is current again. -/
theorem Restored.closed {limit : DepthLimit} (h : Restored (s.opened limit) t) :
    Restored s { t with current? := s.current? } :=
  ⟨rfl, fun i => (h.stack i).trans (stackOf_opened limit),
    fun i c made => h.limits i c (made_opened limit made)⟩

end Contexts

open Contexts

theorem Program.run_component {holder : Holder} {name : String} {body : Program} {s : Contexts}
    {i : Nat} {c : RenderContext} (found : s.find? holder = some (i, c)) :
    (component holder name body).run s = match checkDepth c.limit c.stack name with
      | .error d => (.error (.diagnostic d), s)
      | .ok () =>
        let r := body.run (s.change i (pushed name))
        (r.1, r.2.change i popped) := by
  rw [run, found]

/-- However a program ends, it leaves the current context and all the stacks as it found them. -/
theorem restored_run (p : Program) : ∀ s : Contexts, Restored s (p.run s).2 := by
  induction p with
  | skip => exact .refl
  | raise e => exact .refl
  | next first second ih ih' =>
    intro s
    have front := ih s
    rw [Program.run]
    split
    · rename_i s₁ run
      rw [run] at front
      exact front.trans (ih' s₁)
    · rename_i e s₁ run
      rwa [run] at front
  | attempt body handler ih ih' =>
    intro s
    have front := ih s
    rw [Program.run]
    split
    · rename_i s₁ run
      rwa [run] at front
    · rename_i e s₁ run
      rw [run] at front
      exact front.trans (ih' e s₁)
  | look go ih => exact fun s => ih s.here? s
  | check holder name =>
    intro s
    rw [Program.run]
    split <;> exact .refl s
  | count holder =>
    intro s
    rw [Program.run]
    split
    · exact .refl s
    · exact restored_change (fun _ => rfl) fun _ => rfl
  | component holder name body ih =>
    intro s
    rw [Program.run]
    split
    · exact .refl s
    · rename_i i c found
      split
      · exact .refl s
      · exact (ih _).popped (find?_eq_some found)
  | render limit body ih => exact fun s => (ih (s.opened limit)).closed

theorem restored_of_run {p : Program} {s s₁ : Contexts} {result : Except RenderingError Unit}
    (run : p.run s = (result, s₁)) : Restored s s₁ := by
  have left := restored_run p s
  rwa [run] at left

/-! ### What lies around a moment -/

/-- A block around a moment. -/
inductive Block
  /-- The block of the context at a place. -/
  | context (i : Nat) (limit : DepthLimit)
  /-- The block of a component of the context at a place. -/
  | component (i : Nat) (name : String)

/-- The components of a context that have blocks, from the outside in. -/
def namesOf (i : Nat) : List Block → List String
  | [] => []
  | .context _ _ :: blocks => namesOf i blocks
  | .component j name :: blocks => if i = j then name :: namesOf i blocks else namesOf i blocks

/-- The context of the innermost block of a context, if there is such a block. -/
def innermost (outer : Option Nat) : List Block → Option Nat
  | [] => outer
  | .context i _ :: blocks => innermost (some i) blocks
  | .component _ _ :: blocks => innermost outer blocks

/-- A run of a program passes a moment at which these blocks lie around and the contexts are in this
state. There is a moment before each part of a program and one after it, however it ends. -/
inductive Program.Passes : Program → Contexts → List Block → Contexts → Prop
  | before (p : Program) (s : Contexts) : Passes p s [] s
  | after (p : Program) (s : Contexts) : Passes p s [] (p.run s).2
  | first {p q : Program} {s t : Contexts} {blocks : List Block} (inside : Passes p s blocks t) :
      Passes (.next p q) s blocks t
  | second {p q : Program} {s s₁ t : Contexts} {blocks : List Block}
      (run : p.run s = (.ok (), s₁)) (inside : Passes q s₁ blocks t) :
      Passes (.next p q) s blocks t
  | tried {p : Program} {handler : RenderingError → Program} {s t : Contexts}
      {blocks : List Block} (inside : Passes p s blocks t) :
      Passes (.attempt p handler) s blocks t
  | handled {p : Program} {handler : RenderingError → Program} {s s₁ t : Contexts}
      {e : RenderingError} {blocks : List Block} (run : p.run s = (.error e, s₁))
      (inside : Passes (handler e) s₁ blocks t) : Passes (.attempt p handler) s blocks t
  | looked {go : Option RenderContext → Program} {s t : Contexts} {blocks : List Block}
      (inside : Passes (go s.here?) s blocks t) : Passes (.look go) s blocks t
  | component {holder : Holder} {name : String} {p : Program} {s t : Contexts} {i : Nat}
      {c : RenderContext} {blocks : List Block} (found : s.find? holder = some (i, c))
      (allowed : checkDepth c.limit c.stack name = .ok ())
      (inside : Passes p (s.change i (pushed name)) blocks t) :
      Passes (.component holder name p) s (.component i name :: blocks) t
  | render {limit : DepthLimit} {p : Program} {s t : Contexts} {blocks : List Block}
      (inside : Passes p (s.opened limit) blocks t) :
      Passes (.render limit p) s (.context s.made.length limit :: blocks) t

namespace Contexts

variable {s s₁ t : Contexts} {i j : Nat} {c : RenderContext} {blocks : List Block}

/-- No stack is longer than the limit of its context; below zero the limit is as good as zero. -/
def WithinLimits (s : Contexts) : Prop :=
  ∀ (i : Nat) (c : RenderContext), s.made[i]? = some c → c.stack.length ≤ c.limit.value.toNat

theorem Restored.withinLimits (h : Restored s t) (within : s.WithinLimits) : t.WithinLimits := by
  intro i c made
  have stack := h.stack i
  rw [stackOf_of_made made] at stack
  cases before : s.made[i]? with
  | none =>
    rw [stack, stackOf, before]
    exact Nat.zero_le _
  | some d =>
    obtain ⟨c', made', limit⟩ := h.limits i d before
    obtain rfl : c = c' := Option.some.inj (made.symm.trans made')
    rw [stack, stackOf_of_made before, limit]
    exact within i d before

/-- What holds at a moment inside of blocks, seen from a state outside of them: the current context
is that of the innermost block, and the stacks list the components of the blocks. -/
structure Inside (blocks : List Block) (s t : Contexts) : Prop where
  current : t.current? = innermost s.current? blocks
  stack : ∀ i, t.stackOf i = s.stackOf i ++ namesOf i blocks
  limits : ∀ (i : Nat) (c : RenderContext), s.made[i]? = some c →
    ∃ c' : RenderContext, t.made[i]? = some c' ∧ c'.limit = c.limit
  blocks : ∀ i limit, .context i limit ∈ blocks →
    ∃ c : RenderContext, t.made[i]? = some c ∧ c.limit = limit
  within : s.WithinLimits → t.WithinLimits

theorem Restored.inside (h : Restored s t) : Inside [] s t where
  current := h.current
  stack i := (h.stack i).trans (List.append_nil _).symm
  limits := h.limits
  blocks _ _ mem := absurd mem List.not_mem_nil
  within := h.withinLimits

theorem Inside.of_restored (h : Restored s s₁) (inside : Inside blocks s₁ t) :
    Inside blocks s t where
  current := by rw [inside.current, h.current]
  stack i := by rw [inside.stack, h.stack]
  limits i c made := by
    obtain ⟨c', made', limit⟩ := h.limits i c made
    obtain ⟨c'', made'', limit'⟩ := inside.limits i c' made'
    exact ⟨c'', made'', limit'.trans limit⟩
  blocks := inside.blocks
  within within := inside.within (h.withinLimits within)

theorem Inside.component {name : String} (found : s.made[i]? = some c)
    (allowed : checkDepth c.limit c.stack name = .ok ())
    (inside : Inside blocks (s.change i (pushed name)) t) :
    Inside (.component i name :: blocks) s t where
  current := inside.current
  stack j := by
    rw [inside.stack, namesOf]
    by_cases same : j = i
    · rw [if_pos same, same, stackOf_change_self _ found, stackOf_of_made found]
      exact List.append_assoc _ _ _
    · rw [if_neg same, stackOf_change_of_ne _ same]
  limits j d made := by
    obtain ⟨d', made', limit⟩ := exists_made_change (f := pushed name) (fun _ => rfl) made
    obtain ⟨d'', made'', limit'⟩ := inside.limits j d' made'
    exact ⟨d'', made'', limit'.trans limit⟩
  blocks j limit mem := by
    rcases List.mem_cons.1 mem with same | mem
    · cases same
    · exact inside.blocks j limit mem
  within within := by
    refine inside.within fun j d made => ?_
    rw [made_change] at made
    split at made
    · rename_i same
      rw [same, found] at made
      obtain rfl := Option.some.inj made
      -- The check has left room for one component more.
      simpa [pushed] using Expand.length_of_checkDepth allowed
    · exact within j d made

theorem Inside.render {limit : DepthLimit} (inside : Inside blocks (s.opened limit) t) :
    Inside (.context s.made.length limit :: blocks) s t where
  current := inside.current
  stack i := by rw [inside.stack, stackOf_opened, namesOf]
  limits i c made := inside.limits i c (made_opened limit made)
  blocks i limit' mem := by
    rcases List.mem_cons.1 mem with same | mem
    · cases same
      exact inside.limits s.made.length { limit := limit } (by simp [opened])
    · exact inside.blocks i limit' mem
  within within := by
    refine inside.within fun i c made => ?_
    rcases Nat.lt_or_ge i s.made.length with old | new
    · rw [opened, List.getElem?_append_left old] at made
      exact within i c made
    · rw [opened, List.getElem?_append_right new] at made
      obtain rfl := List.mem_singleton.1 (List.mem_of_getElem? made)
      exact Nat.zero_le _

end Contexts

/-- Inside of blocks the stacks list the blocks of the components. -/
theorem inside_of_passes {p : Program} {s t : Contexts} {blocks : List Block}
    (h : p.Passes s blocks t) : Inside blocks s t := by
  induction h with
  | before p s => exact (Restored.refl s).inside
  | after p s => exact (restored_run p s).inside
  | first inside ih => exact ih
  | second run inside ih => exact .of_restored (restored_of_run run) ih
  | tried inside ih => exact ih
  | handled run inside ih => exact .of_restored (restored_of_run run) ih
  | looked inside ih => exact ih
  | component found allowed inside ih => exact ih.component (find?_eq_some found) allowed
  | render inside ih => exact ih.render

/-! ### Programs about the current context -/

namespace Program

/-- The program as a computation with a current context. -/
def rendering : Program → Rendering Unit
  | skip => return ()
  | raise e => throw e
  | next first second => do
    first.rendering
    second.rendering
  | attempt body handler => tryCatch body.rendering fun e => (handler e).rendering
  | look go => do (go (← get)).rendering
  | check _ name => Rendering.check name
  | count _ => do let _ ← nextStep
  | component _ name body => withComponent name body.rendering
  | render limit body => withContext limit body.rendering

/-- All blocks and steps of a program are about the context that is current there. -/
def OnCurrent : Program → Prop
  | skip | raise _ => True
  | next first second => first.OnCurrent ∧ second.OnCurrent
  | attempt body handler => body.OnCurrent ∧ ∀ e, (handler e).OnCurrent
  | look go => ∀ c, (go c).OnCurrent
  | check holder _ | count holder => holder = .current
  | component holder _ body => holder = .current ∧ body.OnCurrent
  | render _ body => body.OnCurrent

end Program

namespace Contexts

variable {s t : Contexts} {i j : Nat} {c : RenderContext}

/-- The current context is among those that were made. -/
def Sound (s : Contexts) : Prop :=
  ∀ i, s.current? = some i → ∃ c : RenderContext, s.made[i]? = some c

theorem current_of_find? (h : s.find? .current = some (i, c)) : s.current? = some i := by
  obtain ⟨j, current, found⟩ := Option.bind_eq_some_iff.1 h
  obtain ⟨c', -, same⟩ := Option.map_eq_some_iff.1 found
  rw [current, (Prod.mk.inj same).1]

theorem here?_eq (s : Contexts) : s.here? = (s.find? .current).map Prod.snd := by
  rw [here?, find?]
  cases s.current? with
  | none => rfl
  | some i =>
    rw [Option.bind_some, Option.bind_some, Option.map_map]
    exact Option.map_id'.symm

theorem here?_of_find?_none (h : s.find? .current = none) : s.here? = none := by
  rw [here?_eq, h]
  rfl

theorem here?_of_find? (h : s.find? .current = some (i, c)) : s.here? = some c := by
  rw [here?_eq, h]
  rfl

theorem here?_change (f : RenderContext → RenderContext) (current : s.current? = some i) :
    (s.change i f).here? = s.here?.map f := by
  have still : (s.change i f).current? = some i := current
  rw [here?, still, here?, current, Option.bind_some, made_change, if_pos rfl]
  rfl

theorem Sound.change (sound : s.Sound) (i : Nat) (f : RenderContext → RenderContext) :
    (s.change i f).Sound := by
  intro j current
  obtain ⟨c, made⟩ := sound j current
  rw [made_change, made]
  split <;> exact ⟨_, rfl⟩

theorem made_opened_length (limit : DepthLimit) :
    (s.opened limit).made[s.made.length]? = some { limit := limit } := by
  simp [opened]

theorem sound_opened (limit : DepthLimit) : (s.opened limit).Sound := by
  rintro i ⟨⟩
  exact ⟨_, made_opened_length limit⟩

theorem here?_opened (limit : DepthLimit) : (s.opened limit).here? = some { limit := limit } :=
  made_opened_length limit

/-- A context that was current and is so again, when those before are still what they were. -/
theorem here?_closed (sound : s.Sound)
    (kept : ∀ (i : Nat) (c : RenderContext), s.made[i]? = some c → t.made[i]? = some c) :
    ({ t with current? := s.current? } : Contexts).here? = s.here? := by
  unfold here?
  cases current : s.current? with
  | none => rfl
  | some i =>
    obtain ⟨c, made⟩ := sound i current
    exact (kept i c made).trans made.symm

theorem Restored.sound (h : Restored s t) (sound : s.Sound) : t.Sound := by
  intro i current
  obtain ⟨c, made⟩ := sound i (h.current ▸ current)
  obtain ⟨c', made', -⟩ := h.limits i c made
  exact ⟨c', made'⟩

end Contexts

/-- A program about the current context leaves the contexts outside of it alone. -/
theorem made_of_onCurrent (p : Program) : ∀ {s : Contexts} {i : Nat} {c : RenderContext},
    p.OnCurrent → s.current? ≠ some i → s.made[i]? = some c → (p.run s).2.made[i]? = some c := by
  induction p with
  | skip => exact fun _ _ made => made
  | raise e => exact fun _ _ made => made
  | next first second ih ih' =>
    intro s i c ⟨on, on'⟩ outside made
    have front := ih on outside made
    rw [Program.run]
    split
    · rename_i s₁ run
      rw [run] at front
      exact ih' on' ((restored_of_run run).current ▸ outside) front
    · rename_i e s₁ run
      rwa [run] at front
  | attempt body handler ih ih' =>
    intro s i c ⟨on, on'⟩ outside made
    have front := ih on outside made
    rw [Program.run]
    split
    · rename_i s₁ run
      rwa [run] at front
    · rename_i e s₁ run
      rw [run] at front
      exact ih' e (on' e) ((restored_of_run run).current ▸ outside) front
  | look go ih => exact fun on => ih _ (on _)
  | check holder name =>
    intro s i c on outside made
    rw [Program.run]
    split <;> exact made
  | count holder =>
    rintro s i c rfl outside made
    rw [Program.run]
    split
    · exact made
    · rename_i j c' found
      have other : i ≠ j := fun same => outside (same ▸ current_of_find? found)
      exact (made_change_of_ne _ other).trans made
  | component holder name body ih =>
    rintro s i c ⟨rfl, on⟩ outside made
    rw [Program.run]
    split
    · exact made
    · rename_i j c' found
      split
      · exact made
      · have other : i ≠ j := fun same => outside (same ▸ current_of_find? found)
        have inside : (body.run (s.change j (pushed name))).2.made[i]? = some c :=
          ih on outside ((made_change_of_ne _ other).trans made)
        exact (made_change_of_ne _ other).trans inside
  | render limit body ih =>
    intro s i c on outside made
    have old : s.made.length ≠ i := Nat.ne_of_gt (List.getElem?_eq_some_iff.1 made).1
    exact ih on (fun same => old (Option.some.inj same)) (made_opened limit made)

theorem run_check (name : String) (c : RenderContext) :
    @Eq (Except RenderingError Unit × Option RenderContext) (check name (some c))
      ((checkDepth c.limit c.stack name).mapError RenderingError.diagnostic, some c) := by
  have here : Expand.Ends context (some c) c (some c) := rfl
  refine (Expand.run_bind_of_ends here _).trans ?_
  cases checkDepth c.limit c.stack name <;> rfl

theorem leaveComponent_eq (current : Option RenderContext) :
    leaveComponent current = current.map popped := by
  cases current <;> rfl

theorem run_withComponent (name : String) (x : Rendering Unit) (c : RenderContext) :
    @Eq (Except RenderingError Unit × Option RenderContext) (withComponent name x (some c))
      (match checkDepth c.limit c.stack name with
      | .error d => (.error (.diagnostic d), some c)
      | .ok () =>
        let r : Except RenderingError Unit × Option RenderContext := x (some (pushed name c))
        (r.1, r.2.map popped)) := by
  rw [withComponent, run_check]
  rcases checkDepth c.limit c.stack name with d | u
  · rfl
  · change @Eq (Except RenderingError Unit × Option RenderContext) (_, leaveComponent _) _
    rw [leaveComponent_eq]
    rfl

/-- A program about the current context comes to the same as a computation with it. -/
theorem rendering_eq (p : Program) : ∀ {s : Contexts}, p.OnCurrent → s.Sound →
    @Eq (Except RenderingError Unit × Option RenderContext) (p.rendering s.here?)
      ((p.run s).1, (p.run s).2.here?) := by
  induction p with
  | skip => exact fun _ _ => rfl
  | raise e => exact fun _ _ => rfl
  | next first second ih ih' =>
    intro s ⟨on, on'⟩ sound
    refine (Expand.run_bind first.rendering (fun _ => second.rendering) s.here?).trans ?_
    rw [ih on sound, Program.run]
    rcases run : first.run s with ⟨e | u, s₁⟩
    · rfl
    · exact ih' on' ((restored_of_run run).sound sound)
  | attempt body handler ih ih' =>
    intro s ⟨on, on'⟩ sound
    refine (Expand.run_tryCatch body.rendering (fun e => (handler e).rendering) s.here?).trans ?_
    rw [ih on sound, Program.run]
    rcases run : body.run s with ⟨e | u, s₁⟩
    · exact ih' e (on' e) ((restored_of_run run).sound sound)
    · rfl
  | look go ih => exact fun on sound => ih _ (on _) sound
  | check holder name =>
    rintro s rfl sound
    rw [Program.run]
    cases found : s.find? .current with
    | none =>
      rw [here?_of_find?_none found]
      rfl
    | some place =>
      rw [here?_of_find? found]
      exact run_check name place.2
  | count holder =>
    rintro s rfl sound
    rw [Program.run]
    cases found : s.find? .current with
    | none =>
      rw [here?_of_find?_none found]
      rfl
    | some place =>
      rw [here?_change stepped (current_of_find? found), here?_of_find? found]
      rfl
  | component holder name body ih =>
    rintro s ⟨rfl, on⟩ sound
    cases found : s.find? .current with
    | none =>
      rw [Program.run, found, here?_of_find?_none found]
      rfl
    | some place =>
      obtain ⟨i, c⟩ := place
      have current := current_of_find? found
      have here := here?_of_find? found
      rw [Program.run_component found, here]
      refine (run_withComponent name body.rendering c).trans ?_
      cases checkDepth c.limit c.stack name with
      | error d => rw [here]
      | ok u =>
        have inner := ih on (sound.change i (pushed name))
        have around := (restored_run body (s.change i (pushed name))).current
        rw [here?_change _ current, here] at inner
        rw [here?_change popped (around.trans current)]
        exact congrArg (fun r : Except RenderingError Unit × Option RenderContext =>
          (r.1, r.2.map popped)) inner
  | render limit body ih =>
    intro s on sound
    -- The computation forgets the new context. Here it stays in the row, but is current no more.
    have inner := ih on (s.sound_opened limit)
    rw [here?_opened] at inner
    have kept : ∀ (i : Nat) (c : RenderContext), s.made[i]? = some c →
        (body.run (s.opened limit)).2.made[i]? = some c := by
      intro i c made
      have old : s.made.length ≠ i := Nat.ne_of_gt (List.getElem?_eq_some_iff.1 made).1
      exact made_of_onCurrent body on (fun same => old (Option.some.inj same))
        (made_opened limit made)
    have after := here?_closed sound kept
    change @Eq (Except RenderingError Unit × Option RenderContext)
      ((body.rendering (some { limit := limit })).1, s.here?) _
    rw [inner, ← after]
    rfl

/-! ### Brackets -/

/-- However a program ends, the current context and all the stacks are what they were before. Inside
of blocks the current context is the one that the innermost block of a context made, with the limit
of that block, and each stack lists the components of its context whose blocks lie around, from the
outside in, and is no longer than its limit, or empty where the limit is below zero. A component that
would nest too deeply is refused, and nothing changes. What is about the current context alone comes
to the same as a computation with it. -/
theorem contexts_bracketed (p : Program) :
    (∀ s, (p.run s).2.current? = s.current? ∧ ∀ i, (p.run s).2.stackOf i = s.stackOf i) ∧
    (∀ blocks t, p.Passes {} blocks t →
      t.current? = innermost none blocks ∧
      (∀ i limit, .context i limit ∈ blocks →
        ∃ c : RenderContext, t.made[i]? = some c ∧ c.limit = limit) ∧
      ∀ (i : Nat) (c : RenderContext), t.made[i]? = some c →
        c.stack = namesOf i blocks ∧ c.stack.length ≤ c.limit.value.toNat) ∧
    (∀ holder name s i c, s.find? holder = some (i, c) → c.limit.value ≤ c.stack.length →
      (Program.component holder name p).run s =
        (.error (.diagnostic (depthProblem c.limit c.stack name)), s)) ∧
    ∀ s : Contexts, p.OnCurrent → s.Sound →
      @Eq (Except RenderingError Unit × Option RenderContext) (p.rendering s.here?)
        ((p.run s).1, (p.run s).2.here?) := by
  refine ⟨fun s => ⟨(restored_run p s).current, (restored_run p s).stack⟩, ?_, ?_,
    fun s on sound => rendering_eq p on sound⟩
  · intro blocks t passes
    have inside := inside_of_passes passes
    have start : WithinLimits {} := fun i c made => by cases made
    refine ⟨inside.current, inside.blocks, fun i c made => ⟨?_, inside.within start i c made⟩⟩
    rw [← stackOf_of_made made, inside.stack]
    rfl
  · intro holder name s i c found full
    rw [Program.run_component found, checkDepth, if_pos full]

/-- A card in a context of its own puts a second component on the stack of the page around it. -/
def pageWithCard : Program :=
  .render (.count 2) (.component .current "page" (.attempt
    (.render (.flag true) (.component .current "card"
      (.component (.made 0) "nav" (.component .current "icon" .skip))))
    fun _ => .skip))

/-- The blocks around the icon that `pageWithCard` tries to put into the card. -/
def aroundIcon : List Block :=
  [.context 0 (.count 2), .component 0 "page", .context 1 (.flag true), .component 1 "card",
    .component 0 "nav"]

/-- The contexts when `pageWithCard` comes to the icon. -/
def atIcon : Contexts where
  made := [{ stack := ["page", "nav"], limit := .count 2 },
    { stack := ["card"], limit := .flag true }]
  current? := some 1

theorem contexts_bracketed_pageWithCard :
    (pageWithCard.Passes {} aroundIcon atIcon ∧ atIcon.current? = innermost none aroundIcon ∧
      ∀ (i : Nat) (c : RenderContext), atIcon.made[i]? = some c →
        c.stack = namesOf i aroundIcon ∧ c.stack.length ≤ c.limit.value.toNat) ∧
    (Program.component .current "icon" .skip).run atIcon =
      (.error (.diagnostic (depthProblem (.flag true) ["card"] "icon")), atIcon) ∧
    @Eq (Except RenderingError Unit × Option RenderContext)
      ((Program.render (.count 0) (.check .current "page")).rendering none)
      (.error (.diagnostic (depthProblem (.count 0) [] "page")), none) := by
  have passes : pageWithCard.Passes {} aroundIcon atIcon :=
    .render (.component rfl rfl (.tried (.render (.component rfl rfl
      (.component rfl rfl (.before _ _))))))
  obtain ⟨current, -, stack⟩ := (contexts_bracketed pageWithCard).2.1 aroundIcon atIcon passes
  have refused := (contexts_bracketed .skip).2.2.1 .current "icon" atIcon 1 _ rfl (by decide)
  have agrees := (contexts_bracketed (.render (.count 0) (.check .current "page"))).2.2.2 {} rfl
    (fun i current => by cases current)
  exact ⟨⟨passes, current, stack⟩, refused, agrees⟩

/-- The empty stack is longer than a limit below zero. -/
theorem empty_over_limit : ¬ ∀ (p : Program) (blocks : List Block) (t : Contexts) (i : Nat)
    (c : RenderContext), p.Passes {} blocks t → t.made[i]? = some c →
      (c.stack.length : Int) ≤ c.limit.value := by
  intro within
  have below := within (.render (.count (-1)) .skip) _ _ 0 { limit := .count (-1) }
    (.render (.before .skip _)) rfl
  revert below
  decide

end HtmlTemplate.Rendering
