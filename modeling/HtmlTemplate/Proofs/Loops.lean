import HtmlTemplate.Proofs.LinkedLoops
import HtmlTemplate.Proofs.Sessions
import HtmlTemplate.Proofs.Steady
import HtmlTemplate.Proofs.Unnoted

/-!
# Loops

A loop expands its body once for each member of a sequence. With an evaluator that depends on
nothing but what it is asked, every round comes to what the body comes to alone
(`Round.Alone.anywhere`), so that the rounds that end lead to those after them
(`exists_leads_expandRounds`) and the first body that does not end stops the loop. Among siblings
the loop gives way to what its rounds come to, and the siblings after it are next; in a tree of
linked nodes that is so for every rewriting that does in place what the expansion of the body does
(`expandLevels_loop`).
-/

namespace HtmlTemplate.Expand

open HtmlTemplate.Markup HtmlTemplate.Text HtmlTemplate.Component Expansion

variable {V W : Type} {calls : W → List String}

/-! ### Sequences -/

/-- In a state a value is the sequence of some members, which are read off it without evaluating
anything. -/
structure Evaluator.Lists (ev : Evaluator V W) (calls : W → List String) (items : V)
    (members : List V) (w : W) : Prop where
  length : ev.length? items w = some members.length
  member : ∀ i ≤ members.length, ∃ w', Ends (ev.member? items i) w members[i]? w' ∧
    calls w' = calls w

/-- What is a sequence in one state of a pure evaluator is the same sequence in every state. -/
theorem Evaluator.Lists.anywhere {ev : Evaluator V W} (hev : ev.Pure calls) {items : V}
    {members : List V} {w : W} (h : ev.Lists calls items members w) (w' : W) :
    ev.Lists calls items members w' := by
  constructor
  · rw [hev.length items w' w]
    exact h.length
  · intro i inside
    obtain ⟨t, run, silent⟩ := h.member i inside
    obtain ⟨t', told, run', ⟨-, adds⟩, -, adds'⟩ := hev.member items i w w' _ t rfl run
    have nothing : told = [] := by
      have same : calls w ++ told = calls w ++ [] := by rw [← adds, silent, List.append_nil]
      exact List.append_cancel_left same
    refine ⟨t', run', ?_⟩
    rw [adds', nothing, List.append_nil]

/-! ### Bodies -/

/-- A round of a loop: the member of the sequence, what the body comes to for it, and the
expressions that the evaluator is handed on the way. -/
structure Round (V : Type) where
  member : V
  nodes : List Node
  told : List String

/-- A round is what the body comes to alone, in any state whose registry supplies the given
sources. -/
def Round.Alone (r : Round V) (body : V → Expansion W (List Node)) (calls : W → List String)
    (supplies : String → Except LoadError String) : Prop :=
  ∃ u t, u.registry.supplies = supplies ∧ Ends (body r.member) u r.nodes t ∧
    calls t.world = calls u.world ++ r.told

section Anywhere

variable {supplies : String → Except LoadError String} {x : Expansion W (List Node)}
  {u u' t : State W}

/-- What repeats keeps what the registry supplies. -/
theorem supplies_of_ends {α : Type} {y : Expansion W α} {a : α}
    (repeats : Repeats (State.Supplied supplies) y) (hu : u.registry.supplies = supplies)
    (run : Ends y u a t) : t.registry.supplies = supplies := by
  have kept : (y u).2.registry.supplies = supplies := (repeats u u ⟨hu, hu⟩).2.1
  rwa [run] at kept

/-- Where an expansion that repeats fails, it fails everywhere with the same fault. -/
theorem Expansion.Repeats.fails_anywhere (repeats : Repeats (State.Supplied supplies) x)
    (hu : u.registry.supplies = supplies) (hu' : u'.registry.supplies = supplies) {stop : Stop}
    (run : Fails x u stop t) : ∃ stop' t', Fails x u' stop' t' ∧ stop'.fault = stop.fault := by
  have same := (repeats u u' ⟨hu, hu'⟩).1
  rw [run] at same
  cases run' : (x u' : Except Stop (List Node) × State W) with
  | mk result t' =>
    rw [run'] at same
    cases result with
    | ok nodes => cases same
    | error stop' => exact ⟨stop', t', run', (Except.error.inj same).symm⟩

/-- What a body comes to alone it comes to everywhere. -/
theorem Round.Alone.anywhere {r : Round V} {body : V → Expansion W (List Node)}
    (h : r.Alone body calls supplies) (stable : Stable calls (body r.member))
    (repeats : Repeats (State.Supplied supplies) (body r.member))
    (hu : u.registry.supplies = supplies) :
    ∃ t, Ends (body r.member) u r.nodes t ∧ calls t.world = calls u.world ++ r.told ∧
      t.registry.supplies = supplies := by
  obtain ⟨v, tv, hv, run, log⟩ := h
  have view : answers v = answers u := answer?_of_supplies (hv.trans hu.symm)
  obtain ⟨t, told, run', ⟨-, adds⟩, -, adds'⟩ := stable v u _ tv view run
  have same : told = r.told := List.append_cancel_left (adds.symm.trans log)
  exact ⟨t, run', same ▸ adds', supplies_of_ends repeats hu run'⟩

end Anywhere

/-! ### Rounds -/

/-- An expansion comes to some nodes and then does what another one does. -/
structure Leads (x : Expansion W (List Node)) (s : State W) (front : List Node)
    (y : Expansion W (List Node)) (u : State W) : Prop where
  ends : ∀ more t, Ends y u more t → Ends x s (front ++ more) t
  fails : ∀ stop t, Fails y u stop t → Fails x s stop t

theorem Leads.refl (x : Expansion W (List Node)) (s : State W) : Leads x s [] x s :=
  ⟨fun _ _ run => run, fun _ _ run => run⟩

theorem Leads.trans {x y z : Expansion W (List Node)} {s u v : State W} {front more : List Node}
    (h : Leads x s front y u) (h' : Leads y u more z v) : Leads x s (front ++ more) z v := by
  refine ⟨fun rest t run => ?_, fun stop t run => h.fails stop t (h'.fails stop t run)⟩
  rw [List.append_assoc]
  exact h.ends _ t (h'.ends rest t run)

section Rounds

variable {setting : Setting V W} {place : Place V} {tag : String} {attrs : Attrs}
  {children : List Node} {items : V} {name : String} {inside : Place V → Expansion W (List Node)}
  {members : List V} {fuel i : Nat} {u w : State W} {v : V}
  {supplies : String → Except LoadError String}

/-- A copy of the body of a loop, if there can be one, is expanded in a scope that binds a member
alone. -/
def expandBody (place : Place V) (children : List Node) (name : String)
    (inside : Place V → Expansion W (List Node)) (v : V) : Expansion W (List Node) :=
  if children.all Store.isCopyable then inside (place.inner [(name, v)])
  else stop place [] .uncopyable

theorem stable_expandBody (stable : ∀ place, Stable calls (inside place)) (v : V) :
    Stable calls (expandBody place children name inside v) := by
  unfold expandBody
  split
  · exact stable _
  · exact stable_stop _ _ _

theorem repeats_expandBody {agree : State W → State W → Prop}
    (repeats : ∀ place, Repeats agree (inside place)) (v : V) :
    Repeats agree (expandBody place children name inside v) := by
  unfold expandBody
  split
  · exact repeats _
  · exact repeats_stop _ _ _

theorem expandBody_of_copyable (copyable : children.all Store.isCopyable = true) :
    expandBody place children name inside v = inside (place.inner [(name, v)]) :=
  if_pos copyable

theorem expandBody_of_uncopyable (uncopyable : children.all Store.isCopyable = false) :
    expandBody place children name inside v = stop place [] .uncopyable :=
  if_neg (Bool.eq_false_iff.1 uncopyable)

/-- Nothing comes of a body that cannot be copied. -/
theorem copyable_of_ends_expandBody {nodes : List Node} {t : State W}
    (run : Ends (expandBody place children name inside v) u nodes t) :
    children.all Store.isCopyable = true := by
  by_contra uncopyable
  rw [expandBody_of_uncopyable (Bool.eq_false_iff.2 uncopyable)] at run
  exact not_ends_stop run

/-- What a copy of the body comes to alone is what the body comes to. -/
theorem Round.Alone.of_expandBody {r : Round V}
    (h : r.Alone (expandBody place children name inside) calls supplies) :
    children.all Store.isCopyable = true ∧
      r.Alone (fun v => inside (place.inner [(name, v)])) calls supplies := by
  obtain ⟨u, t, hu, run, log⟩ := h
  have copyable := copyable_of_ends_expandBody run
  rw [expandBody_of_copyable copyable] at run
  exact ⟨copyable, u, t, hu, run, log⟩

variable (place tag attrs children name inside fuel) in
/-- The next member is read before its round. -/
theorem expandRounds_of_member {v? : Option V} {w : W}
    (read : Ends (setting.evaluator.member? items i) u.world v? w) :
    @Eq (Except Stop (List Node) × State W)
      (expandRounds setting place (.element tag attrs children) items name inside (fuel + 1) i u)
      ((match v? with
        | none => (return [] : Expansion W (List Node))
        | some v => do
            let body ← apart (fun _ => [.element tag attrs children])
              (expandBody place children name inside v)
            let more ← expandRounds setting place (.element tag attrs children) items name inside
              fuel (i + 1)
            return body ++ more) { u with world := w }) := by
  rw [expandRounds]
  refine (run_bind_of_ends (ends_compute_iff.2 ⟨w, read, rfl⟩) _).trans ?_
  cases v? with
  | none => rfl
  | some v =>
    unfold expandBody
    have body : (Node.element tag attrs children).children = children := rfl
    simp only [body]
    split <;> rfl

variable (place tag attrs children name inside fuel) in
/-- After the last member there is nothing more. -/
theorem ends_expandRounds_of_length
    (lists : setting.evaluator.Lists calls items members u.world) :
    ∃ t, Ends (expandRounds setting place (.element tag attrs children) items name inside
        (fuel + 1) members.length) u [] t ∧ calls t.world = calls u.world ∧
      t.registry = u.registry := by
  obtain ⟨w, read, silent⟩ := lists.member members.length (Nat.le_refl _)
  rw [List.getElem?_eq_none (Nat.le_refl _)] at read
  have start := expandRounds_of_member place tag attrs children name inside fuel read
  exact ⟨{ u with world := w }, start, silent, rfl⟩

variable (tag attrs fuel) in
/-- A round whose body ends leads to the next one. -/
theorem exists_leads_expandRounds_one (lists : setting.evaluator.Lists calls items members u.world)
    {r : Round V} (here : members[i]? = some r.member)
    (alone : r.Alone (expandBody place children name inside) calls supplies)
    (stable : ∀ place, Stable calls (inside place))
    (repeats : ∀ place, Repeats (State.Supplied supplies) (inside place))
    (hu : u.registry.supplies = supplies) :
    ∃ u', Leads (expandRounds setting place (.element tag attrs children) items name inside
          (fuel + 1) i) u r.nodes
        (expandRounds setting place (.element tag attrs children) items name inside fuel (i + 1))
        u' ∧
      calls u'.world = calls u.world ++ r.told ∧ u'.registry.supplies = supplies := by
  obtain ⟨w, read, silent⟩ := lists.member i (Nat.le_of_lt (List.getElem?_eq_some_iff.1 here).1)
  rw [here] at read
  obtain ⟨t, run, log, kept⟩ := alone.anywhere (stable_expandBody stable _)
    (repeats_expandBody repeats _) (u := { u with world := w, notes := [] }) hu
  let u₁ : State W := { t with notes := t.notes.map Note.complete ++ u.notes }
  have round : Ends (apart (fun _ => [.element tag attrs children])
      (expandBody place children name inside r.member)) { u with world := w } r.nodes u₁ :=
    ends_apart_iff.2 (ends_whole_iff.2 ⟨t, run, rfl⟩)
  have start := expandRounds_of_member place tag attrs children name inside fuel read
  refine ⟨u₁, ⟨fun more t' later => ?_, fun stop t' later => ?_⟩, ?_, kept⟩
  · apply start.trans
    exact ends_bind_iff.2 ⟨_, _, round, ends_bind_iff.2 ⟨more, t', later,
      ends_pure_iff.2 ⟨rfl, rfl⟩⟩⟩
  · apply start.trans
    exact fails_bind_iff.2 (.inr ⟨_, _, round, fails_bind_iff.2 (.inl later)⟩)
  · rw [← silent]
    exact log

variable (tag attrs fuel) in
/-- A body that fails stops the loop, which is left as it is. -/
theorem fails_expandRounds_of_body (lists : setting.evaluator.Lists calls items members u.world)
    (here : members[i]? = some v)
    (repeats : ∀ place, Repeats (State.Supplied supplies) (inside place))
    (hu : u.registry.supplies = supplies) {u₀ t₀ : State W} {stop : Stop}
    (hu₀ : u₀.registry.supplies = supplies)
    (run : Fails (expandBody place children name inside v) u₀ stop t₀) :
    ∃ stop' t, Fails (expandRounds setting place (.element tag attrs children) items name inside
        (fuel + 1) i) u stop' t ∧
      stop'.fault = stop.fault ∧ stop'.left = [.element tag attrs children] := by
  obtain ⟨w, read, -⟩ := lists.member i (Nat.le_of_lt (List.getElem?_eq_some_iff.1 here).1)
  rw [here] at read
  let u₁ : State W := { u with world := w, notes := [] }
  have hu₁ : u₁.registry.supplies = supplies := hu
  obtain ⟨inner, t, run', same⟩ := (repeats_expandBody repeats v).fails_anywhere hu₀ hu₁ run
  have round : Fails (apart (fun _ => [.element tag attrs children])
      (expandBody place children name inside v)) { u with world := w }
      { inner with left := [.element tag attrs children] } _ :=
    fails_apart_iff.2 ⟨inner, fails_whole_iff.2 ⟨t, run', rfl⟩, rfl⟩
  have start := expandRounds_of_member place tag attrs children name inside fuel read
  exact ⟨_, _, start.trans (fails_bind_iff.2 (.inl round)), same, rfl⟩

variable (tag attrs fuel) in
/-- Rounds whose bodies end lead, one after another, to the rounds after them. -/
theorem exists_leads_expandRounds (hev : setting.evaluator.Pure calls)
    (stable : ∀ place, Stable calls (inside place))
    (repeats : ∀ place, Repeats (State.Supplied supplies) (inside place))
    {rounds : List (Round V)} (lists : setting.evaluator.Lists calls items members u.world)
    (here : rounds.map Round.member <+: members.drop i)
    (alone : ∀ r ∈ rounds, r.Alone (expandBody place children name inside) calls supplies)
    (hu : u.registry.supplies = supplies) :
    ∃ u', Leads (expandRounds setting place (.element tag attrs children) items name inside
          (fuel + rounds.length) i) u (rounds.flatMap Round.nodes)
        (expandRounds setting place (.element tag attrs children) items name inside fuel
          (i + rounds.length)) u' ∧
      calls u'.world = calls u.world ++ rounds.flatMap Round.told ∧
        u'.registry.supplies = supplies := by
  induction rounds generalizing i u with
  | nil => exact ⟨u, .refl _ u, (List.append_nil _).symm, hu⟩
  | cons r rounds ih =>
    obtain ⟨rest, hrest⟩ := here
    have first : members[i]? = some r.member := by
      rw [← List.head?_drop, ← hrest]
      rfl
    have later : rounds.map Round.member <+: members.drop (i + 1) := by
      refine ⟨rest, ?_⟩
      rw [← List.tail_drop, ← hrest]
      rfl
    obtain ⟨u₁, leads, log, kept⟩ := exists_leads_expandRounds_one tag attrs (fuel + rounds.length)
      lists first (alone r List.mem_cons_self) stable repeats hu
    obtain ⟨u₂, leads', log', kept'⟩ := ih (lists.anywhere hev u₁.world) later
      (fun r' hr' => alone r' (List.mem_cons_of_mem r hr')) kept
    have count : i + (rounds.length + 1) = i + 1 + rounds.length := by omega
    refine ⟨u₂, ?_, ?_, kept'⟩
    · rw [List.length_cons, count, ← Nat.add_assoc, List.flatMap_cons]
      exact leads.trans leads'
    · rw [log', log, List.flatMap_cons, List.append_assoc]

end Rounds

/-! ### Loops -/

section Loop

variable {setting : Setting V W} {place : Place V} {tag : String} {attrs : Attrs}
  {children : List Node} {name source : String} {items : V} {length : Nat} {s : State W} {w : W}

/-- A loop whose sequence is there goes through its rounds. -/
theorem expandLoop_of_sequence (inside : Place V → Expansion W (List Node))
    (hitem : attrs.get? "item" = some name) (hin : attrs.get? "in" = some source)
    (valid : isIdentifier name = true) (free : name ∉ Script.reservedWords)
    (run : Ends (setting.evaluator.evaluate source place.scope) s.world items w)
    (sequence : setting.evaluator.length? items w = some length) :
    @Eq (Except Stop (List Node) × State W)
      (expandLoop setting place tag attrs children inside s)
      (expandRounds setting place (.element tag attrs children) items name inside
        (length + growthLimit + 1) 0 { s with world := w }) := by
  have word : (!isIdentifier name || Script.reservedWords.contains name) = false := by
    simp [valid, free]
  unfold expandLoop
  simp only [hitem, hin, word]
  refine (run_bind_of_ends (ends_compute_iff.2 ⟨w, run, rfl⟩) _).trans ?_
  refine (run_bind_of_ends (ends_observe_iff.2 ⟨sequence, rfl⟩) _).trans ?_
  rfl

/-- A loop among siblings is one item of their row. -/
theorem rowOf_loop (row : Place V → List (Expandable V W) → Expansion W (List Node))
    (pre post : List Node) :
    rowOf (expandables row (pre ++ .element "for" attrs children :: post)) =
      rowOf (expandables row pre) ++
        .single (expandable row (.element "for" attrs children)) ::
          rowOf (expandables row post) := by
  have apart : BeginsApart (.element "for" attrs children :: post) := by
    intro n hn
    obtain rfl := Option.some.inj hn
    rfl
  rw [expandables_append, rowOf_append _ _ (by rwa [nodes_expandables]), expandables, rowOf,
    node_expandable]
  rfl

variable (setting) (levels : Nat) (place) (attrs) (children) in
/-- A loop has its attributes evaluated first; what is inside it is expanded as a forest. -/
theorem expandItem_loop : expandItem setting (expandLevels setting levels) place
    (.single (expandable (expandRow setting (expandLevels setting levels))
      (.element "for" attrs children))) = (do
        let attrs' ← evaluateAttrs setting (place.inner [])
          (fun attrs => [.element "for" attrs children]) attrs.names attrs
        expandLoop setting (place.inner []) "for" attrs' children fun place =>
          expandLevels setting (levels + 1) place children) := rfl

end Loop

/-! ### Loops among siblings -/

section Siblings

variable {setting : Setting V W} {levels : Nat} {place : Place V}
  {pre post placed children : List Node} {attrs attrs' : Attrs} {name source : String} {items : V}
  {members : List V} {s s₁ s₂ : State W} {w : W}

/-- The rounds of a loop, from the state in which its sequence is there. -/
abbrev roundsFrom (setting : Setting V W) (levels : Nat) (place : Place V) (attrs : Attrs)
    (children : List Node) (items : V) (name : String) (fuel i : Nat) :
    Expansion W (List Node) :=
  expandRounds setting (place.inner []) (.element "for" attrs children) items name
    (fun place => expandLevels setting (levels + 1) place children) fuel i

variable (hpre : Ends (expandLevels setting (levels + 1) place pre) s placed s₁)
  (hattrs : Ends (evaluateAttrs setting (place.inner [])
    (fun attrs => [.element "for" attrs children]) attrs.names attrs) s₁ attrs' s₂)
  (hitem : attrs'.get? "item" = some name) (hin : attrs'.get? "in" = some source)
  (valid : isIdentifier name = true) (free : name ∉ Script.reservedWords)
  (run : Ends (setting.evaluator.evaluate source (place.inner []).scope) s₂.world items w)
  (lists : setting.evaluator.Lists calls items members w)
include hpre hattrs hitem hin valid free run lists

/-- What the rounds come to stands in the place of the loop, and the siblings after it are next. -/
theorem goesOn_of_ends_rounds {nodes : List Node} {u : State W}
    (rounds : Ends (roundsFrom setting levels place attrs' children items name
      (members.length + growthLimit + 1) 0) { s₂ with world := w } nodes u) :
    GoesOn (expandLevels setting (levels + 1) place (pre ++ .element "for" attrs children :: post))
      s (placed ++ nodes) (expandLevels setting (levels + 1) place post) u := by
  refine goesOn_of_ends_item (rowOf_loop _ pre post) hpre ?_
  rw [expandItem_loop]
  refine ends_bind_iff.2 ⟨attrs', s₂, hattrs, ?_⟩
  exact (expandLoop_of_sequence _ hitem hin valid free run lists.length).trans rounds

variable (post) in
/-- Where the rounds stop, the siblings stop. -/
theorem fails_of_fails_rounds {stop : Stop} {u : State W}
    (rounds : Fails (roundsFrom setting levels place attrs' children items name
      (members.length + growthLimit + 1) 0) { s₂ with world := w } stop u) :
    ∃ t, Fails (expandLevels setting (levels + 1) place
        (pre ++ .element "for" attrs children :: post)) s
      { stop with left := placed ++ (stop.left ++ post) } t := by
  have item : Fails (expandItem setting (expandLevels setting levels) place
      (.single (expandable (expandRow setting (expandLevels setting levels))
        (.element "for" attrs children)))) s₁ stop u := by
    rw [expandItem_loop]
    refine fails_bind_iff.2 (.inr ⟨attrs', s₂, hattrs, ?_⟩)
    exact (expandLoop_of_sequence _ hitem hin valid free run lists.length).trans rounds
  obtain ⟨t, fails, -⟩ := fails_of_fails_item (rowOf_loop _ pre post) hpre item
  exact ⟨t, fails⟩

omit hitem hin valid free run lists in
/-- The registry supplies the same when the attributes of the loop have been evaluated. -/
theorem supplies_at_loop (again : setting.evaluator.Repeatable) :
    s₂.registry.supplies = s.registry.supplies := by
  have by_registry := byRegistry_supplied (W := W) s.registry.supplies
  have before := repeats_expandLevels again by_registry (levels + 1) place pre
  have attributes := (repeats_compositional again by_registry).evaluateAttrs (place.inner [])
    (fun attrs => [.element "for" attrs children]) attrs.names attrs
  exact supplies_of_ends attributes (supplies_of_ends before rfl hpre) hattrs

/-- The body of a loop, for a member. -/
abbrev bodyAlone (setting : Setting V W) (levels : Nat) (place : Place V) (children : List Node)
    (name : String) : V → Expansion W (List Node) :=
  expandBody (place.inner []) children name fun place =>
    expandLevels setting (levels + 1) place children

variable (hev : setting.evaluator.Pure calls) (again : setting.evaluator.Repeatable)
  (records : setting.evaluator.Records calls)
  {rounds : List (Round V)} (among : rounds.map Round.member <+: members)
  (alone : ∀ r ∈ rounds,
    r.Alone (bodyAlone setting levels place children name) calls s.registry.supplies)
include hev again records among alone

omit hitem hin valid free in
/-- Rounds whose bodies end lead from the state in which the sequence is there to the rounds after
them. -/
theorem exists_leads_roundsFrom (fuel : Nat) :
    ∃ u, Leads (roundsFrom setting levels place attrs' children items name
          (fuel + rounds.length) 0) { s₂ with world := w } (rounds.flatMap Round.nodes)
        (roundsFrom setting levels place attrs' children items name fuel rounds.length) u ∧
      calls u.world = calls s₂.world ++ source :: rounds.flatMap Round.told ∧
        u.registry.supplies = s.registry.supplies := by
  have by_registry := byRegistry_supplied (W := W) s.registry.supplies
  have start := supplies_at_loop hpre hattrs again
  have asked := records _ _ _ _ _ run
  obtain ⟨u, leads, log, kept⟩ := exists_leads_expandRounds "for" attrs' fuel hev
    (fun place => stable_expandLevels hev _ place _)
    (fun place => repeats_expandLevels again by_registry _ place _) (i := 0)
    (u := { s₂ with world := w }) lists among alone start
  refine ⟨u, ?_, ?_, kept⟩
  · rw [Nat.zero_add] at leads
    exact leads
  · rw [log, asked, List.append_assoc]
    rfl

/-- When the bodies of all members end, the loop gives way to what they come to. -/
theorem goesOn_loop (hmembers : rounds.map Round.member = members) :
    ∃ u, GoesOn (expandLevels setting (levels + 1) place
          (pre ++ .element "for" attrs children :: post)) s
        (placed ++ rounds.flatMap Round.nodes) (expandLevels setting (levels + 1) place post) u ∧
      calls u.world = calls s₂.world ++ source :: rounds.flatMap Round.told ∧
        u.registry.supplies = s.registry.supplies := by
  obtain ⟨u, leads, log, kept⟩ := exists_leads_roundsFrom hpre hattrs run lists hev again records
    among alone (growthLimit + 1)
  obtain ⟨t, last, silent, registry⟩ := ends_expandRounds_of_length (place.inner []) "for" attrs'
    children name (fun place => expandLevels setting (levels + 1) place children) growthLimit
    (lists.anywhere hev u.world)
  have count : members.length = rounds.length := by rw [← hmembers, List.length_map]
  have fuel : growthLimit + 1 + rounds.length = members.length + growthLimit + 1 := by omega
  rw [count] at last
  have whole := leads.ends [] t last
  rw [fuel, List.append_nil] at whole
  refine ⟨t, goesOn_of_ends_rounds hpre hattrs hitem hin valid free run lists whole, ?_, ?_⟩
  · rw [silent, log]
  · rw [registry, kept]

/-- When the body of a member fails after those of all members before it have ended, the siblings
stop with that fault, and the loop is left. -/
theorem fails_loop {v : V} {later : List V}
    (hmembers : members = rounds.map Round.member ++ v :: later) {u t : State W} {stop : Stop}
    (hu : u.registry.supplies = s.registry.supplies)
    (fails : Fails (bodyAlone setting levels place children name v) u stop t) :
    ∃ stop' t', Fails (expandLevels setting (levels + 1) place
        (pre ++ .element "for" attrs children :: post)) s stop' t' ∧
      stop'.fault = stop.fault ∧ stop'.left = placed ++ .element "for" attrs' children :: post := by
  have by_registry := byRegistry_supplied (W := W) s.registry.supplies
  obtain ⟨u₁, leads, -, kept⟩ := exists_leads_roundsFrom hpre hattrs run lists hev again records
    among alone (later.length + growthLimit + 2)
  have here : members[rounds.length]? = some v := by simp [hmembers]
  obtain ⟨inner, t', round, same, left⟩ := fails_expandRounds_of_body "for" attrs'
    (later.length + growthLimit + 1) (lists.anywhere hev u₁.world) here
    (fun place => repeats_expandLevels again by_registry _ place _) kept hu fails
  have fuel : later.length + growthLimit + 2 + rounds.length =
      members.length + growthLimit + 1 := by
    rw [hmembers, List.length_append, List.length_map, List.length_cons]
    omega
  have whole := leads.fails _ _ round
  rw [fuel] at whole
  obtain ⟨t'', together⟩ :=
    fails_of_fails_rounds post hpre hattrs hitem hin valid free run lists whole
  exact ⟨_, t'', together, same, by simp [left]⟩

end Siblings

/-! ### Loops in place -/

/-- A loop stands among the children of a node in a tree of linked nodes. -/
structure LinkedLoop (s : Store) (q : Nat) (loop : Node) : Prop where
  wellLinked : s.WellLinked
  bare : s.LeavesBare
  link : ∃ p, s.parent? q = some p
  tree : s.tree? q = some loop

theorem LinkedLoop.shows {s : Store} {q : Nat} {tag : String} {attrs : Attrs}
    {children : List Node} (h : LinkedLoop s q (.element tag attrs children)) :
    ∃ ids, s.Shows (s.children q) children ids := by
  have read : [q].mapM (s.treeWithin (s.cells.size + 1)) = some [.element tag attrs children] := by
    have tree := h.tree
    rw [Store.tree?] at tree
    simp [tree]
  obtain ⟨numbers, shows⟩ := Store.shows_of_mapM_treeWithin h.bare read
  obtain ⟨ids, -, -, -, inside⟩ := shows.of_single
  exact ⟨ids, inside⟩

/-- A rewriting does in place, for each of some members, what the expansion of a body does alone. -/
structure Performs (rewrite : V → Nat → InPlace Fault Unit) (body : V → Expansion W (List Node))
    (members : List V) (children : List Node) (supplies : String → Except LoadError String) :
    Prop where
  inside : ∀ v ∈ members, WorksInside (rewrite v)
  makes : ∀ v ∈ members, ∀ u nodes t, u.registry.supplies = supplies →
    Ends (body v) u nodes t → Makes (rewrite v) children nodes
  breaks : ∀ v ∈ members, ∀ u stop t, u.registry.supplies = supplies →
    Fails (body v) u stop t → Breaks (rewrite v) children stop.fault

namespace Performs

variable {rewrite : V → Nat → InPlace Fault Unit} {place : Place V}
  {inside : Place V → Expansion W (List Node)} {name tag : String} {attrs : Attrs}
  {children : List Node} {members : List V} {supplies : String → Except LoadError String}
  {rounds : List (Round V)}

theorem forall₂ {body : V → Expansion W (List Node)}
    (h : Performs rewrite body members children supplies)
    (among : ∀ r ∈ rounds, r.member ∈ members)
    (alone : ∀ r ∈ rounds, r.Alone body calls supplies) :
    List.Forall₂ (fun v nodes => WorksInside (rewrite v) ∧ Makes (rewrite v) children nodes)
      (rounds.map Round.member) (rounds.map Round.nodes) := by
  rw [List.forall₂_map_left_iff, List.forall₂_map_right_iff, List.forall₂_same]
  intro r hr
  obtain ⟨u, t, hu, run, -⟩ := alone r hr
  exact ⟨h.inside _ (among r hr), h.makes _ (among r hr) u _ t hu run⟩

/-- A loop whose bodies end gives way to what they come to, in place. -/
theorem ends_inPlace
    (h : Performs rewrite (fun v => inside (place.inner [(name, v)])) (rounds.map Round.member)
      children supplies)
    (alone : ∀ r ∈ rounds, r.Alone (expandBody place children name inside) calls supplies)
    (refused : Stacks.Obstacle → Fault) {s : Store} {q : Nat}
    (loop : LinkedLoop s q (.element tag attrs children)) :
    ∃ made s', Ends (loopAt refused rewrite q (rounds.map Round.member)) s made s' ∧
      Unrolled s q (rounds.map Round.nodes) made s' := by
  obtain ⟨ids, shows⟩ := loop.shows
  obtain ⟨p, link⟩ := loop.link
  have makes := h.forall₂ (fun r hr => List.mem_map_of_mem hr) fun r hr =>
    (alone r hr).of_expandBody.2
  refine ends_loopAt refused loop.wellLinked shows link makes fun some => ?_
  obtain ⟨v, hv⟩ := List.exists_mem_of_ne_nil _ some
  obtain ⟨r, hr, -⟩ := List.mem_map.1 hv
  exact List.all_eq_true.1 (alone r hr).of_expandBody.1

/-- A loop one of whose bodies fails is left in place with all nodes as they were. -/
theorem fails_inPlace {v : V} {later : List V}
    (h : Performs rewrite (fun v => inside (place.inner [(name, v)]))
      (rounds.map Round.member ++ v :: later) children supplies)
    (alone : ∀ r ∈ rounds, r.Alone (expandBody place children name inside) calls supplies)
    {u t : State W} {stop : Stop} (hu : u.registry.supplies = supplies)
    (fails : Fails (expandBody place children name inside v) u stop t)
    {refused : Stacks.Obstacle → Fault} (refuses : refused (.link .uncopyable) = .uncopyable)
    {s : Store} {q : Nat} (loop : LinkedLoop s q (.element tag attrs children)) :
    ∃ s', Fails (loopAt refused rewrite q (rounds.map Round.member ++ v :: later)) s stop.fault s' ∧
      Keeps s s' := by
  obtain ⟨ids, shows⟩ := loop.shows
  obtain ⟨p, link⟩ := loop.link
  have hv : v ∈ rounds.map Round.member ++ v :: later := by simp
  by_cases copyable : children.all Store.isCopyable = true
  · rw [expandBody_of_copyable copyable] at fails
    have makes := h.forall₂ (fun r hr => List.mem_append_left _ (List.mem_map_of_mem hr))
      fun r hr => (alone r hr).of_expandBody.2
    exact fails_loopAt refused loop.wellLinked shows link makes
      (List.all_eq_true.1 copyable) (h.inside v hv) (h.breaks v hv u stop t hu fails) later
  · -- no round before it has ended, since none has had a copy
    have uncopyable := Bool.eq_false_iff.2 copyable
    obtain rfl : rounds = [] := List.eq_nil_iff_forall_not_mem.2 fun r hr =>
      copyable (alone r hr).of_expandBody.1
    rw [expandBody_of_uncopyable uncopyable] at fails
    obtain ⟨rfl, -⟩ := fails_stop_iff.1 fails
    obtain ⟨s', failing, keeps⟩ :=
      fails_loopAt_of_uncopyable refused loop.wellLinked shows uncopyable v later
    exact ⟨s', refuses ▸ failing, keeps⟩

end Performs

theorem nameLanguage_lists (texts : List String) (w : NameState) :
    nameLanguage.Lists NameState.calls (.row texts) (texts.map .text) w := by
  refine ⟨by rw [List.length_map]; rfl, fun i _ => ⟨w, ?_, rfl⟩⟩
  rw [List.getElem?_map]
  exact ends_pure_iff.2 ⟨rfl, rfl⟩

/-- Writes the text of a member over a text that is alone in a fragment. -/
def overwrite (v : NameValue) (f : Nat) : InPlace Fault Unit := fun s =>
  match s.children f with
  | [c] => (.ok (), s.modify c fun cell => { cell with kind := .text (NameLanguage.text v) })
  | _ => (.ok (), s)

theorem worksInside_overwrite (v : NameValue) : WorksInside (overwrite v) := by
  intro s f linked _
  unfold overwrite
  split
  · rename_i c children
    have child : s.IsChild c f := (linked.linked c f).2 (children ▸ List.mem_singleton_self c)
    exact .single (.become c _ (.inl (.single child)))
  · exact .refl

theorem makes_overwrite (v : NameValue) (old : String) :
    Makes (overwrite v) [.text old] [.text (NameLanguage.text v)] := by
  intro s f ids linked holds _
  obtain ⟨c, alone⟩ := List.length_eq_one_iff.1 holds.shows.roots.length_eq
  have hc : c ∈ s.children f := alone ▸ List.mem_singleton_self c
  have other : f ≠ c := fun same => linked.not_mem_children_self (same ▸ hc)
  have single : s.Shows [c] [.text old] ids := alone ▸ holds.shows
  obtain ⟨_, -, -, -, inside⟩ := single.of_single
  let s' := s.modify c fun cell => { cell with kind := .text (NameLanguage.text v) }
  have fragment : s'.cell f = s.cell f := Store.cell_modify_of_ne other _
  have written : s'.cell c = { s.cell c with kind := .text (NameLanguage.text v) } := by
    rw [Store.cell_modify, if_pos ⟨rfl, linked.has_of_mem hc⟩]
  have kind : s'.kind c = .text (NameLanguage.text v) := congrArg Cell.kind written
  have bare : s'.children c = [] :=
    (congrArg Cell.children written).trans (List.eq_nil_of_length_eq_zero inside.roots.length_eq)
  have shows : s'.Shows [c] [Store.assemble (s'.kind c) []] [c] := by
    apply Store.Shows.single fun _ => rfl
    rw [bare]
    exact .nil
  have children : s'.children f = [c] := (congrArg Cell.children fragment).trans alone
  refine ⟨s', [c], ?_, (congrArg Cell.kind fragment).trans holds.kind,
    (Store.has_modify _).2 holds.has, ?_⟩
  · unfold overwrite Ends
    simp only [alone]
    rfl
  · rw [kind] at shows
    exact children ▸ shows

/-- Where the body of a loop is a text that comes to the text of the member, writing that text
over it performs what its expansion does. -/
theorem performs_overwrite {body : NameValue → Expansion NameState (List Node)}
    {members : List NameValue} {supplies : String → Except LoadError String} (old : String)
    (same : ∀ v ∈ members, ∀ u : State NameState, u.registry.supplies = supplies →
      ∃ t, Ends (body v) u [.text (NameLanguage.text v)] t) :
    Performs overwrite body members [.text old] supplies := by
  refine ⟨fun v _ => worksInside_overwrite v, fun v hv u nodes t hu run => ?_,
    fun v hv u stop t hu fails => ?_⟩
  · obtain ⟨t', run'⟩ := same v hv u hu
    obtain ⟨rfl, -⟩ := ends_unique run run'
    exact makes_overwrite v old
  · obtain ⟨t', run'⟩ := same v hv u hu
    exact absurd fails (not_fails_of_ends run')

end HtmlTemplate.Expand
