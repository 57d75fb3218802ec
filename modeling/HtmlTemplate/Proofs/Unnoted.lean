import HtmlTemplate.Proofs.Repetition
import HtmlTemplate.Proofs.Stops

/-!
# Expansions do not look at notes

Notes are taken and steps are counted, but nothing depends on them: from states that have the same
evaluator state and registry an expansion comes to the same (`unnoted_expandLevels`). So what is
expanded in surroundings, with notes of its own, is expanded as it is alone; in particular a row is
expanded item by item, each from where the one before it has come to (`goesOn_expandItems_append`).
-/

namespace HtmlTemplate.Expand

open HtmlTemplate.Markup HtmlTemplate.Component Expansion

variable {V W α β : Type}

/-- Two states differ in notes and steps at most. -/
def State.Matches (s s' : State W) : Prop := s.world = s'.world ∧ s.registry = s'.registry

namespace State.Matches

variable {s s' s'' : State W}

theorem refl (s : State W) : s.Matches s := ⟨rfl, rfl⟩

theorem symm (h : s.Matches s') : s'.Matches s := ⟨h.1.symm, h.2.symm⟩

theorem trans (h : s.Matches s') (h' : s'.Matches s'') : s.Matches s'' :=
  ⟨h.1.trans h'.1, h.2.trans h'.2⟩

end State.Matches

namespace Expansion

/-- What an expansion comes to does not depend on the notes that were taken before. -/
def Unnoted (x : Expansion W α) : Prop :=
  ∀ s s' : State W, s.Matches s' →
    @Eq (Except Stop α) (x s).1 (x s').1 ∧ State.Matches (x s).2 (x s').2

theorem unnoted_iff {x : Expansion W α} : Unnoted x ↔ Reproduces State.Matches id x := by
  simp only [Unnoted, Reproduces, mapError_id]

theorem unnoted_pure (a : α) : Unnoted (pure a : Expansion W α) := fun _ _ h => ⟨rfl, h⟩

theorem unnoted_bind {x : Expansion W α} {f : α → Expansion W β} (hx : Unnoted x)
    (hf : ∀ a, Unnoted (f a)) : Unnoted (x >>= f) :=
  unnoted_iff.2 (reproduces_bind (unnoted_iff.1 hx) fun a => unnoted_iff.1 (hf a))

theorem unnoted_stop (place : Place V) (left : List Node) (fault : Fault) :
    Unnoted (stop place left fault : Expansion W α) := fun _ _ h => ⟨rfl, h⟩

theorem unnoted_compute (place : Place V) (left : List Node) (x : Act W α) :
    Unnoted (compute place left x) := by
  intro s s' h
  change @Eq (Except Stop α) ((x s.world).1.mapError _) ((x s'.world).1.mapError _) ∧
    State.Matches { s with world := (x s.world).2 } { s' with world := (x s'.world).2 }
  rw [h.1]
  exact ⟨rfl, rfl, h.2⟩

theorem unnoted_modifyGet {f : State W → α × State W}
    (hf : ∀ s s', s.Matches s' → (f s).1 = (f s').1 ∧ (f s).2.Matches (f s').2) :
    Unnoted (modifyGet f : Expansion W α) := fun _ _ h =>
  ⟨congrArg Except.ok (hf _ _ h).1, (hf _ _ h).2⟩

theorem unnoted_modify {f : State W → State W}
    (hf : ∀ s s', s.Matches s' → (f s).Matches (f s')) :
    Unnoted (modify f : Expansion W PUnit) :=
  unnoted_modifyGet fun _ _ h => ⟨rfl, hf _ _ h⟩

theorem unnoted_observe (f : W → α) : Unnoted (observe f) := fun _ _ h =>
  ⟨congrArg (fun w => Except.ok (f w)) h.1, h⟩

/-- Running an expansion without the notes and changing what it comes to does not look at notes. -/
theorem unnoted_of_run {x y : Expansion W α} (hx : Unnoted x)
    (change : W → Except Stop α → Except Stop α)
    (run : ∀ s, @Eq (Except Stop α) (y s).1 (change (y s).2.world (x { s with notes := [] }).1) ∧
      State.Matches (y s).2 (x { s with notes := [] }).2) : Unnoted y := by
  intro s s' h
  obtain ⟨same, kept⟩ := hx { s with notes := [] } { s' with notes := [] } h
  have kept' := (run s).2.trans (kept.trans (run s').2.symm)
  rw [(run s).1, (run s').1, same, kept'.1]
  exact ⟨rfl, kept'⟩

theorem unnoted_within {x : Expansion W α} (hx : Unnoted x) (f : List Node → List Node) :
    Unnoted (within f x) :=
  unnoted_of_run hx (fun _ r => r.mapError fun stop => { stop with left := f stop.left })
    fun _ => ⟨rfl, rfl, rfl⟩

theorem unnoted_apart {x : Expansion W α} (hx : Unnoted x) (left : W → List Node) :
    Unnoted (apart left x) :=
  unnoted_of_run hx (fun w r => r.mapError fun stop => { stop with left := left w })
    fun _ => ⟨rfl, rfl, rfl⟩

theorem unnoted_attaching {x : Expansion W α} (hx : Unnoted x) (stack : List String) :
    Unnoted (attaching stack x) := by
  intro s s' h
  obtain ⟨same, kept⟩ := hx s s' h
  change @Eq (Except Stop α) ((x s).1.mapError _) ((x s').1.mapError _) ∧ _
  rw [same]
  exact ⟨rfl, kept⟩

theorem unnoted_noteStep (o : Options) (forest : List Node) :
    Unnoted (noteStep o forest : Expansion W Unit) := by
  unfold noteStep
  split
  · exact fun s s' h => ⟨rfl, h⟩
  · exact unnoted_pure _

theorem unnoted_lookup (name : String) :
    Unnoted (lookup name : Expansion W (Except LoadError String)) := by
  intro s s' h
  have start : ({ s.registry with log := [] } : RegistryState) =
      { s'.registry with log := [] } := by
    rw [h.2]
  have same := congrArg (fun r => (Lookup.source name).run.run r) start
  have given : @Eq (Except Stop (Except LoadError String)) (lookup name s).1 (lookup name s').1 :=
    congrArg (fun r : Except LoadError String × RegistryState => Except.ok r.1) same
  have kept : (lookup name s).2.registry = (lookup name s').2.registry :=
    congrArg (fun r : Except LoadError String × RegistryState => { r.2 with log := [] }) same
  exact ⟨given, h.1, kept⟩

theorem unnoted_findSource (place : Place V) (u : Use) :
    Unnoted (findSource place u : Expansion W String) := by
  refine unnoted_bind (unnoted_lookup u.name) fun result => ?_
  split
  · exact unnoted_pure _
  · exact unnoted_stop _ _ _
  · exact unnoted_stop _ _ _

theorem unnoted_expandSource {setting : Setting V W} {deeper : ForestExpansion V W}
    (place : Place V) (u : Use) (source : String)
    (hdeeper : ∀ place forest, Unnoted (deeper place forest)) :
    Unnoted (expandSource setting deeper place u source) := by
  unfold expandSource
  dsimp only
  split
  · exact unnoted_stop _ _ _
  · refine unnoted_bind (unnoted_modifyGet fun s s' h => ?_) fun props => ?_
    · rw [h.1]
      exact ⟨rfl, rfl, h.2⟩
    · refine unnoted_attaching (unnoted_apart (unnoted_bind (unnoted_compute _ _ _) fun scope => ?_)
        _) _
      refine unnoted_bind (unnoted_modify fun s s' h => ?_) fun _ => ?_
      · exact ⟨congrArg (setting.evaluator.closeProps props) h.1, h.2⟩
      · refine unnoted_bind (unnoted_observe _) fun left => ?_
        exact unnoted_bind (hdeeper _ _) fun tree => unnoted_pure _

/-- Not to look at notes is a property that composes, for every evaluator. -/
theorem unnoted_compositional (setting : Setting V W) :
    Compositional setting (fun _ => True) Unnoted where
  act_pure _ := trivial
  act_bind _ _ := trivial
  act_truth _ _ _ _ _ _ := trivial
  act_same _ _ _ _ _ _ _ := trivial
  act_evaluate _ _ := trivial
  act_evaluateUncaught := trivial
  act_text _ := trivial
  act_member _ _ := trivial
  of_pure := unnoted_pure
  of_bind := unnoted_bind
  of_stop place left fault _ := unnoted_stop place left fault
  of_stop_shown place left _ _ _ := unnoted_bind (unnoted_compute place left _) fun _ =>
    unnoted_stop place left _
  of_compute place left _ _ _ := unnoted_compute place left _
  of_length _ := unnoted_observe _
  of_within f _ _ hx := unnoted_within hx f
  of_apart left _ _ hx := unnoted_apart hx left
  of_noteStep := unnoted_noteStep setting.options
  of_findSource := unnoted_findSource
  of_expandSource := unnoted_expandSource

theorem unnoted_expandLevels (setting : Setting V W) (levels : Nat) (place : Place V)
    (forest : List Node) : Unnoted (expandLevels setting levels place forest) :=
  (unnoted_compositional setting).expandLevels levels place forest

/-! ### Runs in surroundings -/

section Runs

variable {x : Expansion W α} {f : List Node → List Node} {s s' t : State W} {a : α} {stop : Stop}

theorem Unnoted.ends (hx : Unnoted x) (h : s.Matches s') (run : Ends x s' a t) :
    ∃ t', Ends x s a t' ∧ t'.Matches t := by
  obtain ⟨same, kept⟩ := hx s s' h
  refine ⟨(x s).2, Prod.ext ?_ rfl, ?_⟩
  · rw [same, run]
  · rwa [run] at kept

theorem Unnoted.fails (hx : Unnoted x) (h : s.Matches s') (run : Fails x s' stop t) :
    ∃ t', Fails x s stop t' ∧ t'.Matches t := by
  obtain ⟨same, kept⟩ := hx s s' h
  refine ⟨(x s).2, Prod.ext ?_ rfl, ?_⟩
  · rw [same, run]
  · rwa [run] at kept

theorem Unnoted.ends_within (hx : Unnoted x) (h : s.Matches s') (run : Ends x s' a t) :
    ∃ t', Ends (within f x) s a t' ∧ t'.Matches t := by
  obtain ⟨u, inner, kept⟩ := hx.ends (s := { s with notes := [] }) h run
  exact ⟨_, ends_within_iff.2 ⟨u, inner, rfl⟩, kept⟩

theorem Unnoted.fails_within (hx : Unnoted x) (h : s.Matches s') (run : Fails x s' stop t) :
    ∃ t', Fails (within f x) s { stop with left := f stop.left } t' ∧ t'.Matches t := by
  obtain ⟨u, inner, kept⟩ := hx.fails (s := { s with notes := [] }) h run
  exact ⟨_, fails_within_iff.2 ⟨stop, u, inner, rfl, rfl⟩, kept⟩

/-- A run in surroundings is one without them. -/
theorem Unnoted.of_ends_within (hx : Unnoted x) (run : Ends (within f x) s a t) :
    ∃ t', Ends x s a t' ∧ t'.Matches t := by
  obtain ⟨u, inner, rfl⟩ := ends_within_iff.1 run
  have same : s.Matches { s with notes := [] } := .refl s
  obtain ⟨t', run', kept⟩ := hx.ends same inner
  exact ⟨t', run', kept⟩

end Runs

/-! ### Rows -/

/-- An expansion comes to some nodes and goes on as another one does, whose nodes follow these. -/
structure GoesOn (x : Expansion W (List Node)) (s : State W) (front : List Node)
    (y : Expansion W (List Node)) (u : State W) : Prop where
  ends : ∀ more t, Ends y u more t → ∃ t', Ends x s (front ++ more) t' ∧ t'.Matches t
  fails : ∀ stop t, Fails y u stop t →
    ∃ t', Fails x s { stop with left := front ++ stop.left } t' ∧ t'.Matches t

namespace GoesOn

variable {x y z : Expansion W (List Node)} {s s' u u' v : State W} {front more : List Node}

theorem refl (x : Expansion W (List Node)) (s : State W) : GoesOn x s [] x s :=
  ⟨fun _ t run => ⟨t, run, .refl t⟩, fun _ t run => ⟨t, run, .refl t⟩⟩

theorem trans (h : GoesOn x s front y u) (h' : GoesOn y u more z v) :
    GoesOn x s (front ++ more) z v := by
  constructor
  · intro rest t run
    obtain ⟨t₁, run₁, kept₁⟩ := h'.ends rest t run
    obtain ⟨t₂, run₂, kept₂⟩ := h.ends _ t₁ run₁
    exact ⟨t₂, by rwa [List.append_assoc], kept₂.trans kept₁⟩
  · intro stop t run
    obtain ⟨t₁, run₁, kept₁⟩ := h'.fails stop t run
    obtain ⟨t₂, run₂, kept₂⟩ := h.fails _ t₁ run₁
    exact ⟨t₂, by rwa [List.append_assoc], kept₂.trans kept₁⟩

/-- It does not matter with which notes an expansion goes on. -/
theorem of_matches (hy : Unnoted y) (h : GoesOn x s front y u) (same : u.Matches u') :
    GoesOn x s front y u' := by
  constructor
  · intro rest t run
    obtain ⟨t₁, run₁, kept₁⟩ := hy.ends same run
    obtain ⟨t₂, run₂, kept₂⟩ := h.ends rest t₁ run₁
    exact ⟨t₂, run₂, kept₂.trans kept₁⟩
  · intro stop t run
    obtain ⟨t₁, run₁, kept₁⟩ := hy.fails same run
    obtain ⟨t₂, run₂, kept₂⟩ := h.fails stop t₁ run₁
    exact ⟨t₂, run₂, kept₂.trans kept₁⟩

end GoesOn

section Rows

variable {o : Options} {item : RowItem V W → Expansion W (List Node)} {i : RowItem V W}
  {left right rest : List (RowItem V W)} {s u : State W} {placed : List Node} {stop : Stop}

/-- An expansion with the note that is taken after it. -/
def noted (o : Options) (x : Expansion W (List Node)) : Expansion W (List Node) := do
  let placed ← x
  noteStep o placed
  return placed

theorem unnoted_noted {x : Expansion W (List Node)} (hx : Unnoted x) : Unnoted (noted o x) :=
  unnoted_bind hx fun placed => unnoted_bind (unnoted_noteStep o placed) fun _ =>
    unnoted_pure placed

theorem ends_noted {x : Expansion W (List Node)} (run : Ends x s placed u) :
    ∃ t, Ends (noted o x) s placed t ∧ t.Matches u := by
  obtain ⟨t, note⟩ := exists_ends_noteStep o placed u
  exact ⟨t, ends_bind_iff.2 ⟨placed, u, run, ends_bind_iff.2 ⟨(), t, note,
    ends_pure_iff.2 ⟨rfl, rfl⟩⟩⟩, ends_noteStep note⟩

theorem of_ends_noted {x : Expansion W (List Node)} (run : Ends (noted o x) s placed u) :
    ∃ t, Ends x s placed t ∧ t.Matches u := by
  obtain ⟨placed', t, inner, run⟩ := ends_bind_iff.1 run
  obtain ⟨⟨⟩, t', note, run⟩ := ends_bind_iff.1 run
  obtain ⟨rfl, rfl⟩ := ends_pure_iff.1 run
  exact ⟨t, inner, State.Matches.symm (ends_noteStep note)⟩

theorem expandItems_cons (o : Options) (item : RowItem V W → Expansion W (List Node))
    (i : RowItem V W) (rest : List (RowItem V W)) : expandItems o item (i :: rest) = do
      let placed ← within (· ++ rowNodes rest) (noted o (item i))
      let more ← within (placed ++ ·) (expandItems o item rest)
      return placed ++ more := rfl

theorem unnoted_expandItems (hitem : ∀ i ∈ rest, Unnoted (item i)) :
    Unnoted (expandItems o item rest) := by
  induction rest with
  | nil => exact unnoted_pure []
  | cons i rest ih =>
    have first := unnoted_noted (o := o) (hitem i List.mem_cons_self)
    have others := ih fun j hj => hitem j (List.mem_cons_of_mem i hj)
    exact unnoted_bind (unnoted_within first _) fun placed =>
      unnoted_bind (unnoted_within others _) fun more => unnoted_pure _

/-- When an item has been expanded, the row goes on with the items after it. -/
theorem goesOn_expandItems_cons (hitem : ∀ j ∈ i :: rest, Unnoted (item j))
    (run : Ends (item i) s placed u) :
    GoesOn (expandItems o item (i :: rest)) s placed (expandItems o item rest) u := by
  have others := unnoted_expandItems (o := o) fun j hj => hitem j (List.mem_cons_of_mem i hj)
  obtain ⟨u₁, stepped, same₁⟩ := ends_noted (o := o) run
  obtain ⟨u₂, first, same₂⟩ := (unnoted_noted (hitem i List.mem_cons_self)).ends_within
    (f := (· ++ rowNodes rest)) (.refl s) stepped
  have same : u₂.Matches u := same₂.trans same₁
  rw [expandItems_cons]
  constructor
  · intro more t run'
    obtain ⟨t', later, kept⟩ := others.ends_within (f := (placed ++ ·)) same run'
    exact ⟨t', ends_bind_iff.2 ⟨placed, u₂, first, ends_bind_iff.2 ⟨more, t', later,
      ends_pure_iff.2 ⟨rfl, rfl⟩⟩⟩, kept⟩
  · intro stop t run'
    obtain ⟨t', later, kept⟩ := others.fails_within (f := (placed ++ ·)) same run'
    exact ⟨t', fails_bind_iff.2 (.inr ⟨placed, u₂, first, fails_bind_iff.2 (.inl later)⟩), kept⟩

variable (rest) in
/-- When an item stops, the row stops with the items after it left as they are. -/
theorem fails_expandItems_cons (hitem : Unnoted (item i)) (run : Fails (item i) s stop u) :
    ∃ t, Fails (expandItems o item (i :: rest)) s
      { stop with left := stop.left ++ rowNodes rest } t ∧ t.Matches u := by
  obtain ⟨t, first, kept⟩ := (unnoted_noted hitem).fails_within (f := (· ++ rowNodes rest))
    (.refl s) (fails_bind_iff.2 (.inl run))
  exact ⟨t, fails_bind_iff.2 (.inl first), kept⟩

/-- A row that is put together of two goes on with the second after the first. -/
theorem goesOn_expandItems_append (hitem : ∀ i ∈ left ++ right, Unnoted (item i))
    (run : Ends (expandItems o item left) s placed u) :
    GoesOn (expandItems o item (left ++ right)) s placed (expandItems o item right) u := by
  induction left generalizing s placed u with
  | nil =>
    obtain ⟨rfl, rfl⟩ := ends_pure_iff.1 run
    exact .refl _ s
  | cons i left ih =>
    have hi := hitem i List.mem_cons_self
    have hrest : ∀ j ∈ left ++ right, Unnoted (item j) := fun j hj =>
      hitem j (List.mem_cons_of_mem i hj)
    have hleft := unnoted_expandItems (o := o) fun j hj => hrest j (List.mem_append_left right hj)
    have hright := unnoted_expandItems (o := o) fun j hj => hrest j (List.mem_append_right left hj)
    rw [expandItems_cons] at run
    obtain ⟨front, s₁, first, run⟩ := ends_bind_iff.1 run
    obtain ⟨more, s₂, later, run⟩ := ends_bind_iff.1 run
    obtain ⟨rfl, rfl⟩ := ends_pure_iff.1 run
    -- the item and the items after it are expanded as they are without surroundings
    obtain ⟨t₁, first, same₁⟩ := (unnoted_noted hi).of_ends_within first
    obtain ⟨v₁, first, same₁'⟩ := of_ends_noted first
    obtain ⟨t₂, later, same₂⟩ := hleft.of_ends_within later
    obtain ⟨v₂, later, same₂'⟩ := hleft.ends (same₁'.trans same₁) later
    have on := goesOn_expandItems_cons (o := o) (fun j hj => hitem j hj) first
    exact (on.trans (ih hrest later)).of_matches hright (same₂'.trans same₂)

end Rows

end Expansion

/-! ### An item among siblings -/

section Siblings

variable {setting : Setting V W} {levels : Nat} {place : Place V}
  {pre post forest placed : List Node} {i : RowItem V W} {s s₁ : State W}

variable (setting levels) in
theorem unnoted_items (place : Place V) (forest : List Node) :
    ∀ i ∈ rowOf (expandables (expandRow setting (expandLevels setting levels)) forest),
      Unnoted (expandItem setting (expandLevels setting levels) place i) := by
  have compositional := unnoted_compositional setting
  have deeper := compositional.expandLevels levels
  have inside := compositional.expandables
    (fun place es hes => compositional.expandRow deeper place hes) forest
  exact fun i hi => compositional.expandItem deeper place fun e he =>
    inside e (parts_rowOf _ i hi e he)

variable (row : rowOf (expandables (expandRow setting (expandLevels setting levels)) forest) =
    rowOf (expandables (expandRow setting (expandLevels setting levels)) pre) ++
      i :: rowOf (expandables (expandRow setting (expandLevels setting levels)) post))
  (hpre : Ends (expandLevels setting (levels + 1) place pre) s placed s₁)
include row hpre

/-- When the siblings before an item and the item have been expanded, the siblings after it come
next. -/
theorem goesOn_of_ends_item {nodes : List Node} {u : State W}
    (run : Ends (expandItem setting (expandLevels setting levels) place i) s₁ nodes u) :
    GoesOn (expandLevels setting (levels + 1) place forest) s
      (placed ++ nodes) (expandLevels setting (levels + 1) place post) u := by
  have items := unnoted_items setting levels place forest
  rw [row] at items
  have before := goesOn_expandItems_append (o := setting.options) items hpre
  have after := goesOn_expandItems_cons (o := setting.options)
    (fun j hj => items j (List.mem_append_right _ hj)) run
  rw [← row] at before
  exact before.trans after

/-- When an item stops, its siblings stop with it. -/
theorem fails_of_fails_item {stop : Stop} {u : State W}
    (run : Fails (expandItem setting (expandLevels setting levels) place i) s₁ stop u) :
    ∃ t, Fails (expandLevels setting (levels + 1) place forest) s
      { stop with left := placed ++ (stop.left ++ post) } t ∧ t.Matches u := by
  have items := unnoted_items setting levels place forest
  rw [row] at items
  have before := goesOn_expandItems_append (o := setting.options) items hpre
  obtain ⟨t₁, fails, kept⟩ := fails_expandItems_cons (o := setting.options)
    (rowOf (expandables (expandRow setting (expandLevels setting levels)) post))
    (items _ (List.mem_append_right _ List.mem_cons_self)) run
  rw [rowNodes_rowOf, nodes_expandables] at fails
  rw [← row] at before
  obtain ⟨t, whole, kept'⟩ := before.fails _ _ fails
  exact ⟨t, whole, kept'.trans kept⟩

end Siblings

end HtmlTemplate.Expand
