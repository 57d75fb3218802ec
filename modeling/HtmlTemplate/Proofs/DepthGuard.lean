import HtmlTemplate.Expand.Loop
import HtmlTemplate.Proofs.Levels
import HtmlTemplate.Proofs.NameLanguage
import HtmlTemplate.Proofs.Runs
import HtmlTemplate.Proofs.Steady
import HtmlTemplate.Proofs.Stops
import Mathlib.Logic.Function.Iterate

/-!
# The guard against deep nesting

Whenever an expansion stops, no more components are being expanded than may be
(`stopsInLimit_expandLevels`). A use that is met when that many are being expanded stops with a
diagnostic that names them (`expandNode_of_full`), and for one that is met before the limit plays no
role (`expandNode_limit`). `expandRound` is one round of a loop, with the rounds after it left to
another computation: a loop over a sequence that has no members from some position on, in the states
in which its rounds start, never comes to the rounds after that position (`iterate_expandRound`).
`expand_ends_within_limit` puts this together with the recursion of expansion.
-/

namespace HtmlTemplate.Expand

open HtmlTemplate.Markup HtmlTemplate.Component Expansion

variable {V W α β : Type}

/-! ### Where expansions stop -/

/-- Whenever a computation stops, at most so many components are being expanded. -/
def StopsWithin (bound : Nat) (x : Expansion W α) : Prop :=
  ∀ s stop s', @Eq (Except Stop α × State W) (x s) (.error stop, s') → stop.stack.length ≤ bound

/-- Expanders that stop only where no more components are being expanded than may be, started
there. -/
def StopsInLimit (setting : Setting V W) (F : ForestExpansion V W) : Prop :=
  ∀ place forest, place.stack.length ≤ setting.limit.value.toNat →
    StopsWithin setting.limit.value.toNat (F place forest)

/-- A stop that arises where no more components are being expanded than may be does so at a place
where this is still so: opening a component takes room for it. -/
theorem Arises.length_le {setting : Setting V W} {stack : List String} {stop : Stop}
    (arises : Arises setting stack stop) (allowed : stack.length ≤ setting.limit.value.toNat) :
    stop.stack.length ≤ setting.limit.value.toNat := by
  have opened {stack : List String} {name : String}
      (opens : checkDepth setting.limit stack name = .ok ()) :
      (stack ++ [name]).length ≤ setting.limit.value.toNat := by
    simpa using length_of_checkDepth opens
  induction arises with
  | here left placed => exact allowed
  | evaluator left raised => exact allowed
  | unreadable e left opens => exact opened opens
  | slot left opens => exact opened opens
  | inside left opens deeper ih => exact ih (opened opens)

/-- However deep components nest, expansion stops only where no more of them are being expanded than
may be. -/
theorem stopsInLimit_expandLevels {setting : Setting V W} (levels : Nat) :
    StopsInLimit setting (expandLevels setting levels) :=
  fun place forest allowed s stop s' run =>
    (arises_expandLevels levels place forest s stop s' run).length_le allowed

/-! ### Uses of components that are met -/

/-- A use of a component is met: an element that is no other construct, whose evaluated attributes
evaluate and whose name is given. -/
def Meets (setting : Setting V W) (place : Place V) (e : Expandable V W) (u : Use)
    (s s₁ : State W) : Prop :=
  ∃ tag attrs children attrs', e.node = .element tag attrs children ∧
    tag ∉ ["elseif", "else", "switch", "for", setting.options.dynamicTag] ∧
    isUse setting.options tag = true ∧
    Ends (evaluateAttrs setting (place.inner []) (fun attrs => [.element tag attrs children])
      attrs.names attrs) s attrs' s₁ ∧
    Use.ofElement? setting.options tag attrs' children = some u

section Guard

variable {setting : Setting V W} {place : Place V} {e : Expandable V W}

theorem expandNode_of_meets {u : Use} {s s₁ : State W} (deeper : ForestExpansion V W)
    (meets : Meets setting place e u s s₁) :
    expandNode setting deeper place e s =
      expandUse setting deeper (place.inner []) u (e.inside (place.inner [])) s₁ := by
  obtain ⟨tag, attrs, children, attrs', hnode, other, use, evaluated, named⟩ := meets
  simp only [List.mem_cons, List.not_mem_nil, or_false, not_or] at other
  obtain ⟨noElseif, noElse, noSwitch, noFor, noDynamic⟩ := other
  have element : expandElement setting deeper (place.inner []) tag attrs' children e =
      expandUse setting deeper (place.inner []) u (e.inside (place.inner [])) := by
    simp [expandElement, noElseif, noElse, noSwitch, noFor, noDynamic, use, named]
  unfold expandNode
  rw [hnode]
  refine (run_bind _ _ s).trans ?_
  rw [show _ = _ from evaluated]
  exact congrFun element s₁

/-- A use that is met when as many components are being expanded as may be stops at once, with a
diagnostic that names them. -/
theorem expandNode_of_full {u : Use} {s s₁ : State W} (deeper : ForestExpansion V W)
    (meets : Meets setting place e u s s₁) (full : setting.limit.value ≤ place.stack.length) :
    @Eq (Except Stop (List Node) × State W) (expandNode setting deeper place e s)
      (.error ⟨.diagnostic (depthProblem setting.limit place.stack u.name), place.stack,
        u.node u.attrs u.children⟩, s₁) := by
  have refused : checkDepth setting.limit (place.inner []).stack u.name =
      .error (depthProblem setting.limit place.stack u.name) := if_pos full
  rw [expandNode_of_meets deeper meets]
  unfold expandUse
  simp only [refused]
  rfl

/-- A diagnostic that names components keeps them on its way out. -/
theorem attach_depthProblem (limit : DepthLimit) {stack : List String} (name : String)
    (nonempty : stack ≠ []) (outer : List String) :
    (Fault.diagnostic (depthProblem limit stack name)).attach outer =
      .diagnostic (depthProblem limit stack name) := by
  simp [Fault.attach, Diagnostic.attach, depthProblem, nonempty]

/-! ### Room for more components -/

theorem evaluateAttrs_limit (limit : DepthLimit) (around : Attrs → List Node)
    (names : List String) : ∀ attrs,
    evaluateAttrs { setting with limit := limit } place around names attrs =
      evaluateAttrs setting place around names attrs := by
  induction names with
  | nil => exact fun attrs => rfl
  | cons name names ih => intro attrs; simp only [evaluateAttrs, ih]

theorem expandLoop_limit (limit : DepthLimit) (tag : String) (attrs : Attrs) (children : List Node)
    (inside : Place V → Expansion W (List Node)) :
    expandLoop { setting with limit := limit } place tag attrs children inside =
      expandLoop setting place tag attrs children inside := by
  have rounds (loop : Node) (items : V) (name : String) (fuel : Nat) : ∀ position,
      expandRounds { setting with limit := limit } place loop items name inside fuel position =
        expandRounds setting place loop items name inside fuel position := by
    induction fuel with
    | zero => exact fun position => rfl
    | succ fuel ih => intro position; simp only [expandRounds, ih]
  simp only [expandLoop, rounds]

/-- While fewer components are being expanded than may be, the limit plays no role for what is met. -/
theorem expandNode_limit (deeper : ForestExpansion V W)
    (room : place.stack.length < setting.limit.value) (limit : DepthLimit)
    (room' : place.stack.length < limit.value) :
    expandNode { setting with limit := limit } deeper place e = expandNode setting deeper place e := by
  have allowed (limit : DepthLimit) (room : place.stack.length < limit.value) (name : String) :
      checkDepth limit (place.inner []).stack name = .ok () := if_neg (Int.not_le.2 room)
  have use (u : Use) (inside : Expansion W (List Node)) :
      expandUse { setting with limit := limit } deeper (place.inner []) u inside =
        expandUse setting deeper (place.inner []) u inside := by
    simp only [expandUse, allowed limit room', allowed setting.limit room, expandSource]
  have element (tag : String) (attrs : Attrs) (children : List Node) :
      expandElement { setting with limit := limit } deeper (place.inner []) tag attrs children e =
        expandElement setting deeper (place.inner []) tag attrs children e := by
    simp only [expandElement, use, expandLoop_limit, expandSwitch, expandDynamic]
  simp only [expandNode, element, evaluateAttrs_limit, expandText]

end Guard

/-! ### The rounds of a loop -/

section Rounds

variable (setting : Setting V W) (place : Place V) (loop : Node) (items : V) (name : String)
  (inside : Place V → Expansion W (List Node))

/-- One round of a loop. The rounds from a position on are expanded by `later`. -/
def expandRound (later : Nat → Expansion W (List Node)) (position : Nat) :
    Expansion W (List Node) := do
  match ← compute place [loop] (setting.evaluator.member? items position) with
  | none => return []
  | some v =>
    if loop.children.all Store.isCopyable then
      let body ← apart (fun _ => [loop]) (inside (place.inner [(name, v)]))
      let more ← later (position + 1)
      return body ++ more
    else stop place [loop] .uncopyable

/-- The round for a position starts in this state, in a loop that starts in `s`. -/
inductive RoundStarts (s : State W) : Nat → State W → Prop
  | first : RoundStarts s 0 s
  | next {position : Nat} {v : V} {body : List Node} {t t₁ t₂ : State W}
      (start : RoundStarts s position t)
      (member : Ends (compute place [loop] (setting.evaluator.member? items position)) t (some v) t₁)
      (round : Ends (apart (fun _ => [loop]) (inside (place.inner [(name, v)]))) t₁ body t₂) :
      RoundStarts s (position + 1) t₂

/-- A loop that starts in `s` goes over a sequence that ends: in no state in which a round starts
does it have members from a position on. -/
def FiniteLoop (s : State W) (bound : Nat) : Prop :=
  ∀ position t, RoundStarts setting place loop items name inside s position t → bound ≤ position →
    ∀ v w, ¬ Ends (setting.evaluator.member? items position) t.world (some v) w

variable {setting place loop items name inside}

/-- What a round does depends on the rounds after it only where it comes to its end. -/
theorem expandRound_congr {later later' : Nat → Expansion W (List Node)} {position : Nat}
    {t : State W}
    (same : ∀ v body t₁ t₂,
      Ends (compute place [loop] (setting.evaluator.member? items position)) t (some v) t₁ →
      Ends (apart (fun _ => [loop]) (inside (place.inner [(name, v)]))) t₁ body t₂ →
      later (position + 1) t₂ = later' (position + 1) t₂) :
    expandRound setting place loop items name inside later position t =
      expandRound setting place loop items name inside later' position t := by
  refine bind_congr_of_ends fun v? t₁ member => ?_
  cases v? with
  | none => rfl
  | some v =>
    dsimp only
    split
    · exact bind_congr_of_ends fun body t₂ round =>
        bind_congr_start (same v body t₁ t₂ member round) _
    · rfl

/-- A sequence that has no members from a position on, in whatever state, makes every loop finite. -/
theorem finiteLoop_of_noMember {bound : Nat} (s : State W)
    (noMember : ∀ position, bound ≤ position → ∀ w v w',
      ¬ Ends (setting.evaluator.member? items position) w (some v) w') :
    FiniteLoop setting place loop items name inside s bound :=
  fun position t _ past v w => noMember position past t.world v w

/-- A loop over a sequence that ends does not depend on what would come after its last round. -/
theorem iterate_expandRound {s : State W} {bound : Nat}
    (finite : FiniteLoop setting place loop items name inside s bound)
    (after : Nat → Expansion W (List Node)) (rounds : Nat) : ∀ position t,
      RoundStarts setting place loop items name inside s position t → bound ≤ rounds + position →
      (expandRound setting place loop items name inside)^[rounds + 1] after position t =
        expandRounds setting place loop items name inside (rounds + 1) position t := by
  induction rounds with
  | zero =>
    intro position t start enough
    refine expandRound_congr fun v body t₁ t₂ member _ => ?_
    obtain ⟨w, member, -⟩ := ends_compute_iff.1 member
    exact absurd member (finite position t start (by omega) v w)
  | succ rounds ih =>
    intro position t start enough
    rw [Function.iterate_succ_apply']
    exact expandRound_congr fun v body t₁ t₂ member round =>
      ih (position + 1) t₂ (start.next member round) (by omega)

end Rounds

/-! ### Expansion ends -/

/-- Expansion is the one solution of the recursion from component to component at places where no
more components are being expanded than may be; whatever a solution does at other places is never
asked for, and wherever expansion stops no more are being expanded. A loop over a sequence that ends
never asks for more rounds than it is allowed. A use that is met when as many components are being
expanded as may be stops with a diagnostic that names just these; for what is met before that, the
limit plays no role. -/
theorem expand_ends_within_limit {setting : Setting V W} (positive : 1 ≤ setting.limit.value) :
    let most := setting.limit.value.toNat
    (∃ F, Solves setting F ∧ StopsInLimit setting F ∧
      (∀ F', Solves setting F' → ∀ place forest, place.stack.length ≤ most →
        F' place forest = F place forest) ∧
      ∀ scope forest, expand setting scope forest = whole (F { scope := scope } forest)) ∧
    (∀ place loop items name inside s length,
      setting.evaluator.length? items s.world = some length →
      FiniteLoop setting place loop items name inside s (length + growthLimit) → ∀ after,
        (expandRound setting place loop items name inside)^[length + growthLimit + 1] after 0 s =
          expandRounds setting place loop items name inside (length + growthLimit + 1) 0 s) ∧
    ∀ (deeper : ForestExpansion V W) place e,
      (place.stack.length = most → ∀ u s s₁, Meets setting place e u s s₁ →
        let d := Fault.diagnostic (depthProblem setting.limit place.stack u.name)
        @Eq (Except Stop (List Node) × State W) (expandNode setting deeper place e s)
            (.error ⟨d, place.stack, u.node u.attrs u.children⟩, s₁) ∧
          ∀ outer, d.attach outer = d) ∧
      (place.stack.length < most → ∀ limit : DepthLimit, place.stack.length < limit.value →
        expandNode { setting with limit := limit } deeper place e =
          expandNode setting deeper place e) := by
  intro most
  refine ⟨⟨expandLevelsLeft setting, solves_expandLevelsLeft, ?_, ?_, expand_eq_expandLevelsLeft⟩,
    ?_, fun deeper place e => ⟨fun full u s s₁ meets => ⟨?_, ?_⟩, fun room limit room' => ?_⟩⟩
  · exact fun place forest allowed => stopsInLimit_expandLevels _ place forest allowed
  · exact fun F solves place forest allowed =>
      eq_expandLevels_of_solves solves _ place forest allowed (by omega)
  · exact fun place loop items name inside s length _ finite after =>
      iterate_expandRound finite after (length + growthLimit) 0 s .first (by omega)
  · exact expandNode_of_full deeper meets (by omega)
  · refine attach_depthProblem setting.limit u.name (fun empty => ?_)
    rw [empty] at full
    simp only [List.length_nil] at full
    omega
  · exact expandNode_limit deeper (by omega) limit room'

/-- Templates in the language of names, with at most two components inside each other. -/
def shallowSetting : Setting NameValue NameState := { nameSetting with limit := .count 2 }

/-- A use of a component without attributes and content. -/
def loopElement : Expandable NameValue NameState where
  node := .element "x-loop" [] []
  inside := fun _ => return []
  insideChild := fun _ _ => return []

/-- A component that is used in its own source is not opened more than twice, and loops over rows of
texts end. -/
theorem expand_ends_within_limit_loop :
    1 ≤ shallowSetting.limit.value ∧
      (∃ F, Solves shallowSetting F ∧ StopsInLimit shallowSetting F ∧ ∀ scope forest,
        expand shallowSetting scope forest = whole (F { scope := scope } forest)) ∧
      (∀ place loop texts name inside s after,
        (expandRound shallowSetting place loop (.row texts) name inside)^[
            texts.length + growthLimit + 1] after 0 s =
          expandRounds shallowSetting place loop (.row texts) name inside
            (texts.length + growthLimit + 1) 0 s) ∧
      ∀ deeper (place : Place NameValue) s, place.stack = ["loop", "loop"] → ∃ stop,
        @Eq (Except Stop (List Node) × State NameState)
            (expandNode shallowSetting deeper place loopElement s) (.error stop, s) ∧
          stop.stack = ["loop", "loop"] := by
  have positive : 1 ≤ shallowSetting.limit.value := by decide
  obtain ⟨⟨F, solves, stops, -, runs⟩, loops, guard⟩ := expand_ends_within_limit positive
  refine ⟨positive, ⟨F, solves, stops, runs⟩, fun place loop texts name inside s after => ?_,
    fun deeper place s here => ?_⟩
  · refine loops place loop (.row texts) name inside s texts.length rfl ?_ after
    refine finiteLoop_of_noMember s fun position past w v w' member => ?_
    have beyond : texts[position]? = none := List.getElem?_eq_none (by omega)
    change Ends (pure (texts[position]?.map NameValue.text)) w (some v) w' at member
    rw [beyond] at member
    cases (ends_pure_iff.1 member).1
  · have meets : Meets shallowSetting place loopElement ⟨"x-loop", [], [], "loop"⟩ s s :=
      ⟨"x-loop", [], [], [], rfl, by decide, by decide +kernel, ends_pure_iff.2 ⟨rfl, rfl⟩, rfl⟩
    have full : place.stack.length = shallowSetting.limit.value.toNat := by
      rw [here]
      decide
    exact ⟨_, ((guard deeper place loopElement).1 full _ s s meets).1, here⟩

end HtmlTemplate.Expand
