import HtmlTemplate.Proofs.NameLanguage
import HtmlTemplate.Proofs.Weight

/-!
# Expanding what is expanded

A forest is `AtRest` when it has no constructs and no evaluated attributes, and all its texts stand
for themselves. Forests that refer to no components come out of their expansion as they were exactly
when they are at rest (`expand_fixed_iff`); `expand_again_iff` says what this means for the result
of an expansion.
-/

namespace HtmlTemplate.Expand

open HtmlTemplate.Markup HtmlTemplate.Component Expansion

variable {V W : Type} {setting : Setting V W} {scope : Scope V}

/-- Replacing the expressions in a text gives the same text. -/
def StandsForItself (setting : Setting V W) (scope : Scope V) (data : String) : Prop :=
  ∀ w, ∃ texts w', Ends (pieceTexts setting.evaluator scope
    (setting.options.contentPattern.pieces data)) w texts w' ∧ String.join texts = data

/-- Expansion finds nothing to do in a forest. -/
def AtRest (setting : Setting V W) (scope : Scope V) (forest : List Node) : Prop :=
  Inert setting.options forest ∧
    ∀ data, .text data ∈ seenAmong forest → StandsForItself setting scope data

section AtRest

theorem atRest_nil : AtRest setting scope [] :=
  ⟨inert_nil, fun _ h => absurd h List.not_mem_nil⟩

theorem atRest_cons_iff {n : Node} {ns : List Node} :
    AtRest setting scope (n :: ns) ↔ AtRest setting scope [n] ∧ AtRest setting scope ns := by
  unfold AtRest
  rw [inert_cons_iff]
  simp only [seenAmong, List.append_nil, List.mem_append, or_imp, forall_and]
  exact and_and_and_comm

theorem atRest_text_iff {data : String} :
    AtRest setting scope [.text data] ↔ StandsForItself setting scope data :=
  ⟨fun h => h.2 data (by simp [seenAmong, seenIn]),
    fun h => ⟨inert_leaf rfl, by simpa [seenAmong, seenIn] using h⟩⟩

theorem atRest_element_iff {tag : String} {attrs : Attrs} {cs : List Node} :
    AtRest setting scope [.element tag attrs cs] ↔ (isConstruct setting.options tag = false ∧
      ∀ name ∈ Bindings.names attrs, evaluatedName? setting.options.evalMarker name = none) ∧
        AtRest setting scope cs := by
  simp only [AtRest, inert_element_iff, seenAmong, seenIn, List.append_nil, List.mem_cons,
    reduceCtorEq, false_or, and_assoc]

end AtRest

/-! ### Texts and attributes -/

/-- What the expressions of a text come to depends on the visible bindings alone. -/
theorem pieceTexts_congr {calls : W → List String} {ev : Evaluator V W} (hev : ev.Pure calls)
    {scope scope' : Scope V} (visible : scope.flatten = scope'.flatten) (ps : List Text.Piece) :
    pieceTexts ev scope ps = pieceTexts ev scope' ps := by
  have evaluate (source : String) : ev.evaluate source scope = ev.evaluate source scope' := by
    obtain ⟨f, hf, -⟩ := hev.evaluate source
    rw [hf, hf, visible]
  induction ps with
  | nil => rfl
  | cons p ps ih =>
    cases p with
    | plain text => simp only [pieceTexts, pieceText, ih]
    | hit caught => simp only [pieceTexts, pieceText, evaluate, ih]

theorem evaluateAttrs_of_none {place : Place V} {around : Attrs → List Node} {names : List String}
    (h : ∀ name ∈ names, evaluatedName? setting.options.evalMarker name = none) (attrs : Attrs) :
    evaluateAttrs setting place around names attrs = pure attrs := by
  induction names generalizing attrs with
  | nil => rfl
  | cons name names ih =>
    rw [evaluateAttrs, h name List.mem_cons_self]
    exact ih (fun n hn => h n (List.mem_cons_of_mem name hn)) attrs

/-! ### Nodes -/

section Nodes

variable {calls : W → List String} {deeper : ForestExpansion V W}

/-- A node expands to one node, and to itself when it is at rest and only then. -/
structure Expandable.Rests (setting : Setting V W) (deeper : ForestExpansion V W) (scope : Scope V)
    (e : Expandable V W) : Prop where
  atRest : ∀ place : Place V, place.scope.flatten = scope.flatten → ∀ s nodes t,
    Ends (expandNode setting deeper place e) s nodes t →
      ∃ m, nodes = [m] ∧ (m = e.node → AtRest setting scope [e.node])
  kept : AtRest setting scope [e.node] → ∀ place : Place V,
    place.scope.flatten = scope.flatten → ∀ s, ∃ t,
      Ends (expandNode setting deeper place e) s [e.node] t

theorem rests_text (hev : setting.evaluator.Pure calls) {e : Expandable V W} {data : String}
    (hnode : e.node = .text data) : e.Rests setting deeper scope := by
  constructor
  · intro place visible s nodes t run
    unfold expandNode at run
    rw [hnode] at run ⊢
    obtain ⟨texts, s₁, hcompute, hpure⟩ := ends_bind_iff.1 run
    obtain ⟨w, hw, rfl⟩ := ends_compute_iff.1 hcompute
    obtain ⟨rfl, rfl⟩ := ends_pure_iff.1 hpure
    refine ⟨.text (String.join texts), rfl, fun same => atRest_text_iff.2 fun w₀ => ?_⟩
    rw [pieceTexts_congr hev visible] at hw
    obtain ⟨w', _, hw', -⟩ :=
      (stable_compositional hev).pieceTexts scope _ s.world w₀ texts w rfl hw
    exact ⟨texts, w', hw', Node.text.inj same⟩
  · intro rest place visible s
    unfold expandNode
    rw [hnode] at rest ⊢
    obtain ⟨texts, w, hw, hdata⟩ := atRest_text_iff.1 rest s.world
    rw [← pieceTexts_congr hev visible] at hw
    have same : [Node.text (String.join texts)] = [.text data] := by rw [hdata]
    exact ⟨_, ends_bind_iff.2 ⟨texts, _, ends_compute_iff.2 ⟨w, hw, rfl⟩,
      ends_pure_iff.2 ⟨same, rfl⟩⟩⟩

theorem rests_leaf (hev : setting.evaluator.Pure calls) {e : Expandable V W}
    (leaf : e.node.tag? = none) : e.Rests setting deeper scope := by
  cases hnode : e.node with
  | text data => exact rests_text hev hnode
  | element tag attrs cs => simp [hnode, Node.tag?] at leaf
  | _ =>
    constructor
    · intro place _ s nodes t run
      unfold expandNode at run
      rw [hnode] at run ⊢
      obtain ⟨rfl, rfl⟩ := ends_pure_iff.1 run
      exact ⟨_, rfl, fun _ => ⟨inert_leaf rfl, by simp [seenAmong, seenIn]⟩⟩
    · intro _ place _ s
      unfold expandNode
      rw [hnode]
      exact ⟨s, ends_pure_iff.2 ⟨rfl, rfl⟩⟩

/-! ### Rows of single nodes -/

theorem atRest_of_ends_singles {es : List (Expandable V W)}
    (hes : ∀ e ∈ es, e.Rests setting deeper scope) {place : Place V}
    (visible : place.scope.flatten = scope.flatten) :
    ∀ {s t : State W}, Ends (expandItems setting.options (expandItem setting deeper place)
      (es.map .single)) s (es.map Expandable.node) t →
        AtRest setting scope (es.map Expandable.node) := by
  induction es with
  | nil => exact fun _ => atRest_nil
  | cons e es ih =>
    intro s t run
    obtain ⟨placed, s₁, hwithin, run⟩ := ends_bind_iff.1 run
    obtain ⟨more, s₂, hlater, hpure⟩ := ends_bind_iff.1 run
    obtain ⟨hnodes, -⟩ := ends_pure_iff.1 hpure
    obtain ⟨s₃, hfirst, -⟩ := ends_within_iff.1 hwithin
    obtain ⟨placed', s₄, hplaced, hnote⟩ := ends_bind_iff.1 hfirst
    obtain ⟨_, s₅, -, hsame⟩ := ends_bind_iff.1 hnote
    obtain ⟨rfl, -⟩ := ends_pure_iff.1 hsame
    obtain ⟨s₆, hmore, -⟩ := ends_within_iff.1 hlater
    obtain ⟨m, rfl, here⟩ := (hes e List.mem_cons_self).atRest place visible _ _ _ hplaced
    obtain ⟨hm, rfl⟩ := List.cons.inj hnodes
    exact atRest_cons_iff.2
      ⟨here hm, ih (fun e' he => hes e' (List.mem_cons_of_mem e he)) hmore⟩

theorem exists_ends_singles {es : List (Expandable V W)}
    (hes : ∀ e ∈ es, e.Rests setting deeper scope) {place : Place V}
    (visible : place.scope.flatten = scope.flatten)
    (rest : AtRest setting scope (es.map Expandable.node)) : ∀ s : State W, ∃ t,
      Ends (expandItems setting.options (expandItem setting deeper place) (es.map .single)) s
        (es.map Expandable.node) t := by
  induction es with
  | nil => exact fun s => ⟨s, ends_pure_iff.2 ⟨rfl, rfl⟩⟩
  | cons e es ih =>
    intro s
    obtain ⟨hn, hns⟩ := atRest_cons_iff.1 rest
    obtain ⟨s₁, here⟩ :=
      (hes e List.mem_cons_self).kept hn place visible { s with notes := [] }
    obtain ⟨s₂, noted⟩ := exists_ends_noteStep setting.options [e.node] s₁
    have first : Ends (do
        let placed ← expandNode setting deeper place e
        noteStep setting.options placed
        return placed) { s with notes := [] } [e.node] s₂ :=
      ends_bind_iff.2
        ⟨[e.node], s₁, here, ends_bind_iff.2 ⟨(), s₂, noted, ends_pure_iff.2 ⟨rfl, rfl⟩⟩⟩
    obtain ⟨s₃, there⟩ :=
      ih (fun e' he => hes e' (List.mem_cons_of_mem e he)) hns { s₂ with notes := [] }
    exact ⟨_, ends_bind_iff.2 ⟨[e.node], _, ends_within_iff.2 ⟨s₂, first, rfl⟩, ends_bind_iff.2
      ⟨es.map Expandable.node, _, ends_within_iff.2 ⟨s₃, there, rfl⟩, ends_pure_iff.2 ⟨rfl, rfl⟩⟩⟩⟩

/-- In a forest without constructs every node stands alone. -/
theorem rowOf_expandables {row : Place V → List (Expandable V W) → Expansion W (List Node)}
    {ns : List Node} (inert : Inert setting.options ns) :
    rowOf (expandables row ns) = (expandables row ns).map .single := by
  refine rowOf_of_hasTag_if fun e he => ?_
  have here := inert.of_mem (mem_of_mem_expandables he)
  cases hnode : e.node with
  | element tag attrs cs =>
    rw [hnode] at here
    have htag := (inert_element_iff.1 here).1.1
    simp only [isConstruct, Bool.or_eq_false_iff] at htag
    simpa [Node.hasTag, Node.tag?] using htag.1.1.1.1.1.1
  | _ => rfl

/-- A forest without constructs comes out of its expansion as it was when it is at rest and only
then, if that is so of its nodes. -/
theorem expandRow_fixed_iff {row : Place V → List (Expandable V W) → Expansion W (List Node)}
    {ns : List Node} (inert : Inert setting.options ns)
    (hes : ∀ e ∈ expandables row ns, e.Rests setting deeper scope) (place : Place V)
    (visible : place.scope.flatten = scope.flatten) (s : State W) :
    (∃ t, Ends (expandRow setting deeper place (expandables row ns)) s ns t) ↔
      AtRest setting scope ns := by
  have single : expandRow setting deeper place (expandables row ns) = expandItems setting.options
      (expandItem setting deeper place) ((expandables row ns).map .single) := by
    rw [← rowOf_expandables inert]
    rfl
  have atRest (t : State W) := atRest_of_ends_singles hes visible (s := s) (t := t)
  have kept := exists_ends_singles hes visible
  rw [nodes_expandables] at atRest kept
  rw [single]
  exact ⟨fun ⟨t, run⟩ => atRest t run, fun rest => kept rest s⟩

/-- All nodes of a forest without constructs are at rest exactly when they are kept. -/
theorem rests_expandables (hev : setting.evaluator.Pure calls) {ns : List Node}
    (inert : Inert setting.options ns) :
    ∀ e ∈ expandables (expandRow setting deeper) ns, e.Rests setting deeper scope := by
  have key : ∀ e ∈ expandables (expandRow setting deeper) ns,
      Inert setting.options [e.node] → e.Rests setting deeper scope := by
    refine expandables_induct (fun n leaf _ => rests_leaf hev leaf)
      (fun tag attrs cs ih hinert => ?_) ns
    obtain ⟨⟨htag, hnames⟩, hcs⟩ := inert_element_iff.1 hinert
    have hes : ∀ e ∈ expandables (expandRow setting deeper) cs, e.Rests setting deeper scope :=
      fun e he => ih e he (hcs.of_mem (mem_of_mem_expandables he))
    have plain (place : Place V) : expandNode setting deeper place
        (expandable (expandRow setting deeper) (.element tag attrs cs)) = (do
          let cs ← within (fun cs => [.element tag attrs cs])
            (expandRow setting deeper (place.inner []) (expandables (expandRow setting deeper) cs))
          return [.element tag attrs cs]) := by
      rw [expandNode, node_expandable]
      dsimp only
      rw [evaluateAttrs_of_none hnames, pure_bind, expandElement_of_plain htag]
      rfl
    constructor
    · intro place visible s nodes t run
      rw [plain] at run
      obtain ⟨cs', s₁, hwithin, hpure⟩ := ends_bind_iff.1 run
      obtain ⟨rfl, rfl⟩ := ends_pure_iff.1 hpure
      obtain ⟨s₂, hinside, -⟩ := ends_within_iff.1 hwithin
      refine ⟨.element tag attrs cs', rfl, fun same => atRest_element_iff.2 ⟨⟨htag, hnames⟩, ?_⟩⟩
      obtain ⟨-, -, rfl⟩ := Node.element.inj same
      exact (expandRow_fixed_iff hcs hes (place.inner []) visible _).1 ⟨s₂, hinside⟩
    · intro rest place visible s
      rw [plain]
      obtain ⟨t, inside⟩ := (expandRow_fixed_iff hcs hes (place.inner []) visible
        { s with notes := [] }).2 (atRest_element_iff.1 rest).2
      exact ⟨_, ends_bind_iff.2
        ⟨cs, _, ends_within_iff.2 ⟨t, inside, rfl⟩, ends_pure_iff.2 ⟨rfl, rfl⟩⟩⟩
  exact fun e he => key e he (inert.of_mem (mem_of_mem_expandables he))

end Nodes

/-! ### Expanding again -/

/-- Forests without uses that expansion leaves as they are are those at rest. -/
theorem expand_fixed_iff {calls : W → List String} (hev : setting.evaluator.Pure calls)
    {forest : List Node} (free : UseFree setting.options forest) (s : State W) :
    (∃ t, Ends (expand setting scope forest) s forest t) ↔ AtRest setting scope forest := by
  have fixed (inert : Inert setting.options forest) :
      (∃ t, Ends (expandLevels setting (setting.limit.value.toNat + 1) { scope := scope } forest)
        { s with notes := [] } forest t) ↔ AtRest setting scope forest :=
    expandRow_fixed_iff inert (rests_expandables hev inert) { scope := scope } rfl _
  constructor
  · rintro ⟨t, run⟩
    obtain ⟨s₁, levels, -⟩ := ends_whole_iff.1 run
    exact (fixed (inert_of_ends_expandLevels free levels)).1 ⟨s₁, levels⟩
  · intro rest
    obtain ⟨t, levels⟩ := (fixed rest.1).2 rest
    exact ⟨_, ends_whole_iff.2 ⟨t, levels, rfl⟩⟩

/-- A forest with uses need not be at rest for that: the tree of this component is a use of it. -/
example :
    let start := nameStart [("a", "<dynamic tag=\"t\"></dynamic>")]
    (expand nameSetting (.root [("t", .text "x-a")]) [.element "x-a" [] []] start).1.toOption =
      some [.element "x-a" [] []] := by
  decide +kernel

/-- The result of an expansion has no constructs but those that the value of an expression names
which was evaluated on the way. If it refers to no components, expanding it again leaves it as it is
exactly when it is at rest: when no construct is left over, no attribute is to be evaluated, and
every text in it, the values that were put into texts included, stands for itself. -/
theorem expand_again_iff {calls : W → List String} (hev : setting.evaluator.Pure calls)
    (hrec : setting.evaluator.Records calls) {forest result : List Node} {s t : State W}
    (run : Ends (expand setting scope forest) s result t) :
    (∃ told, calls t.world = calls s.world ++ told ∧ OnlyNamed setting told result) ∧
      (UseFree setting.options result → ∀ s' : State W,
        (∃ t', Ends (expand setting scope result) s' result t') ↔ AtRest setting scope result) :=
  ⟨leavesNamed_expand hev hrec scope forest s result t run,
    fun free s' => expand_fixed_iff hev free s'⟩

theorem expand_again_iff_names :
    let scope : Scope NameValue := .root [("v", .text "x")]
    let first := expand nameSetting scope [.text "%%v%%"]
    nameLanguage.Pure NameState.calls ∧ nameLanguage.Records NameState.calls ∧
      Ends first (nameStart []) [.text "x"] (first (nameStart [])).2 ∧
      UseFree nameOptions [.text "x"] ∧
      ∀ s', (∃ t', Ends (expand nameSetting scope [.text "x"]) s' [.text "x"] t') ↔
        AtRest nameSetting scope [.text "x"] := by
  intro scope first
  have run : Ends first (nameStart []) [.text "x"] (first (nameStart [])).2 :=
    ends_of_toOption (by decide +kernel)
  have free : UseFree nameOptions [.text "x"] := tags_leaf rfl
  exact ⟨nameLanguage_pure, nameLanguage_records, run, free,
    (expand_again_iff nameLanguage_pure nameLanguage_records run).2 free⟩

/-- A value that reads as an expression is put into a text as it is, and is an expression the next
time. -/
theorem value_expanded_again :
    let scope : Scope NameValue := .root [("v", .text "%%w%%"), ("w", .text "x")]
    (expand nameSetting scope [.text "%%v%%"] (nameStart [])).1.toOption =
        some [.text "%%w%%"] ∧
      (expand nameSetting scope [.text "%%w%%"] (nameStart [])).1.toOption = some [.text "x"] := by
  decide +kernel

end HtmlTemplate.Expand
