import HtmlTemplate.Proofs.NameLanguage
import HtmlTemplate.Proofs.Unnoted

/-!
# Chains of branches

A chain is a condition with further branches, between which stand comments and blank texts. Among
any siblings it makes one item of their row (`rowOf_chain`). `Decides` tells how a branch is
chosen: the conditions are evaluated in order, each of them once, until one holds. Of a chain the
content of the chosen branch is left, with all that stood between the branches, and the row goes on
with what follows the last branch (`expandLevels_chain`).
-/

namespace HtmlTemplate.Expand

open HtmlTemplate.Markup Expansion

variable {V W : Type}

/-! ### The shape of a chain -/

/-- A further branch with the nodes between it and the branch before it. -/
structure Further where
  gap : List Node
  branch : Node

/-- The nodes of further branches, with those between them. -/
def chainNodes (rest : List Further) : List Node := rest.flatMap fun l => l.gap ++ [l.branch]

/-- Further branches that belong together, and what follows them does not. -/
structure IsChain (rest : List Further) (post : List Node) : Prop where
  gaps : ∀ l ∈ rest, ∀ n ∈ l.gap, isGap n = true
  branches : ∀ l ∈ rest, isBranch l.branch = true
  /-- Only the last branch may be there for all other cases. -/
  inner : ∀ l ∈ rest.dropLast, l.branch.hasTag "else" = false
  closed : (∃ l ∈ rest.getLast?, l.branch.hasTag "else" = true) ∨ BeginsApart post

theorem hasTag_of_isGap {n : Node} (h : isGap n = true) (tag : String) : n.hasTag tag = false := by
  cases n with
  | text data => rfl
  | comment data => rfl
  | _ => cases h

theorem isGap_of_isBranch {n : Node} (h : isBranch n = true) : isGap n = false := by
  cases n with
  | element tag attrs cs => rfl
  | _ => cases h

theorem hasTag_if_of_isBranch {n : Node} (h : isBranch n = true) : n.hasTag "if" = false := by
  cases n with
  | element tag attrs cs =>
    have tags : tag = "elseif" ∨ tag = "else" := by simpa [isBranch, Node.hasTag, Node.tag?] using h
    rcases tags with rfl | rfl <;> rfl
  | _ => cases h

section Shape

variable {row : Place V → List (Expandable V W) → Expansion W (List Node)} {rest : List Further}
  {post : List Node}

/-- A further branch with the expansion of what is inside it. -/
def Further.link (row : Place V → List (Expandable V W) → Expansion W (List Node)) (l : Further) :
    Link V W := ⟨l.gap, expandable row l.branch⟩

variable (row) in
theorem linkNodes_map_link (rest : List Further) :
    linkNodes (rest.map (Further.link row)) = chainNodes rest := by
  simp [linkNodes, chainNodes, List.flatMap_map, Further.link, node_expandable]

theorem takeLinks_rowOf_gap {gap : List Node} (hgap : ∀ n ∈ gap, isGap n = true)
    (before : List Node) (es : List (Expandable V W)) :
    takeLinks before (rowOf (expandables row gap ++ es)) =
      takeLinks (before ++ gap) (rowOf es) := by
  induction gap generalizing before with
  | nil => rw [List.append_nil]; rfl
  | cons n gap ih =>
    have here := hgap n List.mem_cons_self
    rw [expandables, List.cons_append, rowOf, node_expandable, hasTag_of_isGap here]
    simp only [Bool.false_eq_true, if_false]
    rw [takeLinks, node_expandable, if_pos here, ih fun m hm => hgap m (List.mem_cons_of_mem n hm)]
    simp

/-- All branches of a chain are taken off the row, and nothing else. -/
theorem takeLinks_chain (some : rest ≠ []) (chain : IsChain rest post) :
    takeLinks [] (rowOf (expandables row (chainNodes rest ++ post))) =
      .some (rest.map (Further.link row), rowOf (expandables row post)) := by
  induction rest with
  | nil => exact absurd rfl some
  | cons l rest ih =>
    have branch := chain.branches l List.mem_cons_self
    have nodes : chainNodes (l :: rest) ++ post =
        l.gap ++ l.branch :: (chainNodes rest ++ post) := by
      simp [chainNodes]
    rw [nodes, expandables_append, takeLinks_rowOf_gap (chain.gaps l List.mem_cons_self),
      expandables, rowOf, node_expandable, hasTag_if_of_isBranch branch]
    simp only [Bool.false_eq_true, if_false]
    rw [takeLinks, node_expandable, isGap_of_isBranch branch, branch]
    simp only [Bool.false_eq_true, if_false, if_true, List.nil_append]
    by_cases last : rest = []
    · subst last
      by_cases other : l.branch.hasTag "else" = true
      · rw [if_pos other]
        rfl
      · have apart : BeginsApart ((expandables row post).map Expandable.node) := by
          rw [nodes_expandables]
          refine chain.closed.resolve_left ?_
          rintro ⟨l', hl, other'⟩
          obtain rfl := Option.some.inj hl
          exact other other'
        rw [if_neg other]
        simp only [chainNodes, List.flatMap_nil, List.nil_append]
        rw [takeLinks_rowOf_of_beginsApart _ apart]
        rfl
    · obtain ⟨l', rest, rfl⟩ := List.exists_cons_of_ne_nil last
      have later : IsChain (l' :: rest) post :=
        ⟨fun m hm => chain.gaps m (List.mem_cons_of_mem l hm),
          fun m hm => chain.branches m (List.mem_cons_of_mem l hm),
          fun m hm => chain.inner m (List.mem_cons_of_mem l hm), chain.closed⟩
      rw [if_neg (by simp [chain.inner l List.mem_cons_self]), ih last later]
      rfl

/-- A chain among siblings is one item of their row. -/
theorem rowOf_chain {first : Node} (hfirst : first.hasTag "if" = true) (chain : IsChain rest post)
    (pre : List Node) : rowOf (expandables row (pre ++ first :: (chainNodes rest ++ post))) =
      rowOf (expandables row pre) ++
        .chain (expandable row first) (rest.map (Further.link row)) ::
          rowOf (expandables row post) := by
  have apart : BeginsApart (first :: (chainNodes rest ++ post)) := by
    cases first with
    | element tag attrs cs =>
      obtain rfl : tag = "if" := by simpa [Node.hasTag, Node.tag?] using hfirst
      intro n hn
      obtain rfl := Option.some.inj hn
      rfl
    | _ => cases hfirst
  rw [expandables_append, rowOf_append _ _ (by rwa [nodes_expandables]), expandables, rowOf,
    node_expandable, if_pos hfirst]
  by_cases none : rest = []
  · subst none
    have open? : BeginsApart post := chain.closed.resolve_left (by simp)
    have nothing := takeLinks_rowOf_of_beginsApart (expandables row post)
      (by rwa [nodes_expandables]) []
    simp only [chainNodes, List.flatMap_nil, List.nil_append, nothing]
    rfl
  · rw [takeLinks_chain none chain]

end Shape

/-! ### Choosing a branch -/

/-- How a branch is chosen in a scope: conditions are evaluated one after another, until one holds
or a branch comes that is there for all other cases. The result is the position of that branch, if
there is one, and the state of the evaluator then. -/
inductive Decides (ev : Evaluator V W) (scope : Scope V) :
    List Node → W → Except Fault (Option Nat) → W → Prop
  | exhausted (w) : Decides ev scope [] w (.ok none) w
  | otherwise {n ns w} (tag : n.hasTag "else" = true) :
      Decides ev scope (n :: ns) w (.ok (some 0)) w
  | holds {n ns w v w'} (tag : n.hasTag "else" = false)
    (run : Ends (ev.evaluate ((n.attrs.get? "condition").getD "") scope) w v w')
    (truth : ev.truth v w' = true) : Decides ev scope (n :: ns) w (.ok (some 0)) w'
  | later {n ns w v w' result w''} (tag : n.hasTag "else" = false)
    (run : Ends (ev.evaluate ((n.attrs.get? "condition").getD "") scope) w v w')
    (truth : ev.truth v w' = false) (rest : Decides ev scope ns w' result w'') :
    Decides ev scope (n :: ns) w (result.map fun k? => k?.map (· + 1)) w''
  | stops {n ns w fault w'} (tag : n.hasTag "else" = false)
    (run : Fails (ev.evaluate ((n.attrs.get? "condition").getD "") scope) w fault w') :
    Decides ev scope (n :: ns) w (.error fault) w'

namespace Decides

variable {ev : Evaluator V W} {scope : Scope V} {branches : List Node} {w w' : W}
  {result : Except Fault (Option Nat)}

/-- The position that is decided on is that of a branch. -/
theorem lt_length {k : Nat} (h : Decides ev scope branches w (.ok (some k)) w') :
    k < branches.length := by
  generalize hresult : (Except.ok (some k) : Except Fault (Option Nat)) = result at h
  induction h generalizing k with
  | exhausted w => cases hresult
  | otherwise tag =>
    cases hresult
    exact Nat.succ_pos _
  | holds tag run truth =>
    cases hresult
    exact Nat.succ_pos _
  | @later n ns w v w' result w'' tag run truth rest ih =>
    cases result with
    | error e => cases hresult
    | ok k? =>
      cases k? with
      | none => cases hresult
      | some j =>
        cases hresult
        exact Nat.succ_lt_succ (ih rfl)
  | stops tag run => cases hresult

/-- The choice of a branch runs as it is decided. -/
theorem run (h : Decides ev scope branches w result w') (index : Nat) :
    @Eq (Except Fault (Option Nat) × W) (chosenBranch? ev scope index branches w)
      (result.map fun k? => k?.map (index + ·), w') := by
  induction h generalizing index with
  | exhausted w => rfl
  | otherwise tag =>
    rw [chosenBranch?, if_pos tag]
    rfl
  | holds tag run truth =>
    rw [chosenBranch?, if_neg (by simp [tag])]
    refine (run_bind _ _ _).trans ?_
    rw [run]
    dsimp only
    rw [run_get_bind, if_pos truth]
    rfl
  | @later n ns w v w' result w'' tag run truth rest ih =>
    rw [chosenBranch?, if_neg (by simp [tag])]
    refine (run_bind _ _ _).trans ?_
    rw [run]
    dsimp only
    rw [run_get_bind, if_neg (by simp [truth]), ih]
    rcases result with e | k?
    · rfl
    · cases k? <;> simp [Except.map, Nat.add_assoc, Nat.add_comm 1]
  | stops tag run =>
    rw [chosenBranch?, if_neg (by simp [tag])]
    refine (run_bind _ _ _).trans ?_
    rw [run]
    rfl

/-- In every state it is decided which branch is chosen, or that none is. -/
theorem exists_result (ev : Evaluator V W) (scope : Scope V) (branches : List Node) (w : W) :
    ∃ result w', Decides ev scope branches w result w' := by
  induction branches generalizing w with
  | nil => exact ⟨_, _, .exhausted w⟩
  | cons n ns ih =>
    cases tag : n.hasTag "else" with
    | true => exact ⟨_, _, .otherwise tag⟩
    | false =>
      rcases run : (ev.evaluate ((n.attrs.get? "condition").getD "") scope w :
        Except Fault V × W) with ⟨e | v, w'⟩
      · exact ⟨_, _, .stops tag run⟩
      · cases truth : ev.truth v w' with
        | true => exact ⟨_, _, .holds tag run truth⟩
        | false =>
          obtain ⟨result, w'', rest⟩ := ih w'
          exact ⟨_, _, .later tag run truth rest⟩

end Decides

/-! ### Expanding a chain -/

section Chain

variable {setting : Setting V W} {place : Place V} {first : Expandable V W}
  {links : List (Link V W)} {s : State W}

/-- The branches of a chain. -/
def branchNodes (first : Expandable V W) (links : List (Link V W)) : List Node :=
  (first :: links.map Link.branch).map Expandable.node

/-- Without its condition no branch is chosen. -/
theorem fails_expandChain_of_lacking {b : Node}
    (h : (branchNodes first links).find? lacksCondition = some b) :
    Fails (expandChain setting place first links) s
      ⟨.ofProblem (.missingAttribute (b.tag?.getD "") ["condition"]), place.stack,
        first.node :: linkNodes links⟩ s := by
  rw [branchNodes, List.find?_map, Option.map_eq_some_iff] at h
  obtain ⟨e, found, rfl⟩ := h
  have found : (first :: links.map Link.branch).find? (fun b => lacksCondition b.node) = some e :=
    found
  rw [expandChain]
  simp only [found]
  rfl

theorem ends_chosen {w : W} {k? : Option Nat}
    (h : Decides setting.evaluator place.scope (branchNodes first links) s.world (.ok k?) w) :
    Ends (compute place (first.node :: linkNodes links)
      (chosenBranch? setting.evaluator place.scope 0 (branchNodes first links))) s k?
      { s with world := w } := by
  refine ends_compute_iff.2 ⟨w, (h.run 0).trans ?_, rfl⟩
  cases k? <;> simp [Except.map]

variable (complete : (branchNodes first links).find? lacksCondition = none)
include complete

/-- When all conditions are there, a branch is chosen first. -/
theorem expandChain_of_complete : expandChain setting place first links = (do
    let chosen? ← compute place (first.node :: linkNodes links)
      (chosenBranch? setting.evaluator place.scope 0 (branchNodes first links))
    match chosen?.bind fun k => ((first :: links.map Link.branch)[k]?).map (k, ·) with
    | none => return (gapsAround links 0).2
    | some (k, chosen) =>
      let body ← within (fun cs => (gapsAround links k).1 ++ withChildren chosen.node cs ::
        (gapsAround links k).2) (chosen.inside (place.inner []))
      return (gapsAround links k).1 ++ body ++ (gapsAround links k).2) := by
  rw [branchNodes, List.find?_map, Option.map_eq_none_iff] at complete
  have none : (first :: links.map Link.branch).find? (fun b => lacksCondition b.node) = .none :=
    complete
  rw [expandChain]
  simp only [none]
  rfl

theorem fails_expandChain_of_stop {w : W} {fault : Fault}
    (h : Decides setting.evaluator place.scope (branchNodes first links) s.world (.error fault) w) :
    Fails (expandChain setting place first links) s
      ⟨fault, place.stack, first.node :: linkNodes links⟩ { s with world := w } := by
  rw [expandChain_of_complete complete]
  exact fails_bind_iff.2 (.inl (fails_compute_iff.2 ⟨fault, w, h.run 0, rfl, rfl⟩))

/-- When no branch is chosen the gaps are left. -/
theorem ends_expandChain_of_none {w : W}
    (h : Decides setting.evaluator place.scope (branchNodes first links) s.world (.ok none) w) :
    Ends (expandChain setting place first links) s (gapsAround links 0).2
      { s with world := w } := by
  rw [expandChain_of_complete complete]
  exact ends_bind_iff.2 ⟨none, _, ends_chosen h, ends_pure_iff.2 ⟨rfl, rfl⟩⟩

variable {w : W} {k : Nat} {chosen : Expandable V W}
  (h : Decides setting.evaluator place.scope (branchNodes first links) s.world (.ok (some k)) w)
  (hchosen : (first :: links.map Link.branch)[k]? = some chosen)
  (hinside : Unnoted (chosen.inside (place.inner [])))
include h hchosen hinside

/-- When a branch is chosen its expanded content is left, with the gaps before and after it. -/
theorem ends_expandChain_of_some {body : List Node} {u : State W}
    (run : Ends (chosen.inside (place.inner [])) { s with world := w } body u) :
    ∃ t, Ends (expandChain setting place first links) s
      ((gapsAround links k).1 ++ body ++ (gapsAround links k).2) t ∧ t.Matches u := by
  obtain ⟨t, inner, kept⟩ := hinside.ends_within (f := fun cs => (gapsAround links k).1 ++
    withChildren chosen.node cs :: (gapsAround links k).2) (.refl _) run
  rw [expandChain_of_complete complete]
  refine ⟨t, ends_bind_iff.2 ⟨some k, _, ends_chosen h, ?_⟩, kept⟩
  simp only [Option.bind_some, hchosen, Option.map_some]
  exact ends_bind_iff.2 ⟨body, t, inner, ends_pure_iff.2 ⟨rfl, rfl⟩⟩

theorem fails_expandChain_of_some {stop : Stop} {u : State W}
    (run : Fails (chosen.inside (place.inner [])) { s with world := w } stop u) :
    ∃ t, Fails (expandChain setting place first links) s
      { stop with left := (gapsAround links k).1 ++ withChildren chosen.node stop.left ::
        (gapsAround links k).2 } t ∧ t.Matches u := by
  obtain ⟨t, inner, kept⟩ := hinside.fails_within (f := fun cs => (gapsAround links k).1 ++
    withChildren chosen.node cs :: (gapsAround links k).2) (.refl _) run
  rw [expandChain_of_complete complete]
  refine ⟨t, fails_bind_iff.2 (.inr ⟨some k, _, ends_chosen h, ?_⟩), kept⟩
  simp only [Option.bind_some, hchosen, Option.map_some]
  exact fails_bind_iff.2 (.inl inner)

end Chain

/-! ### Chains among siblings -/

section Siblings

variable {setting : Setting V W} {levels : Nat} {place : Place V} {pre post : List Node}
  {attrs attrs' : Attrs} {children : List Node} {rest : List Further} {s s₁ s₂ : State W}
  {placed : List Node}

/-- The condition at the head of a chain, with the expansion of its content, after its attributes
have been evaluated. -/
def headOf (setting : Setting V W) (levels : Nat) (attrs' : Attrs) (children : List Node) :
    Expandable V W :=
  expandable (expandRow setting (expandLevels setting levels)) (.element "if" attrs' children)

/-- The links of a chain, with the expansion of their content. -/
def linksOf (setting : Setting V W) (levels : Nat) (rest : List Further) : List (Link V W) :=
  rest.map (Further.link (expandRow setting (expandLevels setting levels)))

theorem branchNodes_linksOf : branchNodes (headOf setting levels attrs' children)
    (linksOf setting levels rest) = .element "if" attrs' children :: rest.map Further.branch := by
  simp [branchNodes, headOf, linksOf, Further.link, node_expandable, Function.comp_def]

theorem gapsAround_linksOf (k : Nat) : gapsAround (linksOf setting levels rest) k =
    ((rest.take k).flatMap Further.gap, (rest.drop k).flatMap Further.gap) := by
  simp [gapsAround, linksOf, ← List.map_take, ← List.map_drop, List.flatMap_def,
    Function.comp_def, Further.link]

variable (setting levels) in
/-- What is inside a branch is expanded as a forest of its own. -/
theorem exists_branch {k : Nat} {b : Node} (branches : ∀ l ∈ rest, isBranch l.branch = true)
    (hb : (.element "if" attrs' children :: rest.map Further.branch)[k]? = some b) :
    ∃ chosen, (headOf setting levels attrs' children ::
        (linksOf setting levels rest).map Link.branch)[k]? = some chosen ∧ chosen.node = b ∧
      ∀ place, chosen.inside place = expandLevels setting (levels + 1) place b.children := by
  cases k with
  | zero =>
    obtain rfl := Option.some.inj hb
    exact ⟨_, rfl, rfl, fun place => rfl⟩
  | succ k =>
    rw [List.getElem?_cons_succ, List.getElem?_map, Option.map_eq_some_iff] at hb
    obtain ⟨l, hl, rfl⟩ := hb
    have branch := branches l (List.mem_of_getElem? hl)
    let row := expandRow setting (expandLevels setting levels)
    refine ⟨expandable row l.branch, ?_, node_expandable row l.branch, fun place => ?_⟩
    · rw [List.getElem?_cons_succ, List.getElem?_map, linksOf, List.getElem?_map, hl]
      rfl
    · cases hnode : l.branch with
      | element tag attrs cs => rfl
      | _ => simp [hnode, isBranch, Node.hasTag, Node.tag?] at branch

/-- The item of a row that a chain is. -/
abbrev chainItem (setting : Setting V W) (levels : Nat) (attrs : Attrs) (children : List Node)
    (rest : List Further) : RowItem V W :=
  .chain (headOf setting levels attrs children) (linksOf setting levels rest)

variable (chain : IsChain rest post)
  (hpre : Ends (expandLevels setting (levels + 1) place pre) s placed s₁)
include chain hpre

/-- Siblings with a chain among them go on with what follows it after the chain. -/
theorem goesOn_of_ends_chain {nodes : List Node} {u : State W}
    (run : Ends (expandItem setting (expandLevels setting levels) place
      (chainItem setting levels attrs children rest)) s₁ nodes u) :
    GoesOn (expandLevels setting (levels + 1) place
        (pre ++ .element "if" attrs children :: (chainNodes rest ++ post))) s
      (placed ++ nodes) (expandLevels setting (levels + 1) place post) u :=
  goesOn_of_ends_item (rowOf_chain rfl chain pre) hpre run

/-- Siblings with a chain among them stop with it. -/
theorem fails_of_fails_chain {stop : Stop} {u : State W}
    (run : Fails (expandItem setting (expandLevels setting levels) place
      (chainItem setting levels attrs children rest)) s₁ stop u) :
    ∃ t, Fails (expandLevels setting (levels + 1) place
        (pre ++ .element "if" attrs children :: (chainNodes rest ++ post))) s
      { stop with left := placed ++ (stop.left ++ post) } t ∧ t.Matches u :=
  fails_of_fails_item (rowOf_chain rfl chain pre) hpre run

omit hpre chain in
/-- The head of a chain has its attributes evaluated before a branch is chosen. -/
theorem expandItem_chainItem (attrs : Attrs) : expandItem setting (expandLevels setting levels)
    place (chainItem setting levels attrs children rest) = (do
      let attrs' ← evaluateAttrs setting (place.inner [])
        (fun attrs => .element "if" attrs children :: chainNodes rest) attrs.names attrs
      expandChain setting (place.inner []) (headOf setting levels attrs' children)
        (linksOf setting levels rest)) := by
  rw [← linkNodes_map_link (expandRow setting (expandLevels setting levels)) rest]
  rfl

variable (hattrs : Ends (evaluateAttrs setting (place.inner [])
  (fun attrs => .element "if" attrs children :: chainNodes rest) attrs.names attrs) s₁ attrs' s₂)
include hattrs

theorem goesOn_of_ends_expandChain {nodes : List Node} {u : State W}
    (run : Ends (expandChain setting (place.inner []) (headOf setting levels attrs' children)
      (linksOf setting levels rest)) s₂ nodes u) :
    GoesOn (expandLevels setting (levels + 1) place
        (pre ++ .element "if" attrs children :: (chainNodes rest ++ post))) s
      (placed ++ nodes) (expandLevels setting (levels + 1) place post) u := by
  refine goesOn_of_ends_chain chain hpre ?_
  rw [expandItem_chainItem]
  exact ends_bind_iff.2 ⟨attrs', s₂, hattrs, run⟩

theorem fails_of_fails_expandChain {stop : Stop} {u : State W}
    (run : Fails (expandChain setting (place.inner []) (headOf setting levels attrs' children)
      (linksOf setting levels rest)) s₂ stop u) :
    ∃ t, Fails (expandLevels setting (levels + 1) place
        (pre ++ .element "if" attrs children :: (chainNodes rest ++ post))) s
      { stop with left := placed ++ (stop.left ++ post) } t ∧ t.Matches u := by
  refine fails_of_fails_chain chain hpre ?_
  rw [expandItem_chainItem]
  exact fails_bind_iff.2 (.inr ⟨attrs', s₂, hattrs, run⟩)

end Siblings

/-- Further branches with a blank text and a comment between them. -/
def gappedRest : List Further :=
  [⟨[.text " "], .element "elseif" [("condition", "b")] [.text "%%b%%"]⟩,
    ⟨[.comment "c"], .element "else" [] [.text "z"]⟩]

end HtmlTemplate.Expand
