import HtmlTemplate.Proofs.Rows
import HtmlTemplate.Proofs.Uses

/-!
# The levels of an expansion

`expandLevel` is one level of expansion: it leaves the trees of components to another expander. What
it does at a place depends on that expander only at places with one more component on the stack, and
not at all when the stack is full (`expandLevel_congr`). So the recursion of expansion, from level
to level, has one solution (`eq_expandLevels_of_solves`), and the levels that `expand` starts with
are enough.
-/

namespace HtmlTemplate.Expand

open HtmlTemplate.Markup Expansion

variable {V W : Type}

/-- One level of expansion. The trees of components are expanded by `deeper`. -/
def expandLevel (setting : Setting V W) (deeper : ForestExpansion V W) : ForestExpansion V W :=
  fun place forest =>
    expandRow setting deeper place (expandables (expandRow setting deeper) forest)

/-! ### Rows with other expansions inside -/

/-- A link with another branch. -/
def Link.map (g : Expandable V W → Expandable V W) (l : Link V W) : Link V W :=
  ⟨l.gap, g l.branch⟩

/-- An item with other parts. -/
def RowItem.map (g : Expandable V W → Expandable V W) : RowItem V W → RowItem V W
  | .single e => .single (g e)
  | .chain first links => .chain (g first) (links.map (Link.map g))

section Map

variable {g : Expandable V W → Expandable V W} (same : ∀ e, (g e).node = e.node)
include same

theorem takeLinks_map (row : List (RowItem V W)) : ∀ gap,
    takeLinks gap (row.map (RowItem.map g)) =
      (takeLinks gap row).map fun taken =>
        (taken.1.map (Link.map g), taken.2.map (RowItem.map g)) := by
  induction row with
  | nil => exact fun gap => rfl
  | cons i row ih =>
    intro gap
    cases i with
    | chain first links => rfl
    | single e =>
      rw [List.map_cons, RowItem.map, takeLinks, takeLinks, same, ih, ih]
      split
      · rfl
      · split
        · dsimp only
          split
          · rfl
          · cases takeLinks [] row <;> rfl
        · rfl

/-- Rows are made by what the nodes are alone. -/
theorem rowOf_map (es : List (Expandable V W)) :
    rowOf (es.map g) = (rowOf es).map (RowItem.map g) := by
  induction es with
  | nil => rfl
  | cons e es ih =>
    rw [List.map_cons, rowOf, rowOf, ih, same, takeLinks_map same]
    split
    · cases takeLinks [] (rowOf es) <;> rfl
    · rfl

theorem linkNodes_map (links : List (Link V W)) :
    linkNodes (links.map (Link.map g)) = linkNodes links := by
  simp [linkNodes, List.flatMap_map, Link.map, same]

theorem rowNodes_map (row : List (RowItem V W)) :
    rowNodes (row.map (RowItem.map g)) = rowNodes row := by
  have nodes (i : RowItem V W) : (i.map g).nodes = i.nodes := by
    cases i <;> simp [RowItem.map, RowItem.nodes, linkNodes_map same, same]
  simp [rowNodes, List.flatMap_map, nodes]

theorem expandItems_map (o : Options) {item : RowItem V W → Expansion W (List Node)}
    (kept : ∀ i, item (i.map g) = item i) (row : List (RowItem V W)) :
    expandItems o item (row.map (RowItem.map g)) = expandItems o item row := by
  induction row with
  | nil => rfl
  | cons i row ih => rw [List.map_cons, expandItems, expandItems, ih, kept, rowNodes_map same]

end Map

/-! ### Places with the same stack -/

/-- A node with the expansions of what is inside it at places with one stack; elsewhere there is
nothing in it. -/
def Expandable.atStack (stack : List String) (e : Expandable V W) : Expandable V W where
  node := e.node
  inside := fun place => if place.stack = stack then e.inside place else return []
  insideChild := fun k place => if place.stack = stack then e.insideChild k place else return []

@[simp]
theorem node_atStack (stack : List String) (e : Expandable V W) : (e.atStack stack).node = e.node :=
  rfl

variable (setting : Setting V W) (deeper : ForestExpansion V W)

theorem expandRounds_atStack (place : Place V) (loop : Node) (items : V) (name : String)
    (e : Expandable V W) (fuel : Nat) : ∀ position,
    expandRounds setting place loop items name (e.atStack place.stack).inside fuel position =
      expandRounds setting place loop items name e.inside fuel position := by
  induction fuel with
  | zero => exact fun position => rfl
  | succ fuel ih =>
    intro position
    simp only [expandRounds, ih]
    simp [Expandable.atStack, Place.inner]

theorem expandElement_atStack (place : Place V) (tag : String) (attrs : Attrs)
    (children : List Node) (e : Expandable V W) :
    expandElement setting deeper place tag attrs children (e.atStack place.stack) =
      expandElement setting deeper place tag attrs children e := by
  unfold expandElement expandSwitch expandLoop
  simp only [expandRounds_atStack]
  simp [Expandable.atStack]

theorem gapsAround_map (g : Expandable V W → Expandable V W) (links : List (Link V W))
    (index : Nat) : gapsAround (links.map (Link.map g)) index = gapsAround links index := by
  simp [gapsAround, ← List.map_take, ← List.map_drop, Link.map, Function.comp_def]

theorem expandChain_atStack (place : Place V) (first : Expandable V W) (links : List (Link V W)) :
    expandChain setting place (first.atStack place.stack)
        (links.map (Link.map (Expandable.atStack place.stack))) =
      expandChain setting place first links := by
  have branches : first.atStack place.stack ::
      (links.map (Link.map (Expandable.atStack place.stack))).map Link.branch =
        (first :: links.map Link.branch).map (Expandable.atStack place.stack) := by
    simp [Link.map, Function.comp_def]
  have nodes : ((first :: links.map Link.branch).map (Expandable.atStack place.stack)).map
      Expandable.node = (first :: links.map Link.branch).map Expandable.node := by
    simp
  unfold expandChain
  simp only [branches, nodes, List.find?_map, Function.comp_def, node_atStack,
    linkNodes_map (node_atStack place.stack), gapsAround_map]
  cases (first :: links.map Link.branch).find? fun b => lacksCondition b.node with
  | some b => rfl
  | none =>
    simp only [Option.map_none]
    congr 1
    funext chosen?
    cases chosen? with
    | none => rfl
    | some k =>
      simp only [Option.bind_some, List.getElem?_map]
      cases (first :: links.map Link.branch)[k]? with
      | none => rfl
      | some chosen => simp [Expandable.atStack, Place.inner]

/-- What an item becomes does not depend on what its parts would become elsewhere. -/
theorem expandItem_atStack (place : Place V) (i : RowItem V W) :
    expandItem setting deeper place (i.map (Expandable.atStack place.stack)) =
      expandItem setting deeper place i := by
  cases i with
  | single e =>
    simp only [RowItem.map, expandItem, expandNode, node_atStack]
    cases e.node with
    | element tag attrs children =>
      exact bind_congr fun attrs =>
        expandElement_atStack setting deeper (place.inner []) tag attrs children e
    | _ => rfl
  | chain first links =>
    simp only [RowItem.map, expandItem, node_atStack, linkNodes_map (node_atStack place.stack)]
    cases first.node with
    | element tag attrs children =>
      exact bind_congr fun attrs => expandChain_atStack setting (place.inner [])
        { first with node := .element tag attrs children } links
    | _ => rfl

theorem expandRow_atStack (place : Place V) (es : List (Expandable V W)) :
    expandRow setting deeper place (es.map (Expandable.atStack place.stack)) =
      expandRow setting deeper place es := by
  unfold expandRow
  rw [rowOf_map (node_atStack place.stack)]
  exact expandItems_map (node_atStack place.stack) _ (expandItem_atStack setting deeper place) _

/-! ### What is consulted deeper -/

/-- Two expanders do the same in components that are opened at a place with this stack. -/
def AgreeBelow (setting : Setting V W) (stack : List String) (deeper deeper' : ForestExpansion V W) :
    Prop :=
  stack.length < setting.limit.value → ∀ scope name forest,
    deeper { scope := scope, stack := stack ++ [name] } forest =
      deeper' { scope := scope, stack := stack ++ [name] } forest

section Agree

variable {setting : Setting V W} {deeper deeper' : ForestExpansion V W}

theorem expandUse_congr {place : Place V} (agree : AgreeBelow setting place.stack deeper deeper')
    (u : Use) (inside : Expansion W (List Node)) :
    expandUse setting deeper place u inside = expandUse setting deeper' place u inside := by
  unfold expandUse
  cases hdepth : checkDepth setting.limit place.stack u.name with
  | error d => rfl
  | ok _ =>
    have below : place.stack.length < setting.limit.value := by
      have := length_of_checkDepth hdepth
      omega
    refine bind_congr fun source => ?_
    have same : expandSource setting deeper place u source =
        expandSource setting deeper' place u source := by
      unfold expandSource
      simp only [agree below]
    rw [same]

theorem expandRow_congr {place : Place V} (agree : AgreeBelow setting place.stack deeper deeper')
    (es : List (Expandable V W)) :
    expandRow setting deeper place es = expandRow setting deeper' place es := by
  have elements (tag : String) (attrs : Attrs) (children : List Node) (e : Expandable V W) :
      expandElement setting deeper (place.inner []) tag attrs children e =
        expandElement setting deeper' (place.inner []) tag attrs children e := by
    have agree' : AgreeBelow setting (place.inner []).stack deeper deeper' := agree
    unfold expandElement
    simp only [expandUse_congr agree']
  have items : expandItem setting deeper place = expandItem setting deeper' place := by
    funext i
    cases i with
    | single e => simp only [expandItem, expandNode, elements]
    | chain first links => rfl
  unfold expandRow
  rw [items]

mutual

theorem expandable_atStack_congr {stack : List String}
    (agree : AgreeBelow setting stack deeper deeper') : ∀ n : Node,
    (expandable (expandRow setting deeper) n).atStack stack =
      (expandable (expandRow setting deeper') n).atStack stack
  | .element tag attrs children => by
    have inside := expandables_atStack_congr agree children
    have row (place : Place V) (here : place.stack = stack) :
        expandRow setting deeper place (expandables (expandRow setting deeper) children) =
          expandRow setting deeper' place (expandables (expandRow setting deeper') children) := by
      subst here
      rw [← expandRow_atStack, inside, expandRow_atStack, expandRow_congr agree]
    have child (k : Nat) := congrArg (·[k]?) inside
    simp only [List.getElem?_map] at child
    simp only [expandable, Expandable.atStack, Expandable.mk.injEq, true_and]
    constructor
    · funext place
      split
      · exact row place ‹_›
      · rfl
    · funext k place
      split
      · rename_i here
        have child := child k
        cases hk : (expandables (expandRow setting deeper) children)[k]? <;>
          cases hk' : (expandables (expandRow setting deeper') children)[k]? <;>
          simp only [hk, hk', Option.map_some, Option.map_none, reduceCtorEq] at child ⊢
        rename_i e e'
        have same := congrArg (fun e => e.inside place) (Option.some.inj child)
        simpa [Expandable.atStack, here] using same
      · rfl
  | .text _ | .comment _ | .directive _ | .fragment _ | .blank => by simp only [expandable]

theorem expandables_atStack_congr {stack : List String}
    (agree : AgreeBelow setting stack deeper deeper') : ∀ ns : List Node,
    (expandables (expandRow setting deeper) ns).map (Expandable.atStack stack) =
      (expandables (expandRow setting deeper') ns).map (Expandable.atStack stack)
  | [] => by simp only [expandables]
  | n :: ns => by
    rw [expandables, expandables, List.map_cons, List.map_cons, expandable_atStack_congr agree n,
      expandables_atStack_congr agree ns]

end

/-- A level at a place consults the expander below it only for components that are opened there. -/
theorem expandLevel_congr {place : Place V} (agree : AgreeBelow setting place.stack deeper deeper')
    (forest : List Node) :
    expandLevel setting deeper place forest = expandLevel setting deeper' place forest := by
  unfold expandLevel
  rw [← expandRow_atStack, expandables_atStack_congr agree, expandRow_atStack, expandRow_congr agree]

end Agree

/-! ### The recursion from level to level -/

/-- An expander does at every place what one level does with the expander itself below, as long as
no more components are being expanded there than may be. -/
def Solves (setting : Setting V W) (F : ForestExpansion V W) : Prop :=
  ∀ place forest, place.stack.length ≤ setting.limit.value.toNat →
    F place forest = expandLevel setting F place forest

/-- The expander that starts at every place with as many levels as are left there. -/
def expandLevelsLeft (setting : Setting V W) : ForestExpansion V W := fun place =>
  expandLevels setting (setting.limit.value.toNat - place.stack.length + 1) place

variable {setting}

/-- Every solution of the recursion is what enough levels come to. -/
theorem eq_expandLevels_of_solves {F : ForestExpansion V W} (solves : Solves setting F)
    (levels : Nat) : ∀ (place : Place V) (forest : List Node),
      place.stack.length ≤ setting.limit.value.toNat →
      setting.limit.value.toNat < levels + place.stack.length →
      F place forest = expandLevels setting levels place forest := by
  induction levels with
  | zero => intro place forest allowed enough; omega
  | succ levels ih =>
    intro place forest allowed enough
    rw [solves place forest allowed]
    refine expandLevel_congr (fun below scope name forest => ?_) forest
    refine ih _ forest ?_ ?_ <;>
    · simp only [List.length_append, List.length_singleton]
      omega

theorem solves_expandLevelsLeft : Solves setting (expandLevelsLeft setting) := by
  intro place forest allowed
  refine expandLevel_congr (fun below scope name forest => ?_) forest
  have left : setting.limit.value.toNat - place.stack.length =
      setting.limit.value.toNat - (place.stack ++ [name]).length + 1 := by
    simp only [List.length_append, List.length_singleton]
    omega
  simp only [expandLevelsLeft]
  rw [← left]

theorem expand_eq_expandLevelsLeft (scope : Scope V) (forest : List Node) :
    expand setting scope forest = whole (expandLevelsLeft setting { scope := scope } forest) := rfl

end HtmlTemplate.Expand
