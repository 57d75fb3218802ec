import HtmlTemplate.Proofs.Bindings
import HtmlTemplate.Proofs.Colons
import HtmlTemplate.Proofs.Leftovers
import Mathlib.Order.Filter.AtTopBot.Basic

/-!
# What expansion takes away

Every construct but the use of a component gives way to less than it is made of. A loop may repeat
its content, but the content moves up one level: with deep nodes weighing enough, the repetitions
together are still lighter than the loop. So a forest that refers to no components and comes out of
its expansion as it was had no constructs and no evaluated attributes to begin with:
`inert_of_ends_expandLevels`.
-/

namespace HtmlTemplate.Expand

open HtmlTemplate.Markup HtmlTemplate.Component Expansion Filter

/-! ### Weights -/

mutual

/-- The weight of a node, where children weigh `b` times as much as they do at the top. -/
def weighIn (b : Nat) : Node → Nat
  | .element _ attrs cs => 1 + Bindings.nameLength attrs + b * weigh b cs
  | _ => 1

/-- The weight of a forest. -/
def weigh (b : Nat) : List Node → Nat
  | [] => 0
  | n :: ns => weighIn b n + weigh b ns

end

theorem weigh_append (b : Nat) (ms ns : List Node) :
    weigh b (ms ++ ns) = weigh b ms + weigh b ns := by
  induction ms with
  | nil => simp [weigh]
  | cons m ms ih => rw [List.cons_append, weigh, weigh, ih, Nat.add_assoc]

theorem weigh_element (b : Nat) (tag : String) (attrs : Attrs) (cs : List Node) :
    weigh b [.element tag attrs cs] = 1 + Bindings.nameLength attrs + b * weigh b cs := by
  simp [weigh, weighIn]

/-- The children that expansion comes to. -/
def below : Node → List Node
  | .element _ _ cs => cs
  | _ => []

theorem mul_weigh_below_lt (b : Nat) (n : Node) : b * weigh b (below n) < weighIn b n := by
  cases n with
  | element tag attrs cs =>
    simp only [below, weighIn]
    omega
  | _ => simp [below, weigh, weighIn]

theorem weigh_below_lt {b : Nat} (hb : 1 ≤ b) {n : Node} {ns : List Node} (h : n ∈ ns) :
    weigh b (below n) < weigh b ns := by
  induction ns with
  | nil => exact absurd h List.not_mem_nil
  | cons m ns ih =>
    rw [weigh]
    rcases List.mem_cons.1 h with rfl | h
    · have := mul_weigh_below_lt b n
      have := Nat.le_mul_of_pos_left (weigh b (below n)) hb
      omega
    · have := ih h
      omega

/-! ### Forests that get lighter -/

/-- No element that expansion comes to is a construct or has an evaluated attribute. -/
def Inert (o : Options) (forest : List Node) : Prop :=
  ∀ tag attrs cs, .element tag attrs cs ∈ seenAmong forest → isConstruct o tag = false ∧
    ∀ name ∈ Bindings.names attrs, evaluatedName? o.evalMarker name = none

section Inert

variable {o : Options}

theorem inert_nil : Inert o [] := fun _ _ _ h => absurd h List.not_mem_nil

theorem inert_append_iff {ms ns : List Node} : Inert o (ms ++ ns) ↔ Inert o ms ∧ Inert o ns := by
  simp only [Inert, seenAmong_append, List.mem_append, or_imp, forall_and]
  exact and_and_and_comm

theorem inert_cons_iff {n : Node} {ns : List Node} :
    Inert o (n :: ns) ↔ Inert o [n] ∧ Inert o ns := by
  rw [← inert_append_iff, List.singleton_append]

theorem Inert.of_mem {n : Node} {ns : List Node} (h : Inert o ns) (hn : n ∈ ns) : Inert o [n] := by
  obtain ⟨before, after, rfl⟩ := List.append_of_mem hn
  exact (inert_cons_iff.1 (inert_append_iff.1 h).2).1

theorem inert_leaf {n : Node} (leaf : n.tag? = none) : Inert o [n] := by
  cases n with
  | element tag attrs cs => cases leaf
  | _ => simp [Inert, seenAmong, seenIn]

theorem inert_element_iff {tag : String} {attrs : Attrs} {cs : List Node} :
    Inert o [.element tag attrs cs] ↔ (isConstruct o tag = false ∧
      ∀ name ∈ Bindings.names attrs, evaluatedName? o.evalMarker name = none) ∧ Inert o cs := by
  simp only [Inert, seenAmong, seenIn, List.append_nil, List.mem_cons, Node.element.injEq]
  constructor
  · exact fun h =>
      ⟨h tag attrs cs (.inl ⟨rfl, rfl, rfl⟩), fun t as ds hmem => h t as ds (.inr hmem)⟩
  · rintro ⟨here, inside⟩ t as ds (⟨rfl, rfl, rfl⟩ | hmem)
    · exact here
    · exact inside t as ds hmem

end Inert

/-- Some nodes are no heavier than those they come from, and lighter unless these are inert. -/
structure Lighter (o : Options) (b : Nat) (nodes ns : List Node) : Prop where
  le : weigh b nodes ≤ weigh b ns
  inert : weigh b nodes = weigh b ns → Inert o ns

section Lighter

variable {o : Options} {b : Nat} {nodes ms ns : List Node}

theorem lighter_of_lt (h : weigh b nodes < weigh b ns) : Lighter o b nodes ns :=
  ⟨Nat.le_of_lt h, fun same => absurd same (Nat.ne_of_lt h)⟩

theorem lighter_nil : Lighter o b [] [] := ⟨Nat.le_refl _, fun _ => inert_nil⟩

theorem Lighter.append {more : List Node} (hms : Lighter o b nodes ms) (hns : Lighter o b more ns) :
    Lighter o b (nodes ++ more) (ms ++ ns) := by
  have hle := hms.le
  have hle' := hns.le
  constructor
  · rw [weigh_append, weigh_append]
    omega
  · rw [weigh_append, weigh_append]
    exact fun same => inert_append_iff.2 ⟨hms.inert (by omega), hns.inert (by omega)⟩

theorem Lighter.element (hb : 0 < b) {tag : String} {attrs attrs' : Attrs} {cs cs' : List Node}
    (plain : isConstruct o tag = false)
    (shorter : Bindings.nameLength attrs' ≤ Bindings.nameLength attrs)
    (evaluated : Bindings.nameLength attrs' = Bindings.nameLength attrs →
      ∀ name ∈ Bindings.names attrs, evaluatedName? o.evalMarker name = none)
    (inside : Lighter o b cs' cs) :
    Lighter o b [.element tag attrs' cs'] [.element tag attrs cs] := by
  have hle := Nat.mul_le_mul_left b inside.le
  constructor
  · rw [weigh_element, weigh_element]
    omega
  · rw [weigh_element, weigh_element]
    intro same
    have children : weigh b cs' = weigh b cs := Nat.eq_of_mul_eq_mul_left hb (by omega)
    exact inert_element_iff.2 ⟨⟨plain, evaluated (by omega)⟩, inside.inert children⟩

end Lighter

variable {V W : Type}

/-- An expansion of some nodes ends with nodes that are lighter, once the deep ones weigh enough. -/
def Lightens (o : Options) (x : Expansion W (List Node)) (ns : List Node) : Prop :=
  ∀ s nodes t, Ends x s nodes t → ∀ᶠ b in atTop, Lighter o b nodes ns

theorem lightens_nil (o : Options) : Lightens o (pure [] : Expansion W (List Node)) [] := by
  intro s nodes t run
  obtain ⟨rfl, -⟩ := ends_pure_iff.1 run
  exact .of_forall fun b => lighter_nil

/-! ### Attributes -/

section Attributes

variable {setting : Setting V W} {place : Place V} {around : Attrs → List Node}

theorem length_lt_of_evaluatedName? {marker name target : String}
    (h : evaluatedName? marker name = some target) : target.length < name.length := by
  unfold evaluatedName? at h
  split at h
  · rename_i m target' hsplit
    split at h
    · exact Option.some.inj h ▸ Naming.length_lt_of_splitColons hsplit
    · cases h
  · cases h

/-- Evaluating an attribute makes the names of all attributes together shorter. -/
theorem nameLength_of_ends_evaluateAttrs {names : List String} :
    ∀ {attrs attrs' : Attrs} {s t : State W},
      Ends (evaluateAttrs setting place around names attrs) s attrs' t →
        Bindings.nameLength attrs' ≤ Bindings.nameLength attrs ∧
          ∀ name ∈ names, name ∈ Bindings.names attrs →
            evaluatedName? setting.options.evalMarker name ≠ none →
              Bindings.nameLength attrs' < Bindings.nameLength attrs := by
  induction names with
  | nil =>
    intro attrs attrs' s t run
    obtain ⟨rfl, rfl⟩ := ends_pure_iff.1 run
    exact ⟨Nat.le_refl _, fun name h => absurd h List.not_mem_nil⟩
  | cons name names ih =>
    intro attrs attrs' s t run
    rw [evaluateAttrs] at run
    split at run
    · rename_i target source htarget hsource
      have bound : name ∈ Bindings.names attrs :=
        (Bindings.isSome_get?_iff attrs name).1 (by rw [hsource]; rfl)
      have shorter := length_lt_of_evaluatedName? htarget
      have erased := Bindings.nameLength_erase_add_le bound
      obtain ⟨value?, s₁, -, run⟩ := ends_bind_iff.1 run
      have less : Bindings.nameLength attrs' < Bindings.nameLength attrs := by
        cases value? with
        | none =>
          have := (ih run).1
          omega
        | some value =>
          have := (ih run).1
          have := Bindings.nameLength_put_le (Bindings.erase attrs name) target value
          omega
      exact ⟨Nat.le_of_lt less, fun _ _ _ _ => less⟩
    · rename_i unbound
      obtain ⟨le, lt⟩ := ih run
      refine ⟨le, fun n hn bound evaluated => ?_⟩
      rcases List.mem_cons.1 hn with rfl | hn
      · obtain ⟨target, htarget⟩ := Option.ne_none_iff_exists'.1 evaluated
        obtain ⟨source, hsource⟩ :=
          Option.isSome_iff_exists.1 ((Bindings.isSome_get?_iff attrs n).2 bound)
        exact absurd hsource (unbound target source htarget)
      · exact lt n hn bound evaluated

/-- Attributes whose names do not get shorter are none of them evaluated. -/
theorem evaluatedName?_of_nameLength_eq {attrs attrs' : Attrs} {s t : State W}
    (run : Ends (evaluateAttrs setting place around (Bindings.names attrs) attrs) s attrs' t)
    (same : Bindings.nameLength attrs' = Bindings.nameLength attrs) :
    ∀ name ∈ Bindings.names attrs, evaluatedName? setting.options.evalMarker name = none := by
  intro name hname
  cases h : evaluatedName? setting.options.evalMarker name with
  | none => rfl
  | some target =>
    have less := (nameLength_of_ends_evaluateAttrs run).2 name hname hname (by rw [h]; simp)
    omega

end Attributes

/-! ### Constructs -/

section Constructs

variable {setting : Setting V W} {place : Place V} {tag : String} {attrs : Attrs}
  {children nodes : List Node} {s t : State W}

theorem weigh_expandDynamic_lt {inside : Expansion W (List Node)}
    (hinside : Lightens setting.options inside children)
    (run : Ends (expandDynamic setting place tag attrs children inside) s nodes t) :
    ∀ᶠ b in atTop, weigh b nodes < weigh b [.element tag attrs children] := by
  unfold expandDynamic at run
  split at run
  · exact absurd run not_ends_refuse
  · rename_i source hsource
    obtain ⟨v, s₁, -, run⟩ := ends_bind_iff.1 run
    obtain ⟨cs, s₂, hwithin, run⟩ := ends_bind_iff.1 run
    obtain ⟨s₃, hcs, -⟩ := ends_within_iff.1 hwithin
    dsimp only at run
    split at run
    · obtain ⟨rfl, rfl⟩ := ends_pure_iff.1 run
      filter_upwards [hinside _ _ _ hcs, eventually_ge_atTop 1] with b hlighter hb
      have := hlighter.le
      have := Nat.le_mul_of_pos_left (weigh b children) hb
      rw [weigh_element]
      omega
    · split at run
      · exact absurd run (not_ends_bind (fun _ _ _ _ => not_ends_refuse) _ _ _)
      · obtain ⟨rfl, rfl⟩ := ends_pure_iff.1 run
        have bound : "tag" ∈ Bindings.names attrs :=
          (Bindings.isSome_get?_iff attrs "tag").1 (by rw [hsource]; rfl)
        have erased := Bindings.nameLength_erase_add_le bound
        have length : "tag".length = 3 := by decide
        filter_upwards [hinside _ _ _ hcs] with b hlighter
        have := Nat.mul_le_mul_left b hlighter.le
        rw [weigh_element, weigh_element]
        omega
    · exact absurd run (not_ends_bind (fun _ _ _ _ => not_ends_refuse) _ _ _)

theorem weigh_expandSwitch_lt {insideChild : Nat → Place V → Expansion W (List Node)}
    (hinside : ∀ k, Lightens setting.options (insideChild k place) (children[k]?.elim [] below))
    (run : Ends (expandSwitch setting place tag attrs children insideChild) s nodes t) :
    ∀ᶠ b in atTop, weigh b nodes < weigh b [.element tag attrs children] := by
  unfold expandSwitch at run
  dsimp only at run
  split at run
  · exact absurd run not_ends_refuse
  · obtain ⟨equal?, s₁, -, run⟩ := ends_bind_iff.1 run
    split at run
    · obtain ⟨rfl, rfl⟩ := ends_pure_iff.1 run
      exact .of_forall fun b => by simp only [weigh, weighIn]; omega
    · rename_i k _
      obtain ⟨s₂, hchild, -⟩ := ends_within_iff.1 run
      filter_upwards [hinside k _ _ _ hchild, eventually_ge_atTop 1] with b hlighter hb
      have hle := hlighter.le
      have inside : weigh b (children[k]?.elim [] below) ≤ weigh b children := by
        cases hk : children[k]? with
        | none => exact Nat.zero_le _
        | some child => exact Nat.le_of_lt (weigh_below_lt hb (List.mem_of_getElem? hk))
      have := Nat.le_mul_of_pos_left (weigh b children) hb
      rw [weigh_element]
      omega

/-- All rounds of a loop together weigh at most as much as its content does that often. -/
theorem weigh_expandRounds_le {loop : Node} {items : V} {name : String}
    {inside : Place V → Expansion W (List Node)}
    (hinside : ∀ bindings, Lightens setting.options (inside (place.inner bindings)) children)
    (fuel : Nat) : ∀ (position : Nat) (s : State W) (nodes : List Node) (t : State W),
      Ends (expandRounds setting place loop items name inside fuel position) s nodes t →
        ∀ᶠ b in atTop, weigh b nodes ≤ fuel * weigh b children := by
  induction fuel with
  | zero => exact fun position s nodes t run => absurd run not_ends_stop
  | succ fuel ih =>
    intro position s nodes t run
    rw [expandRounds] at run
    obtain ⟨v?, s₁, -, run⟩ := ends_bind_iff.1 run
    split at run
    · obtain ⟨rfl, rfl⟩ := ends_pure_iff.1 run
      exact .of_forall fun b => Nat.zero_le _
    · split at run
      · obtain ⟨body, s₂, hapart, run⟩ := ends_bind_iff.1 run
        obtain ⟨more, s₃, hmore, run⟩ := ends_bind_iff.1 run
        obtain ⟨rfl, rfl⟩ := ends_pure_iff.1 run
        obtain ⟨s₄, hbody, -⟩ := ends_whole_iff.1 (ends_apart_iff.1 hapart)
        filter_upwards [hinside _ _ _ _ hbody, ih _ _ _ _ hmore] with b hlighter hrest
        have := hlighter.le
        rw [weigh_append, Nat.succ_mul]
        omega
      · exact absurd run not_ends_stop

theorem weigh_expandLoop_lt {inside : Place V → Expansion W (List Node)}
    (hinside : ∀ bindings, Lightens setting.options (inside (place.inner bindings)) children)
    (run : Ends (expandLoop setting place tag attrs children inside) s nodes t) :
    ∀ᶠ b in atTop, weigh b nodes < weigh b [.element tag attrs children] := by
  unfold expandLoop at run
  dsimp only at run
  split at run
  · split at run
    · exact absurd run not_ends_refuse
    · obtain ⟨items, s₁, -, run⟩ := ends_bind_iff.1 run
      obtain ⟨length?, s₂, -, run⟩ := ends_bind_iff.1 run
      split at run
      · rename_i length
        filter_upwards [weigh_expandRounds_le hinside _ _ _ _ _ run,
          eventually_ge_atTop (length + growthLimit + 1)] with b hrounds hb
        have := Nat.mul_le_mul_right (weigh b children) hb
        rw [weigh_element]
        omega
      · exact absurd run (not_ends_bind (fun _ _ _ _ => not_ends_stop) _ _ _)
  · exact absurd run not_ends_refuse

/-- The gaps before a link and those after it are all gaps. -/
theorem weigh_gapsAround (b : Nat) (links : List (Link V W)) (k : Nat) :
    weigh b (gapsAround links k).1 + weigh b (gapsAround links k).2 =
      weigh b (links.map Link.gap).flatten := by
  rw [gapsAround, ← weigh_append, ← List.flatten_append, ← List.map_append, List.take_append_drop]

theorem weigh_linkNodes (b : Nat) (links : List (Link V W)) :
    weigh b (linkNodes links) =
      weigh b (links.map Link.gap).flatten + weigh b (links.map fun l => l.branch.node) := by
  induction links with
  | nil => rfl
  | cons l links ih =>
    rw [linkNodes, List.flatMap_cons, ← linkNodes]
    simp only [List.map_cons, List.flatten_cons, weigh_append, weigh, ih]
    omega

theorem weigh_expandChain_lt {first : Expandable V W} {links : List (Link V W)}
    (hinside : ∀ e ∈ first :: links.map Link.branch, ∀ place,
      Lightens setting.options (e.inside place) (below e.node))
    (run : Ends (expandChain setting place first links) s nodes t) :
    ∀ᶠ b in atTop, weigh b nodes < weigh b (first.node :: linkNodes links) := by
  have chain (b : Nat) : weigh b (first.node :: linkNodes links) =
      weigh b (links.map Link.gap).flatten +
        weigh b ((first :: links.map Link.branch).map Expandable.node) := by
    simp only [weigh, weigh_linkNodes, List.map_cons, List.map_map, Function.comp_def]
    omega
  unfold expandChain at run
  dsimp only at run
  split at run
  · exact absurd run not_ends_refuse
  · obtain ⟨chosen?, s₁, -, run⟩ := ends_bind_iff.1 run
    split at run
    · obtain ⟨rfl, rfl⟩ := ends_pure_iff.1 run
      refine .of_forall fun b => ?_
      have gaps := weigh_gapsAround b links 0
      have heavy := mul_weigh_below_lt b first.node
      rw [chain, List.map_cons, weigh]
      omega
    · rename_i k chosen found
      obtain ⟨body, s₂, hwithin, run⟩ := ends_bind_iff.1 run
      obtain ⟨rfl, rfl⟩ := ends_pure_iff.1 run
      obtain ⟨s₃, hbody, -⟩ := ends_within_iff.1 hwithin
      have branch := mem_of_chosen found
      filter_upwards [hinside chosen branch _ _ _ _ hbody, eventually_ge_atTop 1] with b hlighter hb
      have gaps := weigh_gapsAround b links k
      have hle := hlighter.le
      have := weigh_below_lt hb (List.mem_map_of_mem (f := Expandable.node) branch)
      rw [chain, weigh_append, weigh_append]
      omega

/-! ### Nodes -/

/-- Nodes that a node refers to no component with, and that make what is inside it lighter. -/
structure Expandable.Lightens (o : Options) (e : Expandable V W) : Prop where
  useFree : ∀ tag, e.node.tag? = some tag → isUse o tag = false
  inside : ∀ place, Expand.Lightens o (e.inside place) (below e.node)
  insideChild : ∀ k place, Expand.Lightens o (e.insideChild k place)
    ((below e.node)[k]?.elim [] below)

variable {deeper : ForestExpansion V W} {e : Expandable V W}

theorem weigh_expandElement_lt (construct : isConstruct setting.options tag = true)
    (hif : tag ≠ "if") (huse : isUse setting.options tag = false)
    (hinside : ∀ place, Lightens setting.options (e.inside place) children)
    (hchild : ∀ k place, Lightens setting.options (e.insideChild k place)
      (children[k]?.elim [] below))
    (run : Ends (expandElement setting deeper place tag attrs children e) s nodes t) :
    ∀ᶠ b in atTop, weigh b nodes < weigh b [.element tag attrs children] := by
  unfold expandElement at run
  dsimp only at run
  split at run
  · exact absurd run not_ends_refuse
  rename_i hbranch
  split at run
  · exact weigh_expandSwitch_lt (fun k => hchild k place) run
  split at run
  · exact weigh_expandLoop_lt (fun bindings => hinside _) run
  split at run
  · exact weigh_expandDynamic_lt (hinside place) run
  · simp_all [isConstruct]

theorem expandElement_of_plain (plain : isConstruct setting.options tag = false) :
    expandElement setting deeper place tag attrs children e = (do
      let cs ← within (fun cs => [.element tag attrs cs]) (e.inside place)
      return [.element tag attrs cs]) := by
  simp only [isConstruct, Bool.or_eq_false_iff] at plain
  obtain ⟨⟨⟨⟨⟨⟨-, helseif⟩, helse⟩, hswitch⟩, hfor⟩, hdynamic⟩, huse⟩ := plain
  simp [expandElement, helseif, helse, hswitch, hfor, hdynamic, huse]

theorem lightens_expandNode (hif : e.node.hasTag "if" = false) (he : e.Lightens setting.options) :
    Lightens setting.options (expandNode setting deeper place e) [e.node] := by
  intro s nodes t run
  unfold expandNode at run
  have hinside := he.inside
  have hchild := he.insideChild
  have huse := he.useFree
  cases hnode : e.node with
  | element tag attrs children =>
    rw [hnode] at run hinside hchild huse hif
    obtain ⟨attrs', s₁, hattrs, run⟩ := ends_bind_iff.1 run
    have shorter := (nameLength_of_ends_evaluateAttrs hattrs).1
    cases htag : isConstruct setting.options tag with
    | false =>
      rw [expandElement_of_plain htag] at run
      obtain ⟨cs, s₂, hwithin, run⟩ := ends_bind_iff.1 run
      obtain ⟨rfl, rfl⟩ := ends_pure_iff.1 run
      obtain ⟨s₃, hcs, -⟩ := ends_within_iff.1 hwithin
      filter_upwards [hinside _ _ _ _ hcs, eventually_gt_atTop 0] with b hlighter hb
      exact hlighter.element hb htag shorter (evaluatedName?_of_nameLength_eq hattrs)
    | true =>
      have htagif : tag ≠ "if" := by simpa [Node.hasTag, Node.tag?] using hif
      have lighter : ∀ᶠ b in atTop, weigh b nodes < weigh b [.element tag attrs' children] :=
        weigh_expandElement_lt htag htagif (huse tag rfl) hinside hchild run
      filter_upwards [lighter] with b hlt
      refine lighter_of_lt (Nat.lt_of_lt_of_le hlt ?_)
      rw [weigh_element, weigh_element]
      omega
  | text data =>
    rw [hnode] at run
    obtain ⟨texts, s₁, -, run⟩ := ends_bind_iff.1 run
    obtain ⟨rfl, rfl⟩ := ends_pure_iff.1 run
    exact .of_forall fun b => ⟨Nat.le_refl _, fun _ => inert_leaf rfl⟩
  | _ =>
    rw [hnode] at run
    obtain ⟨rfl, rfl⟩ := ends_pure_iff.1 run
    exact .of_forall fun b => ⟨Nat.le_refl _, fun _ => inert_leaf rfl⟩

/-! ### Rows -/

theorem lightens_expandItem {item : RowItem V W} (formed : item.WellFormed)
    (hitem : ∀ e ∈ item.parts, e.Lightens setting.options) :
    Lightens setting.options (expandItem setting deeper place item) item.nodes := by
  cases item with
  | single e => exact lightens_expandNode formed (hitem e List.mem_cons_self)
  | chain first links =>
    intro s nodes t run
    rw [expandItem] at run
    cases hnode : first.node with
    | element tag attrs children =>
      rw [hnode] at run
      obtain ⟨attrs', s₁, hattrs, run⟩ := ends_bind_iff.1 run
      have shorter := (nameLength_of_ends_evaluateAttrs hattrs).1
      have inside : ∀ e ∈ { first with node := .element tag attrs' children } ::
          links.map Link.branch, ∀ place,
          Lightens setting.options (e.inside place) (below e.node) := by
        intro e he place
        rcases List.mem_cons.1 he with rfl | he
        · have := (hitem first List.mem_cons_self).inside place
          rwa [hnode] at this
        · exact (hitem e (List.mem_cons_of_mem first he)).inside place
      filter_upwards [weigh_expandChain_lt inside run] with b hlt
      refine lighter_of_lt (Nat.lt_of_lt_of_le hlt ?_)
      simp only [RowItem.nodes, hnode, weigh, weighIn]
      omega
    | _ =>
      have isIf := formed.1
      simp [hnode, Node.hasTag, Node.tag?] at isIf

end Constructs

section Rows

variable {setting : Setting V W}

theorem lightens_expandItems {item : RowItem V W → Expansion W (List Node)}
    (row : List (RowItem V W)) (hitem : ∀ i ∈ row, Lightens setting.options (item i) i.nodes) :
    Lightens setting.options (expandItems setting.options item row) (rowNodes row) := by
  induction row with
  | nil => exact lightens_nil setting.options
  | cons i row ih =>
    intro s nodes t run
    obtain ⟨placed, s₁, hwithin, run⟩ := ends_bind_iff.1 run
    obtain ⟨more, s₂, hlater, hpure⟩ := ends_bind_iff.1 run
    obtain ⟨rfl, rfl⟩ := ends_pure_iff.1 hpure
    obtain ⟨s₃, hfirst, -⟩ := ends_within_iff.1 hwithin
    obtain ⟨placed', s₄, hplaced, hnote⟩ := ends_bind_iff.1 hfirst
    obtain ⟨_, s₅, -, hsame⟩ := ends_bind_iff.1 hnote
    obtain ⟨rfl, rfl⟩ := ends_pure_iff.1 hsame
    obtain ⟨s₆, hmore, -⟩ := ends_within_iff.1 hlater
    filter_upwards [hitem i List.mem_cons_self _ _ _ hplaced,
      ih (fun j hj => hitem j (List.mem_cons_of_mem i hj)) _ _ _ hmore] with b here there
    exact here.append there

theorem lightens_expandRow {deeper : ForestExpansion V W} (place : Place V)
    {es : List (Expandable V W)} (hes : ∀ e ∈ es, e.Lightens setting.options) :
    Lightens setting.options (expandRow setting deeper place es) (es.map Expandable.node) := by
  rw [← rowNodes_rowOf es]
  exact lightens_expandItems (rowOf es) fun i hi =>
    lightens_expandItem (wellFormed_rowOf es i hi) fun e he => hes e (parts_rowOf es i hi e he)

/-! ### Trees -/

/-- Expansion comes to no uses of components in a forest. -/
def UseFree (o : Options) (forest : List Node) : Prop :=
  Tags (fun tag => isUse o tag = false) forest

section Trees

variable {o : Options} {row : Place V → List (Expandable V W) → Expansion W (List Node)}

theorem lightens_expandables
    (hrow : ∀ place es, (∀ e ∈ es, e.Lightens o) →
      Lightens o (row place es) (es.map Expandable.node))
    {ns : List Node} (free : UseFree o ns) : ∀ e ∈ expandables row ns, e.Lightens o := by
  have key : ∀ e ∈ expandables row ns, UseFree o [e.node] → e.Lightens o := by
    refine expandables_induct (fun n leaf _ => ?_) (fun tag attrs children ih hfree => ?_) ns
    · have none : below n = [] := by
        cases n with
        | element tag attrs cs => cases leaf
        | _ => rfl
      refine ⟨fun tag htag => absurd (leaf.symm.trans htag) (by simp), fun place => ?_,
        fun k place => ?_⟩
      · rw [none]
        exact lightens_nil o
      · rw [none]
        exact lightens_nil o
    · obtain ⟨htag, hchildren⟩ := tags_element_iff.1 hfree
      have hes : ∀ e ∈ expandables row children, e.Lightens o := fun e he =>
        ih e he (hchildren.of_mem (mem_of_mem_expandables he))
      have inside (place : Place V) :
          Lightens o (row place (expandables row children)) children := by
        have lightens := hrow place _ hes
        rwa [nodes_expandables] at lightens
      refine ⟨fun t ht => Option.some.inj ht ▸ htag, inside, fun k place => ?_⟩
      have nodes : (expandables row children)[k]?.map Expandable.node = children[k]? := by
        rw [← List.getElem?_map, nodes_expandables]
      dsimp only [expandable, below]
      split
      · rename_i e he
        rw [← nodes, he]
        exact (hes e (List.mem_of_getElem? he)).inside place
      · rename_i he
        rw [← nodes, he]
        exact lightens_nil o
  exact fun e he => key e he (free.of_mem (mem_of_mem_expandables he))

end Trees

/-- A forest without uses that comes out of its expansion as it was has neither constructs nor
evaluated attributes. -/
theorem inert_of_ends_expandLevels {levels : Nat} {place : Place V} {forest : List Node}
    {s t : State W} (free : UseFree setting.options forest)
    (run : Ends (expandLevels setting (levels + 1) place forest) s forest t) :
    Inert setting.options forest := by
  have hrow (place : Place V) (es : List (Expandable V W))
      (hes : ∀ e ∈ es, e.Lightens setting.options) :
      Lightens setting.options (expandRow setting (expandLevels setting levels) place es)
        (es.map Expandable.node) :=
    lightens_expandRow place hes
  have lightens := hrow place _ (lightens_expandables hrow free)
  rw [nodes_expandables] at lightens
  obtain ⟨b, hlighter⟩ := (lightens s forest t run).exists
  exact hlighter.inert rfl

end Rows

end HtmlTemplate.Expand
