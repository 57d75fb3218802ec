import HtmlTemplate.Proofs.Bindings
import HtmlTemplate.Proofs.Colons
import HtmlTemplate.Proofs.Hygiene
import Mathlib.Data.List.Induction

/-!
# The attributes of a use

An attribute that the scripts of a component leave, and that is meant for no marker in particular,
goes to the elements in the expanded tree of the component that have an empty marker or, when there
are none, to the first element at the top. That happens before content is projected, so what it is
given to may still be replaced. `expandUse_receives` says where it is merged in, and that it leaves
no trace when no element with an empty marker stays.
-/

namespace HtmlTemplate

/-! ### Merging -/

namespace MergeRegistry

/-- What an attribute that has these values is after it is merged in. -/
def merged? (r : MergeRegistry) (own : Bindings String) (name value : String) : Option String :=
  match r.resolve name (own.get? name) value with
  | .value s => some s
  | .present => some ""
  | .removed => none

theorem get?_assignOne (r : MergeRegistry) (own : Bindings String) (name value n : String) :
    (r.assignOne own name value).get? n =
      if n = name then r.merged? own name value else own.get? n := by
  unfold assignOne merged?
  cases r.resolve name (own.get? name) value with
  | value s => exact Bindings.get?_put own name s n
  | present => exact Bindings.get?_put own name "" n
  | removed => exact Bindings.get?_erase own name n

/-- Of attributes with distinct names each is merged with what the element has itself. -/
theorem get?_assign (r : MergeRegistry) {given : Bindings String} (distinct : given.names.Nodup)
    (own : Bindings String) (n : String) :
    (r.assign own given).get? n =
      match given.get? n with
      | some value => r.merged? own n value
      | none => own.get? n := by
  induction given generalizing own with
  | nil => rfl
  | cons entry rest ih =>
    obtain ⟨m, v⟩ := entry
    obtain ⟨fresh, distinct⟩ := List.nodup_cons.1 distinct
    change (r.assign (r.assignOne own m v) rest).get? n = _
    rw [ih distinct, Bindings.get?_cons, get?_assignOne]
    by_cases h : n = m
    · subst h
      have absent : Bindings.get? rest n = none := by
        rw [← Option.not_isSome_iff_eq_none, Bindings.isSome_get?_iff]
        exact fresh
      simp [absent]
    · simp only [h, if_false]
      cases Bindings.get? rest n with
      | none => rfl
      | some value => simp [merged?, get?_assignOne, h]

end MergeRegistry

namespace Expand

open HtmlTemplate.Markup HtmlTemplate.Component HtmlTemplate.Naming Expansion

/-! ### Routes -/

theorem routeOf_of_default {marker name : String} (h : (routeOf marker name).1 = "") :
    routeOf marker name = ("", name) := by
  unfold routeOf at h ⊢
  split at h
  · rename_i m slot target segments
    split at h
    · exact absurd h (second_ne_empty_of_splitColons segments)
    · simp [*]
  · rfl

theorem routeOf_of_unrouted {marker name : String}
    (unrouted : ∀ slot target, splitColons 3 name ≠ some [marker, slot, target]) :
    routeOf marker name = ("", name) := by
  unfold routeOf
  split
  · rename_i m slot target segments
    have other : (m == marker) = false := by
      rw [beq_eq_false_iff_ne]
      rintro rfl
      exact unrouted slot target segments
    simp [other]
  · rfl

theorem routed_concat (marker : String) (given : Attrs) (a : String × String) (slot : String) :
    routed marker (given ++ [a]) slot =
      if (routeOf marker a.1).1 == slot then
        (routed marker given slot).put (routeOf marker a.1).2 a.2
      else routed marker given slot := by
  unfold routed
  rw [List.foldl_append]
  rfl

theorem nodup_names_routed (marker : String) (given : Attrs) (slot : String) :
    (routed marker given slot).names.Nodup := by
  induction given using List.reverseRecOn with
  | nil => exact List.nodup_nil
  | append_singleton given a ih =>
    rw [routed_concat]
    split
    · exact Bindings.nodup_names_put ih _ _
    · exact ih

/-- What is meant for a marker under a name is what has been given last for both. -/
theorem get?_routed (marker : String) (given : Attrs) (slot n : String) :
    (routed marker given slot).get? n =
      (given.reverse.find? fun a => routeOf marker a.1 == (slot, n)).map (·.2) := by
  induction given using List.reverseRecOn with
  | nil => rfl
  | append_singleton given a ih =>
    rw [routed_concat, List.reverse_append, List.reverse_singleton, List.singleton_append,
      List.find?_cons]
    obtain ⟨name, value⟩ := a
    generalize routeOf marker name = route
    obtain ⟨slot', target⟩ := route
    have both : ((slot', target) == (slot, n)) = (slot' == slot && target == n) := rfl
    rw [both]
    cases hslot : slot' == slot with
    | false => simpa using ih
    | true =>
      by_cases hn : target = n
      · simp [hn, Bindings.get?_put]
      · have other : (target == n) = false := beq_eq_false_iff_ne.2 hn
        simpa [other, Bindings.get?_put, Ne.symm hn] using ih

/-- An attribute that is meant for no marker is among those for the empty one. -/
theorem exists_get?_routed {marker : String} {given : Attrs} {name : String}
    (mem : name ∈ given.names) (default : routeOf marker name = ("", name)) :
    ∃ value, (name, value) ∈ given ∧ (routed marker given "").get? name = some value := by
  obtain ⟨a, ha, rfl⟩ := List.mem_map.1 mem
  rw [get?_routed]
  cases found : given.reverse.find? fun b => routeOf marker b.1 == ("", a.1) with
  | none =>
    have missed := List.find?_eq_none.1 found a (List.mem_reverse.2 ha)
    simp [default] at missed
  | some b =>
    have route := List.find?_some found
    simp only [beq_iff_eq] at route
    have same := routeOf_of_default (congrArg Prod.fst route)
    have name : b.1 = a.1 := (Prod.mk.inj (same.symm.trans route)).2
    exact ⟨b.2, name ▸ List.mem_reverse.1 (List.mem_of_find?_eq_some found), rfl⟩

/-- An attribute matters only for the marker that it is meant for. -/
theorem routed_erase {marker name slot : String} (given : Attrs)
    (other : (routeOf marker name).1 ≠ slot) :
    routed marker (given.erase name) slot = routed marker given slot := by
  unfold routed Bindings.erase
  rw [List.foldl_filter]
  congr 1
  funext found a
  by_cases h : a.1 = name
  · simp [h, other]
  · simp [h]

theorem get?_routed_erase {marker name n : String} (given : Attrs) (slot : String)
    (other : routeOf marker name ≠ (slot, n)) :
    (routed marker (given.erase name) slot).get? n = (routed marker given slot).get? n := by
  rw [get?_routed, get?_routed, Bindings.erase, ← List.filter_reverse, List.find?_filter]
  congr 2
  funext a
  by_cases h : a.1 = name
  · simp [h, other]
  · have kept : (a.1 != name) = true := bne_iff_ne.2 h
    simp only [kept, true_and, Bool.decide_eq_true]

/-! ### Receiving -/

/-- What becomes of the elements in the tree of a component, for a caller that gives these attributes
and this content. -/
def callerRule (o : Options) (given : Attrs) (caller : Content) : Rule :=
  ((markRule o.attrMarker (MergeRegistry.ofStrategies o.strategies) given).andThen
    (yieldRule o.yieldTag caller.main)).andThen (slotRule o.slotTag caller.fills)

section Receiving

variable {o : Options} {given : Attrs} {caller : Content}

theorem callerRule_stays {tag : String} (hy : tag ≠ o.yieldTag) (hs : tag ≠ o.slotTag)
    (attrs : Attrs) :
    callerRule o given caller tag attrs =
      .stays (receive o.attrMarker (MergeRegistry.ofStrategies o.strategies) given attrs) := by
  simp [callerRule, Rule.andThen, markRule, yieldRule, slotRule, hy, hs]

/-- Under an empty marker an attribute is merged in under its own name. -/
theorem get?_receive_of_marked {marker name value : String} {merging : MergeRegistry}
    {attrs : Attrs} (marked : attrs.get? marker = some "")
    (found : (routed marker given "").get? name = some value) :
    (receive marker merging given attrs).get? name =
      merging.merged? (attrs.erase marker) name value := by
  simp [receive, marked, MergeRegistry.get?_assign merging (nodup_names_routed marker given ""),
    found]

/-- An element without an empty marker receives the same without an attribute for that marker. -/
theorem receive_erase_of_unmarked {marker name : String} {merging : MergeRegistry} {attrs : Attrs}
    (default : routeOf marker name = ("", name)) (unmarked : attrs.get? marker ≠ some "") :
    receive marker merging (given.erase name) attrs = receive marker merging given attrs := by
  unfold receive
  cases h : attrs.get? marker with
  | none => rfl
  | some slot =>
    have other : (routeOf marker name).1 ≠ slot := by
      rw [default]
      rintro rfl
      exact unmarked h
    simp only [routed_erase given other]

theorem get?_receive_erase {marker name n : String} {merging : MergeRegistry} {attrs : Attrs}
    (default : routeOf marker name = ("", name)) (other : name ≠ n) :
    (receive marker merging (given.erase name) attrs).get? n =
      (receive marker merging given attrs).get? n := by
  unfold receive
  cases attrs.get? marker with
  | none => rfl
  | some slot =>
    have route : routeOf marker name ≠ (slot, n) := by
      rw [default]
      exact fun h => other (Prod.mk.inj h).2
    simp only [MergeRegistry.get?_assign merging (nodup_names_routed marker _ slot),
      get?_routed_erase given slot route]

/-- What becomes of a yield or a slot depends on no attribute but its name. -/
theorem callerRule_congr_of_name {given' : Attrs} {tag : String} {attrs : Attrs}
    (point : tag = o.yieldTag ∨ tag = o.slotTag)
    (name : (receive o.attrMarker (MergeRegistry.ofStrategies o.strategies) given attrs).get? "name" =
      (receive o.attrMarker (MergeRegistry.ofStrategies o.strategies) given' attrs).get? "name") :
    callerRule o given caller tag attrs = callerRule o given' caller tag attrs := by
  by_cases hy : tag = o.yieldTag
  · by_cases hm : caller.main.isEmpty <;> simp [callerRule, Rule.andThen, markRule, yieldRule, hy, hm]
  · have hs : tag = o.slotTag := point.resolve_left hy
    subst hs
    simp [callerRule, Rule.andThen, markRule, yieldRule, slotRule, hy, name]

/-- An attribute for the empty marker leaves no trace when no element with that marker stays. -/
theorem forCaller_erase {name : String} {core : List Node}
    (default : routeOf o.attrMarker name = ("", name)) (other : name ≠ "name")
    (none_stays : ∀ tag attrs cs, .element tag attrs cs ∈ metAmong (callerRule o given caller) core →
      tag ≠ o.yieldTag → tag ≠ o.slotTag → attrs.get? o.attrMarker ≠ some "") :
    forCaller o given caller core = forCaller o (given.erase name) caller core := by
  refine replaceAmong_congr_met core fun tag attrs cs met => ?_
  change callerRule o given caller tag attrs = callerRule o (given.erase name) caller tag attrs
  by_cases point : tag = o.yieldTag ∨ tag = o.slotTag
  · exact callerRule_congr_of_name point (get?_receive_erase default other).symm
  · obtain ⟨hy, hs⟩ := not_or.1 point
    rw [callerRule_stays hy hs, callerRule_stays hy hs,
      receive_erase_of_unmarked default (none_stays tag attrs cs met hy hs)]

/-! ### The first element -/

/-- Whether attributes that are not meant for a marker look for no node beyond this one: it can take
them, or it is a place for content. -/
def heads (o : Options) (n : Node) : Bool :=
  takesUnmarked n || n.hasTag o.yieldTag || n.hasTag o.slotTag

theorem takesUnmarked_distributeIn (marker : String) (merging : MergeRegistry) (n : Node) :
    takesUnmarked (distributeIn marker merging given n) = takesUnmarked n := by
  cases n <;> rfl

theorem distributeAmong_eq_map (marker : String) (merging : MergeRegistry) (ns : List Node) :
    distributeAmong marker merging given ns = ns.map (distributeIn marker merging given) := by
  induction ns with
  | nil => rfl
  | cons n ns ih => rw [distributeAmong, ih, List.map_cons]

theorem giveFirst_append (merging : MergeRegistry) {before : List Node}
    (skipped : ∀ n ∈ before, takesUnmarked n = false) (ns : List Node) :
    giveFirst merging given (before ++ ns) = before ++ giveFirst merging given ns := by
  induction before with
  | nil => rfl
  | cons n before ih =>
    have rest := ih fun m hm => skipped m (List.mem_cons_of_mem n hm)
    have skip := skipped n List.mem_cons_self
    cases n <;> simp_all [giveFirst]

/-- What becomes of a tree after its elements have received their attributes. -/
theorem replaceAmong_distributeAmong (ns : List Node) :
    replaceAmong ((yieldRule o.yieldTag caller.main).andThen (slotRule o.slotTag caller.fills))
      (distributeAmong o.attrMarker (MergeRegistry.ofStrategies o.strategies) given ns) =
        forCaller o given caller ns := by
  rw [distributeAmong_eq, forCaller, ← replaceAmong_replaceAmong (yieldRule _ _),
    replaceAmong_replaceAmong (markRule _ _ _), replaceAmong_replaceAmong]

/-- What a caller gives leaves it where it is whether a node takes attributes that are not meant for
a marker. -/
theorem heads_of_mem_forCaller {core : List Node}
    (bare : ∀ n ∈ core, heads o n = false) :
    ∀ n ∈ forCaller o given caller core, heads o n = false := by
  induction core with
  | nil => exact fun n hn => absurd hn List.not_mem_nil
  | cons m core ih =>
    intro n hn
    have bare_m := bare m List.mem_cons_self
    rcases List.mem_append.1 hn with hn | hn
    · cases m with
      | element tag attrs cs =>
        have unheaded := bare_m
        simp only [heads, Bool.or_eq_false_iff] at unheaded
        obtain ⟨⟨-, hy⟩, hs⟩ := unheaded
        have stays : callerRule o given caller tag attrs = _ :=
          callerRule_stays (by simpa [Node.hasTag, Node.tag?] using hy)
            (by simpa [Node.hasTag, Node.tag?] using hs) attrs
        change n ∈ replaceIn (callerRule o given caller) _ at hn
        rw [replaceIn, stays] at hn
        obtain rfl := List.mem_singleton.1 hn
        exact bare_m
      | _ =>
        obtain rfl := List.mem_singleton.1 hn
        exact bare_m
    · exact ih (fun n hn => bare n (List.mem_cons_of_mem m hn)) n hn

theorem takesUnmarked_of_heads {n : Node} (bare : heads o n = false) : takesUnmarked n = false := by
  simp only [heads, Bool.or_eq_false_iff] at bare
  exact bare.1.1

/-- Attributes that go to the first element at the top stay with it unless it is a place for
content. -/
theorem replaceAmong_giveFirst {before after : List Node} {tag : String} {attrs : Attrs}
    {cs : List Node} (merging : MergeRegistry) (extra : Attrs)
    (skipped : ∀ n ∈ before, takesUnmarked n = false)
    (takes : takesUnmarked (.element tag attrs cs) = true) (hy : tag ≠ o.yieldTag)
    (hs : tag ≠ o.slotTag) (received : merging = MergeRegistry.ofStrategies o.strategies) :
    replaceAmong ((yieldRule o.yieldTag caller.main).andThen (slotRule o.slotTag caller.fills))
      (giveFirst merging extra
        (distributeAmong o.attrMarker merging given (before ++ .element tag attrs cs :: after))) =
      forCaller o given caller before ++
        .element tag (merging.assign (receive o.attrMarker merging given attrs) extra)
          (forCaller o given caller cs) :: forCaller o given caller after := by
  have skipped' : ∀ n ∈ distributeAmong o.attrMarker merging given before,
      takesUnmarked n = false := by
    intro n hn
    rw [distributeAmong_eq_map] at hn
    obtain ⟨m, hm, rfl⟩ := List.mem_map.1 hn
    rw [takesUnmarked_distributeIn]
    exact skipped m hm
  have takes' : takesUnmarked (distributeIn o.attrMarker merging given (.element tag attrs cs)) =
      true := by
    rw [takesUnmarked_distributeIn, takes]
  rw [distributeIn] at takes'
  have split : distributeAmong o.attrMarker merging given (before ++ .element tag attrs cs :: after) =
      distributeAmong o.attrMarker merging given before ++
        .element tag (receive o.attrMarker merging given attrs)
          (distributeAmong o.attrMarker merging given cs) ::
            distributeAmong o.attrMarker merging given after := by
    rw [distributeAmong_eq_map, List.map_append, ← distributeAmong_eq_map, List.map_cons,
      ← distributeAmong_eq_map, distributeIn]
  have stays (as : Attrs) : ((yieldRule o.yieldTag caller.main).andThen
      (slotRule o.slotTag caller.fills)) tag as = .stays as := by
    simp [Rule.andThen, yieldRule, slotRule, hy, hs]
  rw [split, giveFirst_append merging skipped', giveFirst, if_pos takes', replaceAmong_append,
    replaceAmong, replaceIn, stays]
  simp only [List.singleton_append]
  subst received
  simp only [replaceAmong_distributeAmong]

end Receiving

/-! ### Where an attribute of a use goes -/

/-- The attribute is merged into every element with an empty marker that stays where it is. If none
of them does, it leaves no trace. -/
structure MergedAtMarks (o : Options) (given : Attrs) (caller : Content) (core nodes : List Node)
    (name value : String) : Prop where
  merged : ∀ tag attrs cs, .element tag attrs cs ∈ metAmong (callerRule o given caller) core →
    tag ≠ o.yieldTag → tag ≠ o.slotTag → attrs.get? o.attrMarker = some "" →
      ∃ attrs', .element tag attrs' (forCaller o given caller cs) ∈ Node.preorders nodes ∧
        attrs'.get? name = (MergeRegistry.ofStrategies o.strategies).merged?
          (attrs.erase o.attrMarker) name value
  untraced : name ≠ "name" →
    (∀ tag attrs cs, .element tag attrs cs ∈ metAmong (callerRule o given caller) core →
      tag ≠ o.yieldTag → tag ≠ o.slotTag → attrs.get? o.attrMarker ≠ some "") →
      nodes = forCaller o (given.erase name) caller core

/-- The attribute is merged into the first element at the top that is no script and no style, unless
that is a place for content. -/
def MergedAtTop (o : Options) (given : Attrs) (caller : Content) (core nodes : List Node)
    (name value : String) : Prop :=
  ∃ before tag attrs cs after, core = before ++ .element tag attrs cs :: after ∧
    (∀ n ∈ before, heads o n = false) ∧
    (tag ≠ o.yieldTag → tag ≠ o.slotTag → ∃ attrs',
      nodes = forCaller o given caller before ++
        .element tag attrs' (forCaller o given caller cs) :: forCaller o given caller after ∧
      attrs'.get? name = (MergeRegistry.ofStrategies o.strategies).merged?
        (receive o.attrMarker (MergeRegistry.ofStrategies o.strategies) given attrs) name value)

section Merged

variable {o : Options} {given : Attrs} {caller : Content} {core nodes : List Node}
  {name value : String}

theorem mergedAtMarks_of_project
    (marked : (Node.preorders core).any (fun n => n.attrs.get? o.attrMarker == some "") = true)
    (projected : project o.yieldTag o.slotTag caller
      (distribute o.attrMarker (MergeRegistry.ofStrategies o.strategies) given core) = .ok nodes)
    (default : routeOf o.attrMarker name = ("", name))
    (found : (routed o.attrMarker given "").get? name = some value) :
    MergedAtMarks o given caller core nodes name value := by
  have eq_forCaller : nodes = forCaller o given caller core := by
    rw [project_ok projected, distribute]
    simp only [marked, if_true, replaceAmong_distributeAmong]
  refine ⟨fun tag attrs cs met hy hs mark => ?_, fun other none_stays => ?_⟩
  · rw [eq_forCaller]
    exact ⟨_, mem_preorders_replaceAmong (callerRule_stays hy hs attrs) core met,
      get?_receive_of_marked mark found⟩
  · rw [eq_forCaller, forCaller_erase default other none_stays]

theorem mergedAtTop_of_project
    (unmarked : (Node.preorders core).any (fun n => n.attrs.get? o.attrMarker == some "") = false)
    (projected : project o.yieldTag o.slotTag caller
      (distribute o.attrMarker (MergeRegistry.ofStrategies o.strategies) given core) = .ok nodes)
    (found : (routed o.attrMarker given "").get? name = some value)
    (takes : ∃ n ∈ nodes, takesUnmarked n = true) :
    MergedAtTop o given caller core nodes name value := by
  have nodes_eq := project_ok projected
  rw [distribute] at nodes_eq
  simp only [unmarked, Bool.false_eq_true, if_false] at nodes_eq
  cases first : core.find? (heads o) with
  | none =>
    -- Without such an element nothing is given, and no node at the top takes attributes.
    have bare : ∀ n ∈ core, heads o n = false := by simpa using List.find?_eq_none.1 first
    let received := distributeAmong o.attrMarker (MergeRegistry.ofStrategies o.strategies) given core
    have skipped : ∀ n ∈ received, takesUnmarked n = false := by
      intro n hn
      simp only [received, distributeAmong_eq_map] at hn
      obtain ⟨m, hm, rfl⟩ := List.mem_map.1 hn
      rw [takesUnmarked_distributeIn]
      exact takesUnmarked_of_heads (bare m hm)
    have ungiven : giveFirst (MergeRegistry.ofStrategies o.strategies)
        (routed o.attrMarker given "") (received ++ []) = received ++ [] :=
      giveFirst_append _ skipped []
    rw [List.append_nil] at ungiven
    rw [ungiven, replaceAmong_distributeAmong] at nodes_eq
    obtain ⟨n, hn, htakes⟩ := takes
    rw [nodes_eq] at hn
    exact absurd htakes (by simp [takesUnmarked_of_heads (heads_of_mem_forCaller bare n hn)])
  | some n =>
    obtain ⟨hn, before, after, rfl, hbefore⟩ := List.find?_eq_some_iff_append.1 first
    have bare : ∀ m ∈ before, heads o m = false := fun m hm => by simpa using hbefore m hm
    have skipped : ∀ m ∈ before, takesUnmarked m = false := fun m hm =>
      takesUnmarked_of_heads (bare m hm)
    cases n with
    | element tag attrs cs =>
      refine ⟨before, tag, attrs, cs, after, rfl, bare, fun hy hs => ?_⟩
      have takes : takesUnmarked (.element tag attrs cs) = true := by
        simpa [heads, Node.hasTag, Node.tag?, hy, hs] using hn
      refine ⟨_, nodes_eq.trans (replaceAmong_giveFirst _ _ skipped takes hy hs rfl), ?_⟩
      rw [MergeRegistry.get?_assign _ (nodup_names_routed _ _ _), found]
    | _ => simp [heads, takesUnmarked, Node.isElement, Node.hasTag, Node.tag?] at hn

end Merged

variable {V W : Type}

/-- The run of a use comes to this tree of the component, to which nothing is given yet, to these
attributes that its scripts leave, and to this content to project into it. -/
def Gathers (setting : Setting V W) (deeper : Place V → List Node → Expansion W (List Node))
    (place : Place V) (u : Use) (inside : Expansion W (List Node)) (s : State W)
    (core : List Node) (left : Attrs) (content : Content) : Prop :=
  ∃ source s₁ forest scope w s₂ given s₃, Ends (findSource place u) s source s₁ ∧
    parse source = .ok forest ∧
    Ends (runScripts setting.evaluator u.attrs place.scope
      ((forest.filter isServerScript).map scriptBody)) s₁.world (scope, left) w ∧
    Ends (deeper { scope := scope, stack := place.stack ++ [u.name] }
      (forest.filter fun n => !isServerScript n)) { s₁ with world := w, notes := [] } core s₂ ∧
    Ends (within (u.node left) inside)
      { s₂ with notes := s₂.notes.map Note.complete ++ s₁.notes } given s₃ ∧
    Content.ofNodes? setting.options.fillTag given = some content

/-- An attribute that the scripts of the component leave, and that is meant for no marker, is merged
into the elements with an empty marker that stay or, when there is no such marker and an element
that can take attributes is at the top of what the use becomes, into the first one of the
component's tree. -/
theorem expandUse_receives {setting : Setting V W}
    {deeper : Place V → List Node → Expansion W (List Node)} {place : Place V} {u : Use}
    {inside : Expansion W (List Node)} {s s' : State W} {nodes : List Node}
    (run : Ends (expandUse setting deeper place u inside) s nodes s') :
    ∃ core left content, Gathers setting deeper place u inside s core left content ∧
      let o := setting.options
      ∀ name ∈ left.names,
        (∀ slot target, splitColons 3 name ≠ some [o.attrMarker, slot, target]) →
        ∃ value, (name, value) ∈ left ∧
          if (Node.preorders core).any fun n => n.attrs.get? o.attrMarker == some "" then
            MergedAtMarks o left content core nodes name value
          else (∃ n ∈ nodes, takesUnmarked n = true) →
            MergedAtTop o left content core nodes name value := by
  obtain ⟨-, source, s₁, tree, left, s₂, given, content, hsource, htree, hgiven, hcontent,
    hproject⟩ := ends_expandUse_iff.1 run
  obtain ⟨forest, scope, w, core, s₃, hforest, hscripts, hcore, rfl, rfl⟩ :=
    ends_expandSource_iff.1 htree
  refine ⟨core, left, content, ⟨source, s₁, forest, scope, w, s₃, given, s', hsource, hforest,
    hscripts, hcore, hgiven, hcontent⟩, fun name mem unrouted => ?_⟩
  have default := routeOf_of_unrouted unrouted
  obtain ⟨value, hvalue, found⟩ := exists_get?_routed mem default
  refine ⟨value, hvalue, ?_⟩
  split
  · rename_i marked
    exact mergedAtMarks_of_project marked hproject default found
  · rename_i unmarked
    exact mergedAtTop_of_project (Bool.eq_false_iff.2 unmarked) hproject found

/-- A use of a component with an attribute and content. -/
def markedUse : Use where
  tag := "x-c"
  attrs := [("id", "a")]
  children := [.text "hi"]
  name := "c"

theorem expandUse_receives_markedUse :
    ∃ core left content,
      Gathers nameSetting (expandLevels nameSetting 1) { scope := .root [] } markedUse
        (return markedUse.children) (nameStart [("c", "<p></p><b attr><yield></yield></b>")]) core
        left content ∧
      left = [("id", "a")] ∧
      MergedAtMarks nameOptions left content core
        [.element "p" [] [], .element "b" [("id", "a")] [.text "hi"]] "id" "a" := by
  have run : Ends (expandUse nameSetting (expandLevels nameSetting 1) { scope := .root [] }
      markedUse (return markedUse.children))
      (nameStart [("c", "<p></p><b attr><yield></yield></b>")])
      [.element "p" [] [], .element "b" [("id", "a")] [.text "hi"]] _ :=
    ends_of_toOption (by decide +kernel)
  obtain ⟨core, left, content, gathered, receives⟩ := expandUse_receives run
  refine ⟨core, left, content, gathered, ?_⟩
  obtain ⟨source, s₁, forest, scope, w, s₂, -, -, hsource, hforest, hscripts, hcore, -⟩ := gathered
  obtain ⟨rfl, rfl⟩ := ends_unique hsource
    (ends_of_toOption (a := "<p></p><b attr><yield></yield></b>") (by decide +kernel))
  obtain rfl : forest = [.element "p" [] [],
      .element "b" [("attr", "")] [.element "yield" [] []]] :=
    Except.ok.inj (hforest.symm.trans (by decide +kernel))
  have scripts (w : NameState) : Ends (runScripts nameLanguage markedUse.attrs (.root []) []) w
      ((Scope.root []).child [], [("id", "a")]) { w with used := [] } := rfl
  obtain ⟨same, rfl⟩ := ends_unique hscripts (scripts _)
  obtain ⟨rfl, rfl⟩ := Prod.mk.inj same
  obtain ⟨rfl, -⟩ := ends_unique hcore (ends_of_toOption
    (a := [.element "p" [] [], .element "b" [("attr", "")] [.element "yield" [] []]])
    (by decide +kernel))
  obtain ⟨value, hvalue, merged⟩ := receives "id" (by decide) fun slot target => by
    have uncut : splitColons 3 "id" = none := by decide
    simp [uncut]
  obtain rfl : value = "a" := by simpa using hvalue
  exact ⟨rfl, merged⟩

/-- An element with an empty marker that is only there when no content is given does not keep the
attribute that it takes: the attribute is lost, though there is another element at the top. -/
theorem attr_in_replaced_content_lost :
    let source := "<p></p><yield><b attr></b></yield>"
    let nodes := [Node.element "p" [] [], .text "hi"]
    ((expandUse nameSetting (expandLevels nameSetting 1) { scope := .root [] } markedUse
      (return markedUse.children) (nameStart [("c", source)])).1.toOption = some nodes ∧
      (∃ n ∈ nodes, takesUnmarked n = true) ∧ splitColons 3 "id" = none ∧
      (∀ own : Attrs, (MergeRegistry.ofStrategies []).merged? own "id" "a" = some "a") ∧
      ∀ n ∈ Node.preorders nodes, n.attrs.get? "id" ≠ some "a") ∧
    (compileSource nameSetting (.root []) "<x-c id=\"a\">hi</x-c>"
      (nameStart [("c", source)])).1.toOption = some "<p></p>hi" := by
  refine ⟨⟨by decide +kernel, ⟨_, List.mem_cons_self, rfl⟩, by decide, fun own => rfl,
    by decide⟩, by decide +kernel⟩

end Expand

end HtmlTemplate
