import HtmlTemplate.Proofs.ReceivedAttributes

/-!
# Where attributes go

`distribute` gives the attributes of a caller to the elements of a tree. `distribute_exact` says all
that it does: the marked elements lose their markers and take, by the rules of merging, the
attributes that are meant for them; without an empty marker the first element at the top that is no
script and no style takes the attributes that are meant for none; nothing else changes.
-/

namespace HtmlTemplate

/-! ### One element -/

/-- The attributes `own` of an element have become `now` because others were given to it. -/
structure Merged (merging : MergeRegistry) (given own now : Bindings String) : Prop where
  /-- The others are merged in one after the other. -/
  in_order : now = merging.assign own given
  /-- Each of them is merged with what the element itself has under its name. -/
  resolved : ∀ a ∈ given, now.get? a.1 = merging.merged? own a.1 a.2
  /-- Attributes under other names stay as they are, in their order. -/
  others : (now.filter fun a => !given.names.contains a.1) =
    own.filter fun a => !given.names.contains a.1

namespace MergeRegistry

theorem filter_assignOne {p : String → Bool} {name : String} (other : p name = false)
    (r : MergeRegistry) (own : Bindings String) (value : String) :
    (r.assignOne own name value).filter (fun a => p a.1) = own.filter fun a => p a.1 := by
  unfold assignOne
  cases r.resolve name (own.get? name) value with
  | value s => exact Bindings.filter_put other own s
  | present => exact Bindings.filter_put other own ""
  | removed => exact Bindings.filter_erase other own

theorem filter_assign {p : String → Bool} (r : MergeRegistry) (own : Bindings String)
    {given : Bindings String} (other : ∀ a ∈ given, p a.1 = false) :
    (r.assign own given).filter (fun a => p a.1) = own.filter fun a => p a.1 := by
  induction given generalizing own with
  | nil => rfl
  | cons a given ih =>
    change ((r.assign (r.assignOne own a.1 a.2) given).filter fun a => p a.1) = _
    rw [ih _ fun a ha => other a (List.mem_cons_of_mem _ ha),
      filter_assignOne (other a List.mem_cons_self)]

theorem merged_assign (r : MergeRegistry) (own : Bindings String) {given : Bindings String}
    (distinct : given.names.Nodup) : Merged r given own (r.assign own given) where
  in_order := rfl
  resolved a ha := by
    rw [get?_assign r distinct, Bindings.get?_of_mem distinct ha]
  others := by
    refine r.filter_assign (p := fun name => !given.names.contains name) own fun a ha => ?_
    have named : a.1 ∈ given.names := List.mem_map_of_mem ha
    simpa using named

end MergeRegistry

namespace Markup.Node

mutual

/-- The tree with other attributes at its elements. -/
def mapAttrs (f : Attrs → Attrs) : Node → Node
  | element tag attrs cs => element tag (f attrs) (mapsAttrs f cs)
  | fragment cs => fragment (mapsAttrs f cs)
  | n => n

/-- The forest with other attributes at its elements. -/
def mapsAttrs (f : Attrs → Attrs) : List Node → List Node
  | [] => []
  | n :: ns => mapAttrs f n :: mapsAttrs f ns

end

theorem mapsAttrs_append (f : Attrs → Attrs) (ms ns : List Node) :
    mapsAttrs f (ms ++ ns) = mapsAttrs f ms ++ mapsAttrs f ns := by
  induction ms with
  | nil => rfl
  | cons m ms ih => rw [List.cons_append, mapsAttrs, ih, mapsAttrs, List.cons_append]

mutual

theorem preorder_mapAttrs (f : Attrs → Attrs) :
    ∀ n : Node, preorder (mapAttrs f n) = (preorder n).map (mapAttrs f)
  | element _ _ cs => by simp [mapAttrs, preorder, preorders_mapsAttrs f cs]
  | fragment cs => by simp [mapAttrs, preorder, preorders_mapsAttrs f cs]
  | text _ | comment _ | directive _ | blank => rfl

theorem preorders_mapsAttrs (f : Attrs → Attrs) :
    ∀ ns : List Node, preorders (mapsAttrs f ns) = (preorders ns).map (mapAttrs f)
  | [] => rfl
  | n :: ns => by
    rw [mapsAttrs, preorders, preorder_mapAttrs f n, preorders_mapsAttrs f ns, preorders,
      List.map_append]

end

theorem attrs_mapAttrs (f : Attrs → Attrs) (n : Node) :
    (mapAttrs f n).attrs = if n.isElement then f n.attrs else [] := by
  cases n <;> rfl

end Markup.Node

namespace Expand

open HtmlTemplate.Markup HtmlTemplate.Naming Node

mutual

theorem distributeIn_eq_mapAttrs (marker : String) (merging : MergeRegistry) (given : Attrs) :
    ∀ n : Node, distributeIn marker merging given n = mapAttrs (receive marker merging given) n
  | .element _ _ cs => by
    rw [distributeIn, mapAttrs, distributeAmong_eq_mapsAttrs marker merging given cs]
  | .fragment cs => by
    rw [distributeIn, mapAttrs, distributeAmong_eq_mapsAttrs marker merging given cs]
  | .text _ | .comment _ | .directive _ | .blank => rfl

theorem distributeAmong_eq_mapsAttrs (marker : String) (merging : MergeRegistry) (given : Attrs) :
    ∀ ns : List Node,
      distributeAmong marker merging given ns = mapsAttrs (receive marker merging given) ns
  | [] => rfl
  | n :: ns => by
    rw [distributeAmong, mapsAttrs, distributeIn_eq_mapAttrs marker merging given n,
      distributeAmong_eq_mapsAttrs marker merging given ns]

end

/-! ### What is meant for a slot -/

/-- What an attribute of a caller is for the elements that are marked with `slot`: behind the marker
and that slot the name that follows. An attribute that names no slot is meant for the empty one,
under its own name. -/
def meantFor? (marker slot : String) (a : String × String) : Option (String × String) :=
  match splitColons 3 a.1 with
  | some [m, s, target] =>
    if m = marker then (if s = slot then some (target, a.2) else none)
    else (if slot = "" then some a else none)
  | _ => if slot = "" then some a else none

/-- The attributes that are meant for a slot, in the order of the caller. -/
def meantFor (marker slot : String) (given : Attrs) : Attrs :=
  given.filterMap (meantFor? marker slot)

/-- No attribute is the marker, nor becomes it behind a slot. -/
def SparesMarker (marker : String) (given : Attrs) : Prop :=
  ∀ name ∈ given.names, name ≠ marker ∧ ∀ slot, splitColons 3 name ≠ some [marker, slot, marker]

section Meant

variable {marker slot : String} {given : Attrs}

theorem meantFor?_eq (a : String × String) :
    meantFor? marker slot a =
      if (routeOf marker a.1).1 = slot then some ((routeOf marker a.1).2, a.2) else none := by
  have turned : ("" = slot) = (slot = "") := propext eq_comm
  unfold meantFor?
  split
  · rename_i m s target segments
    by_cases hm : m = marker
    · simp [routeOf, segments, hm]
    · have unrouted : routeOf marker a.1 = ("", a.1) := by simp [routeOf, segments, hm]
      simp only [unrouted, hm, if_false, turned]
  · rename_i uncut
    rw [routeOf_of_unrouted fun s target segments => uncut _ _ _ segments]
    simp only [turned]

theorem routeOf_of_slot {name : String} (h : (routeOf marker name).1 ≠ "") :
    splitColons 3 name = some [marker, (routeOf marker name).1, (routeOf marker name).2] := by
  unfold routeOf at h ⊢
  split at h
  · rename_i m s target segments
    by_cases hm : m = marker
    · simp [segments, hm]
    · simp [hm] at h
  · exact absurd rfl h

/-- Different attributes go to different slots or have different names there. -/
theorem routeOf_injective {name name' : String} (h : routeOf marker name = routeOf marker name') :
    name = name' := by
  by_cases default : (routeOf marker name).1 = ""
  · have default' : (routeOf marker name').1 = "" := h ▸ default
    rw [routeOf_of_default default, routeOf_of_default default'] at h
    exact (Prod.mk.inj h).2
  · have segments' := routeOf_of_slot (h ▸ default)
    rw [← h] at segments'
    exact eq_of_splitColons (routeOf_of_slot default) segments'

theorem mem_meantFor_iff {b : String × String} :
    b ∈ meantFor marker slot given ↔ ∃ a ∈ given, routeOf marker a.1 = (slot, b.1) ∧ a.2 = b.2 := by
  unfold meantFor
  rw [List.mem_filterMap]
  refine exists_congr fun a => and_congr_right fun _ => ?_
  rw [meantFor?_eq, Prod.ext_iff]
  split
  · rename_i same
    simp [same, Prod.ext_iff]
  · rename_i other
    simp [other]

/-- The routed attributes are those that are meant for the slot. -/
theorem routed_eq_meantFor (distinct : given.names.Nodup) :
    routed marker given slot = meantFor marker slot given := by
  induction given using List.reverseRecOn with
  | nil => rfl
  | append_singleton given a ih =>
    rw [Bindings.names, List.map_append, List.map_singleton] at distinct
    obtain ⟨distinct, -, apart⟩ := List.nodup_append.1 distinct
    have step : meantFor marker slot (given ++ [a]) =
        meantFor marker slot given ++ (meantFor? marker slot a).toList := by
      rw [meantFor, List.filterMap_append, meantFor]
      cases h : meantFor? marker slot a <;> simp [h]
    rw [routed_concat, ih distinct, step, meantFor?_eq]
    by_cases same : (routeOf marker a.1).1 = slot
    · have fresh : (routeOf marker a.1).2 ∉ (meantFor marker slot given).names := by
        intro mem
        obtain ⟨b, hb, hname⟩ := List.mem_map.1 mem
        obtain ⟨a', ha', route, -⟩ := mem_meantFor_iff.1 hb
        have again : routeOf marker a'.1 = routeOf marker a.1 := by
          rw [route, hname, ← same]
        exact apart _ (List.mem_map_of_mem ha') _ List.mem_cons_self (routeOf_injective again)
      simp [same, Bindings.put_of_fresh fresh]
    · simp [same]

theorem nodup_names_meantFor (distinct : given.names.Nodup) :
    (meantFor marker slot given).names.Nodup :=
  routed_eq_meantFor distinct ▸ nodup_names_routed marker given slot

theorem marker_not_mem_meantFor (spares : SparesMarker marker given) :
    ∀ a ∈ meantFor marker slot given, a.1 ≠ marker := by
  intro b hb same
  obtain ⟨a, ha, route, -⟩ := mem_meantFor_iff.1 hb
  obtain ⟨unnamed, unrouted⟩ := spares a.1 (List.mem_map_of_mem ha)
  rw [same] at route
  by_cases default : (routeOf marker a.1).1 = ""
  · rw [routeOf_of_default default] at route
    exact unnamed (Prod.mk.inj route).2
  · have segments := routeOf_of_slot default
    rw [route] at segments
    exact unrouted slot segments

end Meant

/-! ### The whole tree -/

section Whole

variable {marker : String} {merging : MergeRegistry} {given : Attrs}

theorem receive_of_unmarked {attrs : Attrs} (unmarked : attrs.get? marker = none) :
    receive marker merging given attrs = attrs := by
  rw [receive, unmarked]

theorem merged_receive (distinct : given.names.Nodup) {attrs : Attrs} {slot : String}
    (marked : attrs.get? marker = some slot) :
    Merged merging (meantFor marker slot given) (attrs.erase marker)
      (receive marker merging given attrs) := by
  have received : receive marker merging given attrs =
      merging.assign (attrs.erase marker) (meantFor marker slot given) := by
    rw [receive, marked, ← routed_eq_meantFor distinct]
  rw [received]
  exact merging.merged_assign _ (nodup_names_meantFor distinct)

/-- What is merged in from a caller that spares the marker brings no marker. -/
theorem get?_marker_of_merged {slot : String} {own now : Attrs} (distinct : given.names.Nodup)
    (spares : SparesMarker marker given) (unmarked : own.get? marker = none)
    (merged : Merged merging (meantFor marker slot given) own now) : now.get? marker = none := by
  have absent : Bindings.get? (meantFor marker slot given) marker = none := by
    rw [← Option.not_isSome_iff_eq_none, Bindings.isSome_get?_iff]
    intro mem
    obtain ⟨a, ha, same⟩ := List.mem_map.1 mem
    exact marker_not_mem_meantFor spares a ha same
  rw [merged.in_order, merging.get?_assign (nodup_names_meantFor distinct), absent]
  exact unmarked

theorem get?_marker_receive (distinct : given.names.Nodup) (spares : SparesMarker marker given)
    (attrs : Attrs) : (receive marker merging given attrs).get? marker = none := by
  cases h : attrs.get? marker with
  | none => rw [receive_of_unmarked h, h]
  | some slot =>
    refine get?_marker_of_merged distinct spares ?_ (merged_receive distinct h)
    rw [Bindings.get?_erase, if_pos rfl]

/-- The first element that can take attributes takes them. -/
theorem giveFirst_at {extra : Attrs} {before after : List Node} {tag : String} {attrs : Attrs}
    {cs : List Node} (skipped : ∀ n ∈ before, takesUnmarked n = false)
    (takes : takesUnmarked (.element tag attrs cs) = true) :
    giveFirst merging extra (before ++ .element tag attrs cs :: after) =
      before ++ .element tag (merging.assign attrs extra) cs :: after := by
  rw [giveFirst_append merging skipped, giveFirst, if_pos takes]

/-- The elements that take attributes without being marked are those that are no script and no
style. -/
theorem takesUnmarked_iff {n : Node} : takesUnmarked n = true ↔
    ∃ tag attrs cs, n = .element tag attrs cs ∧ tag ≠ "script" ∧ tag ≠ "style" := by
  cases n <;> simp [takesUnmarked, Node.isElement, Node.hasTag, Node.tag?]

theorem takesUnmarked_mapAttrs (f : Attrs → Attrs) (n : Node) :
    takesUnmarked (mapAttrs f n) = takesUnmarked n := by
  cases n <;> rfl

theorem skipped_mapsAttrs {f : Attrs → Attrs} {ns : List Node}
    (skipped : ∀ n ∈ ns, takesUnmarked n = false) :
    ∀ n ∈ mapsAttrs f ns, takesUnmarked n = false := by
  induction ns with
  | nil => exact fun n hn => absurd hn List.not_mem_nil
  | cons m ns ih =>
    refine List.forall_mem_cons.2 ⟨?_, ih fun n hn => skipped n (List.mem_cons_of_mem m hn)⟩
    rw [takesUnmarked_mapAttrs]
    exact skipped m List.mem_cons_self

/-- No element of a forest has the attribute. -/
def Free (marker : String) (forest : List Node) : Prop :=
  ∀ n ∈ Node.preorders forest, n.attrs.get? marker = none

theorem free_mapsAttrs {f : Attrs → Attrs} (free : ∀ attrs, (f attrs).get? marker = none)
    (forest : List Node) : Free marker (mapsAttrs f forest) := by
  intro n hn
  rw [preorders_mapsAttrs] at hn
  obtain ⟨m, -, rfl⟩ := List.mem_map.1 hn
  rw [attrs_mapAttrs]
  split
  · exact free m.attrs
  · rfl

theorem free_append {ms ns : List Node} :
    Free marker (ms ++ ns) ↔ Free marker ms ∧ Free marker ns := by
  simp only [Free, Node.preorders_append, List.forall_mem_append]

theorem free_element_cons {tag : String} {attrs : Attrs} {cs ns : List Node} :
    Free marker (.element tag attrs cs :: ns) ↔
      attrs.get? marker = none ∧ Free marker cs ∧ Free marker ns := by
  simp only [Free, preorders, preorder, List.cons_append, List.forall_mem_cons,
    List.forall_mem_append, Node.attrs]

/-- Whether some element of a forest has an empty marker. -/
def ClaimsDefault (marker : String) (forest : List Node) : Prop :=
  ∃ n ∈ Node.preorders forest, n.attrs.get? marker = some ""

instance (forest : List Node) : Decidable (ClaimsDefault marker forest) :=
  inferInstanceAs (Decidable (∃ n ∈ Node.preorders forest, n.attrs.get? marker = some ""))

/-- What is distributed among a forest: at each element the attributes change as `f` says, and no
others do, except that without an empty marker the first element at the top that is no script and no
style takes the attributes that are meant for no slot besides. -/
def GivenTo (marker : String) (merging : MergeRegistry) (given : Attrs) (f : Attrs → Attrs)
    (forest forest' : List Node) : Prop :=
  if ClaimsDefault marker forest ∨ ∀ n ∈ forest, takesUnmarked n = false then
    forest' = mapsAttrs f forest
  else ∃ before tag attrs cs after now, forest = before ++ .element tag attrs cs :: after ∧
    (∀ n ∈ before, takesUnmarked n = false) ∧ tag ≠ "script" ∧ tag ≠ "style" ∧
    Merged merging (meantFor marker "" given) (f attrs) now ∧
    forest' = mapsAttrs f before ++ .element tag now (mapsAttrs f cs) :: mapsAttrs f after

theorem giveFirst_of_none {extra : Attrs} {ns : List Node}
    (skipped : ∀ n ∈ ns, takesUnmarked n = false) : giveFirst merging extra ns = ns := by
  have h : giveFirst merging extra (ns ++ []) = ns ++ [] := giveFirst_append merging skipped []
  rwa [List.append_nil] at h

theorem givenTo_distribute (distinct : given.names.Nodup) (forest : List Node) :
    GivenTo marker merging given (receive marker merging given) forest
      (distribute marker merging given forest) := by
  have claimed : ((Node.preorders forest).any fun n => n.attrs.get? marker == some "") = true ↔
      ClaimsDefault marker forest := by
    simp [ClaimsDefault]
  unfold GivenTo distribute
  simp only [claimed, distributeAmong_eq_mapsAttrs]
  by_cases claims : ClaimsDefault marker forest
  · simp only [claims, true_or, if_true]
  simp only [claims, false_or, if_false]
  split
  · rename_i none_takes
    exact giveFirst_of_none (skipped_mapsAttrs none_takes)
  · rename_i some_takes
    cases first : forest.find? takesUnmarked with
    | none => exact absurd (by simpa using List.find?_eq_none.1 first) some_takes
    | some n =>
      obtain ⟨takes, before, after, rfl, hbefore⟩ := List.find?_eq_some_iff_append.1 first
      have skipped : ∀ m ∈ before, takesUnmarked m = false := by simpa using hbefore
      obtain ⟨tag, attrs, cs, rfl, no_script, no_style⟩ := takesUnmarked_iff.1 takes
      refine ⟨before, tag, attrs, cs, after, _, rfl, skipped, no_script, no_style,
        merging.merged_assign _ (nodup_names_meantFor distinct), ?_⟩
      rw [← routed_eq_meantFor distinct, mapsAttrs_append, mapsAttrs, mapAttrs]
      exact giveFirst_at (skipped_mapsAttrs skipped) takes

theorem free_of_givenTo {f : Attrs → Attrs} (distinct : given.names.Nodup)
    (spares : SparesMarker marker given) (free : ∀ attrs, (f attrs).get? marker = none)
    {forest forest' : List Node} (done : GivenTo marker merging given f forest forest') :
    Free marker forest' := by
  unfold GivenTo at done
  split at done
  · rw [done]
    exact free_mapsAttrs free forest
  · obtain ⟨before, tag, attrs, cs, after, now, rfl, -, -, -, merged, rfl⟩ := done
    rw [free_append, free_element_cons]
    exact ⟨free_mapsAttrs free before,
      get?_marker_of_merged distinct spares (free attrs) merged, free_mapsAttrs free cs,
      free_mapsAttrs free after⟩

/-- Attributes are distributed exactly: no element keeps a marker; an element that was marked with a
slot has lost its marker and has taken, in the order of the caller and by the rules of merging, what
is meant for that slot; an element that was not marked has kept its attributes. Without an empty
marker what is meant for no slot goes to the first element at the top that is no script and no
style. Nothing else is changed. -/
theorem distribute_exact {marker : String} (merging : MergeRegistry) {given : Attrs}
    (distinct : given.names.Nodup) (spares : SparesMarker marker given) (forest : List Node) :
    Free marker (distribute marker merging given forest) ∧
    ∃ f : Attrs → Attrs,
      (∀ attrs, attrs.get? marker = none → f attrs = attrs) ∧
      (∀ attrs slot, attrs.get? marker = some slot →
        Merged merging (meantFor marker slot given) (attrs.erase marker) (f attrs)) ∧
      GivenTo marker merging given f forest (distribute marker merging given forest) :=
  have done := givenTo_distribute distinct forest
  ⟨free_of_givenTo distinct spares (get?_marker_receive distinct spares) done,
    receive marker merging given, fun _ => receive_of_unmarked,
    fun _ _ => merged_receive distinct, done⟩

end Whole

/-- Attributes for the slot `inner`, one of which has a name that begins with a colon, and one for
no slot. -/
def cardAttrs : Attrs := [("attr:inner::class", "c"), ("id", "a"), ("attr:inner:class", "k")]

/-- A tree in which two elements are marked with `inner` and none has an empty marker. -/
def cardTree : List Node :=
  [.element "script" [] [],
    .element "p" [("class", "x"), ("attr", "inner")] [.element "b" [("attr", "inner")] []]]

theorem distribute_exact_cardTree :
    (Bindings.names cardAttrs).Nodup ∧ SparesMarker "attr" cardAttrs ∧
    distribute "attr" (MergeRegistry.ofStrategies []) cardAttrs cardTree =
      [.element "script" [] [],
        .element "p" [("class", "x k"), (":class", "c"), ("id", "a")]
          [.element "b" [(":class", "c"), ("class", "k")] []]] ∧
    Free "attr" (distribute "attr" (MergeRegistry.ofStrategies []) cardAttrs cardTree) := by
  have distinct : (Bindings.names cardAttrs).Nodup := by decide
  have spares : SparesMarker "attr" cardAttrs := by
    have first : splitColons 3 "attr:inner::class" = some ["attr", "inner", ":class"] := by decide
    have second : splitColons 3 "id" = none := by decide
    have third : splitColons 3 "attr:inner:class" = some ["attr", "inner", "class"] := by decide
    simp [SparesMarker, cardAttrs, Bindings.names, first, second, third]
  exact ⟨distinct, spares, by decide +kernel, (distribute_exact _ distinct spares cardTree).1⟩

end Expand
end HtmlTemplate
