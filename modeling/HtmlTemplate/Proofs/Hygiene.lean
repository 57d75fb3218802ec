import HtmlTemplate.Expand.Reference
import HtmlTemplate.Proofs.NameLanguage
import HtmlTemplate.Proofs.Replacement
import HtmlTemplate.Proofs.Uses

/-!
# Slots in the content of a use

A component may use another one and give it content with slots of its own, for its own caller to
fill. `Content.into` puts content into a tree and leaves the slots in the content alone; `forCaller`
is what the component's caller makes of that later on. Projection does more: it resolves the slots
of the content at once, by the fills of the use itself. `expandUse_hygienic_iff` says what becomes
of them, and exactly when that makes no difference.
-/

namespace HtmlTemplate.Expand

open HtmlTemplate.Markup HtmlTemplate.Component Expansion

variable {V W : Type}

/-! ### Filling slots -/

theorem slotRule_of_ne {tag t : String} (fills : Bindings (List Node)) (attrs : Attrs)
    (h : t ≠ tag) : slotRule tag fills t attrs = .stays attrs := by
  simp [slotRule, h]

mutual

theorem replaceIn_slotRule_of_lacks {tag : String} (fills : Bindings (List Node)) :
    ∀ n : Node, Lacks tag [n] → replaceIn (slotRule tag fills) n = [n]
  | .element t attrs cs, h => by
    obtain ⟨ht, hcs⟩ := lacks_element_iff.1 h
    rw [replaceIn, slotRule_of_ne fills attrs ht]
    simp only [replaceAmong_slotRule_of_lacks fills cs hcs]
  | .fragment cs, h => by
    rw [replaceIn, replaceAmong_slotRule_of_lacks fills cs (lacks_fragment_iff.1 h)]
  | .text _, _ => rfl
  | .comment _, _ => rfl
  | .directive _, _ => rfl
  | .blank, _ => rfl

/-- Fills change nothing in a forest without slots. -/
theorem replaceAmong_slotRule_of_lacks {tag : String} (fills : Bindings (List Node)) :
    ∀ ns : List Node, Lacks tag ns → replaceAmong (slotRule tag fills) ns = ns
  | [], _ => rfl
  | n :: ns, h => by
    obtain ⟨hn, hns⟩ := lacks_cons_iff.1 h
    rw [replaceAmong, replaceIn_slotRule_of_lacks fills n hn,
      replaceAmong_slotRule_of_lacks fills ns hns, List.singleton_append]

end

mutual

theorem lacks_replaceIn_slotRule {tag : String} {fills : Bindings (List Node)}
    (bare : ∀ name nodes, fills.get? name = some nodes → Lacks tag nodes) :
    ∀ n : Node, Lacks tag (replaceIn (slotRule tag fills) n)
  | .element t attrs cs => by
    have inside := lacks_replaceAmong_slotRule bare cs
    by_cases ht : t = tag
    · cases hfill : (attrs.get? "name").bind fills.get? with
      | none => simpa [replaceIn, slotRule, ht, hfill] using inside
      | some nodes =>
        obtain ⟨name, -, hname⟩ := Option.bind_eq_some_iff.1 hfill
        simpa [replaceIn, slotRule, ht, hfill] using bare name nodes hname
    · rw [replaceIn, slotRule_of_ne fills attrs ht]
      exact lacks_element_iff.2 ⟨ht, inside⟩
  | .fragment cs => lacks_fragment_iff.2 (lacks_replaceAmong_slotRule bare cs)
  | .text _ => lacks_leaf rfl rfl tag
  | .comment _ => lacks_leaf rfl rfl tag
  | .directive _ => lacks_leaf rfl rfl tag
  | .blank => lacks_leaf rfl rfl tag

/-- No slot is left where all slots are filled with nodes that have none. -/
theorem lacks_replaceAmong_slotRule {tag : String} {fills : Bindings (List Node)}
    (bare : ∀ name nodes, fills.get? name = some nodes → Lacks tag nodes) :
    ∀ ns : List Node, Lacks tag (replaceAmong (slotRule tag fills) ns)
  | [] => lacks_nil tag
  | n :: ns => lacks_append_iff.2
      ⟨lacks_replaceIn_slotRule bare n, lacks_replaceAmong_slotRule bare ns⟩

end

/-- Fills without slots leave a forest as it is exactly when it has no slots. -/
theorem replaceAmong_slotRule_eq_self_iff {tag : String} {fills : Bindings (List Node)}
    (bare : ∀ name nodes, fills.get? name = some nodes → Lacks tag nodes) (ns : List Node) :
    replaceAmong (slotRule tag fills) ns = ns ↔ Lacks tag ns :=
  ⟨fun h => h ▸ lacks_replaceAmong_slotRule bare ns, replaceAmong_slotRule_of_lacks fills ns⟩

/-! ### What hygiene asks for -/

namespace Content

/-- Main nodes stand at the yields and fills at the slots. -/
def rule (o : Options) (content : Content) : Rule := fun t attrs =>
  if t == o.yieldTag then (if content.main.isEmpty then .opens else .becomes content.main)
  else slotRule o.slotTag content.fills t attrs

/-- Content in a tree, itself untouched. -/
def into (o : Options) (content : Content) (tree : List Node) : List Node :=
  replaceAmong (content.rule o) tree

end Content

/-- What the expansion of a component makes of a part of its tree, for a caller that gives these
attributes and this content. -/
def forCaller (o : Options) (given : Attrs) (caller : Content) (nodes : List Node) : List Node :=
  replaceAmong (((markRule o.attrMarker (MergeRegistry.ofStrategies o.strategies) given).andThen
    (yieldRule o.yieldTag caller.main)).andThen (slotRule o.slotTag caller.fills)) nodes

/-- The run of a use comes to this tree of the component and to this content to project into it. -/
def Prepares (setting : Setting V W) (deeper : Place V → List Node → Expansion W (List Node))
    (place : Place V) (u : Use) (inside : Expansion W (List Node)) (s : State W)
    (tree : List Node) (content : Content) : Prop :=
  ∃ source attrs nodes s₁ s₂ s₃, Ends (findSource place u) s source s₁ ∧
    Ends (expandSource setting deeper place u source) s₁ (tree, attrs) s₂ ∧
    Ends (within (u.node attrs) inside) s₂ nodes s₃ ∧
    Content.ofNodes? setting.options.fillTag nodes = some content

/-- The nodes in the place of a use are its content projected into the tree of the component. -/
theorem ends_expandUse {setting : Setting V W}
    {deeper : Place V → List Node → Expansion W (List Node)} {place : Place V} {u : Use}
    {inside : Expansion W (List Node)} {s s' : State W} {nodes : List Node}
    (run : Ends (expandUse setting deeper place u inside) s nodes s') :
    ∃ tree content, Prepares setting deeper place u inside s tree content ∧
      project setting.options.yieldTag setting.options.slotTag content tree = .ok nodes := by
  obtain ⟨-, source, s₁, tree, left, s₂, given, content, hsource, htree, hgiven, hcontent,
    hproject⟩ := ends_expandUse_iff.1 run
  exact ⟨tree, content,
    ⟨source, left, given, s₁, s₂, s', hsource, htree, hgiven, hcontent⟩, hproject⟩

/-! ### What becomes of the slots -/

section Later

variable {o : Options} {content : Content} {tree nodes : List Node}

/-- Without main content projection is what hygiene asks for. -/
theorem projectRule_of_main_nil (nil : content.main = []) :
    (yieldRule o.yieldTag content.main).andThen (slotRule o.slotTag content.fills) =
      content.rule o := by
  funext t attrs
  by_cases ht : t = o.yieldTag <;> simp [Rule.andThen, yieldRule, Content.rule, ht, nil]

/-- What becomes of the tree later on, but for what stands at its yields. -/
theorem projectRule_andThen (main : content.main ≠ []) (later : Rule) :
    ((yieldRule o.yieldTag content.main).andThen (slotRule o.slotTag content.fills)).andThen later =
      ((slotRule o.slotTag content.fills).andThen later).patch o.yieldTag
        (replaceAmong later (replaceAmong (slotRule o.slotTag content.fills) content.main)) := by
  funext t attrs
  by_cases ht : t = o.yieldTag <;> simp [Rule.andThen, Rule.patch, yieldRule, ht, main]

theorem contentRule_andThen (main : content.main ≠ []) (later : Rule) :
    (content.rule o).andThen later =
      ((slotRule o.slotTag content.fills).andThen later).patch o.yieldTag
        (replaceAmong later content.main) := by
  funext t attrs
  by_cases ht : t = o.yieldTag <;> simp [Rule.andThen, Rule.patch, Content.rule, ht, main]

/-- Replacing goes on in the projected tree as in the tree itself, with one difference to hygiene:
the content at the yields has had its slots resolved. -/
theorem replaceAmong_project_iff
    (projected : project o.yieldTag o.slotTag content tree = .ok nodes) (later : Rule)
    (quiet : ∀ t attrs, t ≠ o.yieldTag → t ≠ o.slotTag → (later t attrs).replaces = false) :
    replaceAmong later nodes = replaceAmong later (content.into o tree) ↔
      reachesAmong o.yieldTag (slotRule o.slotTag content.fills) tree = false ∨
        replaceAmong later (replaceAmong (slotRule o.slotTag content.fills) content.main) =
          replaceAmong later content.main := by
  by_cases main : content.main = []
  · rw [project_ok projected, projectRule_of_main_nil main, Content.into, main]
    simp [replaceAmong]
  · rw [project_ok projected, Content.into, replaceAmong_replaceAmong, replaceAmong_replaceAmong,
      projectRule_andThen main, contentRule_andThen main, replaceAmong_patch_inj]
    have reach : reachesAmong o.yieldTag ((slotRule o.slotTag content.fills).andThen later) tree =
        reachesAmong o.yieldTag (slotRule o.slotTag content.fills) tree := by
      refine reachesAmong_congr (fun t attrs hy => ?_) tree
      by_cases ht : t = o.slotTag
      · cases hfill : (attrs.get? "name").bind content.fills.get? <;>
          simp [Rule.andThen, slotRule, ht, hfill]
      · have stays := slotRule_of_ne content.fills attrs ht
        rw [Rule.andThen, stays]
        exact quiet t attrs hy ht
    rw [reach]

/-- A caller replaces nothing but yields and slots. -/
theorem replaces_forCaller (given : Attrs) (caller : Content) {t : String} (attrs : Attrs)
    (hy : t ≠ o.yieldTag) (hs : t ≠ o.slotTag) :
    ((((markRule o.attrMarker (MergeRegistry.ofStrategies o.strategies) given).andThen
      (yieldRule o.yieldTag caller.main)).andThen (slotRule o.slotTag caller.fills)) t
        attrs).replaces = false := by
  simp [Rule.andThen, markRule, yieldRule, slotRule, hy, hs]

/-- Slots that neither fills nor a caller name come out the same for the caller, whether fills
are put into them before or not. -/
theorem forCaller_replaceAmong_slotRule {fills : Bindings (List Node)} {given : Attrs}
    {caller : Content} {main : List Node} (distinct : o.yieldTag ≠ o.slotTag)
    (unnamed : ∀ attrs cs, .element o.slotTag attrs cs ∈ Node.preorders main →
      attrs.get? o.attrMarker = none ∧ ∀ name, attrs.get? "name" = some name →
        fills.get? name = none ∧ caller.fills.get? name = none) :
    forCaller o given caller (replaceAmong (slotRule o.slotTag fills) main) =
      forCaller o given caller main := by
  rw [forCaller, forCaller, replaceAmong_replaceAmong]
  refine replaceAmong_congr main fun t attrs cs hn => ?_
  by_cases ht : t = o.slotTag
  · subst ht
    obtain ⟨unmarked, hnames⟩ := unnamed attrs cs hn
    have first : slotRule o.slotTag fills o.slotTag attrs = .opens := by
      cases hname : attrs.get? "name" with
      | none => simp [slotRule, hname]
      | some name => simp [slotRule, hname, (hnames name hname).1]
    have second : slotRule o.slotTag caller.fills o.slotTag attrs = .opens := by
      cases hname : attrs.get? "name" with
      | none => simp [slotRule, hname]
      | some name => simp [slotRule, hname, (hnames name hname).2]
    simp [Rule.andThen, first, markRule, receive, unmarked, yieldRule, Ne.symm distinct, second]
  · simp [Rule.andThen, slotRule_of_ne fills attrs ht]

end Later

/-- The slots in the content of a use are resolved by the fills of that use, in every copy that the
component makes of the content. For the use that contains it this is as good as leaving them alone
exactly when there is no copy, or the fills leave the content as it is; for a caller, exactly when
there is no copy, or the content comes out the same for it in both ways. The latter holds when
neither side fills a slot of the content; the former, for fills without slots, when the content has
no slots. -/
theorem expandUse_hygienic_iff {setting : Setting V W}
    {deeper : Place V → List Node → Expansion W (List Node)} {place : Place V} {u : Use}
    {inside : Expansion W (List Node)} {s s' : State W} {nodes : List Node}
    (run : Ends (expandUse setting deeper place u inside) s nodes s') :
    ∃ tree content, Prepares setting deeper place u inside s tree content ∧
      let o := setting.options
      let copied := reachesAmong o.yieldTag (slotRule o.slotTag content.fills) tree
      let filled := replaceAmong (slotRule o.slotTag content.fills) content.main
      (nodes = content.into o tree ↔ copied = false ∨ filled = content.main) ∧
      (∀ given caller,
        forCaller o given caller nodes = forCaller o given caller (content.into o tree) ↔
          copied = false ∨
            forCaller o given caller filled = forCaller o given caller content.main) ∧
      ((∀ name fill, content.fills.get? name = some fill → Lacks o.slotTag fill) →
        (filled = content.main ↔ Lacks o.slotTag content.main)) ∧
      ∀ given caller, o.yieldTag ≠ o.slotTag →
        (∀ attrs cs, .element o.slotTag attrs cs ∈ Node.preorders content.main →
          attrs.get? o.attrMarker = none ∧ ∀ name, attrs.get? "name" = some name →
            content.fills.get? name = none ∧ caller.fills.get? name = none) →
        forCaller o given caller filled = forCaller o given caller content.main := by
  obtain ⟨tree, content, prepared, projected⟩ := ends_expandUse run
  refine ⟨tree, content, prepared, ?_, fun given caller => ?_, fun bare => ?_,
    fun given caller distinct unnamed => ?_⟩
  · have kept := replaceAmong_project_iff projected .keep fun _ _ _ _ => rfl
    simpa only [replaceAmong_keep] using kept
  · exact replaceAmong_project_iff projected _ fun t attrs hy hs =>
      replaces_forCaller given caller attrs hy hs
  · exact replaceAmong_slotRule_eq_self_iff bare content.main
  · exact forCaller_replaceAmong_slotRule distinct unnamed

/-- The use of `inner` in the source of `outer` below, with a slot as its content. -/
def passingUse : Use where
  tag := "x-inner"
  attrs := []
  children := [.element "slot" [("name", "s")] [.text "default"]]
  name := "inner"

theorem expandUse_hygienic_iff_passingUse :
    ∃ tree content,
      Prepares nameSetting (expandLevels nameSetting 1) { scope := .root [] } passingUse
        (return passingUse.children) (nameStart [("inner", "<div><yield/></div>")]) tree content ∧
      ([.element "div" [] [.text "default"]] = content.into nameOptions tree ↔
        reachesAmong "yield" (slotRule "slot" content.fills) tree = false ∨
          replaceAmong (slotRule "slot" content.fills) content.main = content.main) := by
  have run : Ends (expandUse nameSetting (expandLevels nameSetting 1) { scope := .root [] }
      passingUse (return passingUse.children)) (nameStart [("inner", "<div><yield/></div>")])
      [.element "div" [] [.text "default"]] _ :=
    ends_of_toOption (by decide +kernel)
  obtain ⟨tree, content, prepared, kept, -⟩ := expandUse_hygienic_iff run
  exact ⟨tree, content, prepared, kept⟩

/-- The content that the caller of `outer` gives for a slot is lost when `outer` passes that slot on
to `inner`: the slot comes out with its own content. -/
theorem slot_in_content_of_use_lost :
    let sources := [("inner", "<div><yield/></div>"),
      ("outer", "<x-inner><slot name=\"s\">default</slot></x-inner>")]
    let source := "<x-outer><fill slot=\"s\">given</fill></x-outer>"
    let compiled := (compileSource nameSetting (.root []) source (nameStart sources)).1.toOption
    compiled = some "<div>default</div>" ∧ compiled ≠ some "<div>given</div>" := by
  decide +kernel

end HtmlTemplate.Expand
