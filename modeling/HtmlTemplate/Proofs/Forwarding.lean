import HtmlTemplate.Proofs.DepthGuard
import HtmlTemplate.Proofs.MergedValues
import HtmlTemplate.Proofs.Unnoted

/-!
# Attributes that are passed on

A component whose tree begins with a use of another one, and that has no empty marker, passes the
attributes that it is given on to what that use comes to (`Forwards`). In a chain of such uses the
first element of the innermost tree takes the attributes of all of them, those of the innermost use
first (`firstHas_of_forwards`). With the strategies that are always there it does not matter for its
style and its classes whether they are assigned one after another or merged with each other before
(`merging_assoc`).
-/

namespace HtmlTemplate.Expand

open HtmlTemplate.Markup HtmlTemplate.Component HtmlTemplate.Text Expansion

/-! ### The first element -/

/-- The first node at the top that looks for attributes is an element that takes them, no place for
content, and has these attributes. -/
def FirstHas (o : Options) (attrs : Attrs) (nodes : List Node) : Prop :=
  ∃ before tag cs after, nodes = before ++ .element tag attrs cs :: after ∧
    (∀ n ∈ before, heads o n = false) ∧ takesUnmarked (.element tag attrs cs) = true ∧
    tag ≠ o.yieldTag ∧ tag ≠ o.slotTag

theorem FirstHas.between {o : Options} {attrs : Attrs} {nodes placed : List Node}
    (first : FirstHas o attrs nodes) (bare : ∀ n ∈ placed, heads o n = false) (more : List Node) :
    FirstHas o attrs (placed ++ (nodes ++ more)) := by
  obtain ⟨before, tag, cs, after, rfl, hbefore, takes, hy, hs⟩ := first
  refine ⟨placed ++ before, tag, cs, after ++ more, by simp, fun n hn => ?_, takes, hy, hs⟩
  rcases List.mem_append.1 hn with hn | hn
  · exact bare n hn
  · exact hbefore n hn

/-- What an element at the top has when it takes the attributes that are left of a use: first those
for the slot that it is marked with, then those for no marker in particular. -/
def takeLeft (o : Options) (attrs left : Attrs) : Attrs :=
  let merging := MergeRegistry.ofStrategies o.strategies
  merging.assign (receive o.attrMarker merging left attrs) (routed o.attrMarker left "")

/-- No element is marked to take the attributes for no marker in particular. -/
def Unmarked (o : Options) (core : List Node) : Prop :=
  (Node.preorders core).any (fun n => n.attrs.get? o.attrMarker == some "") = false

instance (o : Options) (core : List Node) : Decidable (Unmarked o core) :=
  inferInstanceAs (Decidable (_ = false))

/-- In a tree without empty markers the first element takes the attributes that are left. -/
theorem FirstHas.take {o : Options} {attrs left : Attrs} {core nodes : List Node}
    {content : Content} (first : FirstHas o attrs core) (unmarked : Unmarked o core)
    (projected : project o.yieldTag o.slotTag content
      (distribute o.attrMarker (MergeRegistry.ofStrategies o.strategies) left core) = .ok nodes) :
    FirstHas o (takeLeft o attrs left) nodes := by
  obtain ⟨before, tag, cs, after, rfl, bare, takes, hy, hs⟩ := first
  have nodes_eq := project_ok projected
  rw [distribute, if_neg (by simpa [Unmarked] using unmarked),
    replaceAmong_giveFirst _ _ (fun n hn => takesUnmarked_of_heads (bare n hn)) takes hy hs rfl]
    at nodes_eq
  exact ⟨_, tag, _, _, nodes_eq, heads_of_mem_forCaller bare, takes, hy, hs⟩

/-! ### The mappings that are assigned -/

/-- The mappings that an element takes when it takes the attributes that are left of a use. -/
def mappingsFor (marker : String) (attrs left : Attrs) : List Attrs :=
  ((attrs.get? marker).map (routed marker left)).toList ++ [routed marker left ""]

/-- The mappings that an element takes, one after another, when it takes the attributes that are
left of several uses. -/
def mappingsAlong (o : Options) : Attrs → List Attrs → List Attrs
  | _, [] => []
  | attrs, left :: lefts =>
    mappingsFor o.attrMarker attrs left ++ mappingsAlong o (takeLeft o attrs left) lefts

theorem nodup_of_mem_mappingsFor {marker : String} {attrs left given : Attrs}
    (mem : given ∈ mappingsFor marker attrs left) : given.names.Nodup := by
  rw [mappingsFor, List.mem_append, Option.mem_toList, Option.map_eq_some_iff,
    List.mem_singleton] at mem
  rcases mem with ⟨slot, -, rfl⟩ | rfl <;> exact nodup_names_routed marker left _

theorem nodup_of_mem_mappingsAlong {o : Options} {lefts : List Attrs} {given : Attrs} :
    ∀ {attrs}, given ∈ mappingsAlong o attrs lefts → given.names.Nodup := by
  induction lefts with
  | nil => exact fun mem => absurd mem List.not_mem_nil
  | cons left lefts ih =>
    intro attrs mem
    rcases List.mem_append.1 mem with mem | mem
    · exact nodup_of_mem_mappingsFor mem
    · exact ih mem

theorem get?_takeLeft {o : Options} {name : String} (other : name ≠ o.attrMarker)
    (attrs left : Attrs) : (takeLeft o attrs left).get? name =
      ((mappingsFor o.attrMarker attrs left).foldl
        (MergeRegistry.ofStrategies o.strategies).assign attrs).get? name := by
  unfold takeLeft receive mappingsFor
  cases attrs.get? o.attrMarker with
  | none => rfl
  | some slot =>
    have distinct : ∀ given ∈ [routed o.attrMarker left slot, routed o.attrMarker left ""],
        given.names.Nodup := by
      simp [nodup_names_routed]
    have erased : (attrs.erase o.attrMarker).get? name = attrs.get? name := by
      rw [Bindings.get?_erase, if_neg other]
    exact (MergeRegistry.get?_foldl_assign _ distinct _ _).trans
      (erased ▸ (MergeRegistry.get?_foldl_assign _ distinct _ _).symm)

/-- Apart from markers an element has what comes of assigning the mappings one after another. -/
theorem get?_foldl_takeLeft {o : Options} {name : String} (other : name ≠ o.attrMarker)
    (lefts : List Attrs) : ∀ own : Attrs, (lefts.foldl (takeLeft o) own).get? name =
      ((mappingsAlong o own lefts).foldl
        (MergeRegistry.ofStrategies o.strategies).assign own).get? name := by
  induction lefts with
  | nil => exact fun own => rfl
  | cons left lefts ih =>
    intro own
    have distinct : ∀ given ∈ mappingsAlong o (takeLeft o own left) lefts, given.names.Nodup :=
      fun given => nodup_of_mem_mappingsAlong
    rw [List.foldl_cons, ih, mappingsAlong, List.foldl_append,
      MergeRegistry.get?_foldl_assign _ distinct, MergeRegistry.get?_foldl_assign _ distinct,
      get?_takeLeft other]

/-! ### Chains of uses -/

variable {V W : Type}

/-- When siblings are expanded, an item among them is expanded as it is after those before it. -/
theorem exists_item_of_ends {setting : Setting V W} {levels : Nat} {place : Place V}
    {pre post forest placed core : List Node} {i : RowItem V W} {s s₁ t : State W}
    (row : rowOf (expandables (expandRow setting (expandLevels setting levels)) forest) =
      rowOf (expandables (expandRow setting (expandLevels setting levels)) pre) ++
        i :: rowOf (expandables (expandRow setting (expandLevels setting levels)) post))
    (hpre : Ends (expandLevels setting (levels + 1) place pre) s placed s₁)
    (run : Ends (expandLevels setting (levels + 1) place forest) s core t) :
    ∃ nodes u more, Ends (expandItem setting (expandLevels setting levels) place i) s₁ nodes u ∧
      core = placed ++ (nodes ++ more) := by
  -- had the item or what follows it failed, so would the whole row
  rcases ends_or_fails (expandItem setting (expandLevels setting levels) place i) s₁ with
    ⟨nodes, u, ends⟩ | ⟨stop, u, fails⟩
  · have on := goesOn_of_ends_item row hpre ends
    rcases ends_or_fails (expandLevels setting (levels + 1) place post) u with
      ⟨more, v, later⟩ | ⟨stop, v, later⟩
    · obtain ⟨t', whole, -⟩ := on.ends more v later
      rw [List.append_assoc] at whole
      exact ⟨nodes, u, more, ends, (ends_unique run whole).1⟩
    · obtain ⟨t', whole, -⟩ := on.fails stop v later
      exact absurd whole (not_fails_of_ends run)
  · obtain ⟨t', whole, -⟩ := fails_of_fails_item row hpre fails
    exact absurd whole (not_fails_of_ends run)

/-- The run of a use opens its component: the nodes of the component that are no scripts for the
server, the place and the state in which their expansion begins, and the attributes that the scripts
leave. -/
def Opens (setting : Setting V W) (place : Place V) (u : Use) (s : State W) (forest : List Node)
    (inner : Place V) (left : Attrs) (t : State W) : Prop :=
  ∃ source s₁ nodes scope w, Ends (findSource place u) s source s₁ ∧ parse source = .ok nodes ∧
    Ends (runScripts setting.evaluator u.attrs place.scope
      ((nodes.filter isServerScript).map scriptBody)) s₁.world (scope, left) w ∧
    forest = nodes.filter (fun n => !isServerScript n) ∧
    inner = { scope := scope, stack := place.stack ++ [u.name] } ∧
    t = { s₁ with world := w, notes := [] }

/-- What a use comes to is the tree of the component that it opens, with the attributes that are
left and the content of the use. -/
theorem Opens.exists_core {setting : Setting V W} {deeper : ForestExpansion V W} {place inner : Place V}
    {u : Use} {inside : Expansion W (List Node)} {s t s' : State W} {forest nodes : List Node}
    {left : Attrs} (opens : Opens setting place u s forest inner left t)
    (run : Ends (expandUse setting deeper place u inside) s nodes s') :
    ∃ core t' content, Ends (deeper inner forest) t core t' ∧
      project setting.options.yieldTag setting.options.slotTag content
        (distribute setting.options.attrMarker
          (MergeRegistry.ofStrategies setting.options.strategies) left core) = .ok nodes := by
  obtain ⟨source, s₁, all, scope, w, hsource, hparse, hscripts, rfl, rfl, rfl⟩ := opens
  obtain ⟨-, source', s₁', tree, left', s₂, given, content, hsource', htree, -, -, hproject⟩ :=
    ends_expandUse_iff.1 run
  obtain ⟨rfl, rfl⟩ := ends_unique hsource hsource'
  obtain ⟨all', scope', w', core, s₃, hparse', hscripts', hcore, rfl, -⟩ :=
    ends_expandSource_iff.1 htree
  obtain rfl := Except.ok.inj (hparse.symm.trans hparse')
  obtain ⟨same, rfl⟩ := ends_unique hscripts hscripts'
  obtain ⟨rfl, rfl⟩ := Prod.mk.inj same
  exact ⟨core, s₃, content, hcore, hproject⟩

/-- The run of a use goes down a chain of uses, each the first element in the tree of the component
of the one before, in trees without empty markers, to an element with attributes of its own. The
attributes that are left of the uses are listed from the innermost one on. -/
inductive Forwards (setting : Setting V W) :
    Nat → Place V → Use → State W → Attrs → List Attrs → Prop
  | element {levels : Nat} {place inner : Place V} {u : Use} {s t t' : State W}
      {forest core : List Node} {own left : Attrs}
      (opens : Opens setting place u s forest inner left t)
      (run : Ends (expandLevels setting levels inner forest) t core t')
      (unmarked : Unmarked setting.options core) (first : FirstHas setting.options own core) :
      Forwards setting levels place u s own [left]
  | use {levels : Nat} {place inner : Place V} {u v : Use} {s t t' t₁ t₂ : State W}
      {lead rest placed core : List Node} {n : Node} {own left : Attrs} {lefts : List Attrs}
      (opens : Opens setting place u s (lead ++ n :: rest) inner left t)
      (run : Ends (expandLevels setting (levels + 1) inner (lead ++ n :: rest)) t core t')
      (unmarked : Unmarked setting.options core)
      (before : Ends (expandLevels setting (levels + 1) inner lead) t placed t₁)
      (bare : ∀ m ∈ placed, heads setting.options m = false)
      (noCondition : n.hasTag "if" = false)
      (meets : Meets setting inner
        (expandable (expandRow setting (expandLevels setting levels)) n) v t₁ t₂)
      (forwards : Forwards setting levels (inner.inner []) v t₂ own lefts) :
      Forwards setting (levels + 1) place u s own (lefts ++ [left])

/-- A use stands for itself among its siblings. -/
theorem rowOf_use {row : Place V → List (Expandable V W) → Expansion W (List Node)}
    {setting : Setting V W} {place : Place V} {v : Use} {s t : State W} {n : Node}
    (noCondition : n.hasTag "if" = false) (meets : Meets setting place (expandable row n) v s t)
    (lead rest : List Node) : rowOf (expandables row (lead ++ n :: rest)) =
      rowOf (expandables row lead) ++ .single (expandable row n) :: rowOf (expandables row rest) := by
  obtain ⟨tag, attrs, children, attrs', hnode, other, -⟩ := meets
  rw [node_expandable] at hnode
  have apart : BeginsApart ((expandables row (n :: rest)).map Expandable.node) := by
    rw [nodes_expandables]
    intro m hm
    subst hnode
    obtain rfl : Node.element tag attrs children = m := by simpa [isGap] using hm
    simp only [List.mem_cons, not_or] at other
    simp [isBranch, Node.hasTag, Node.tag?, other]
  rw [expandables_append, rowOf_append _ _ apart, expandables, rowOf, node_expandable, noCondition]
  rfl

/-- The first element of what a use comes to takes the attributes of the whole chain. -/
theorem firstHas_of_forwards {setting : Setting V W} {levels : Nat} {place : Place V} {u : Use}
    {s : State W} {own : Attrs} {lefts : List Attrs}
    (forwards : Forwards setting levels place u s own lefts) :
    ∀ inside nodes s', Ends (expandUse setting (expandLevels setting levels) place u inside) s nodes s' →
      FirstHas setting.options (lefts.foldl (takeLeft setting.options) own) nodes := by
  -- from the innermost use on: what it comes to begins the tree of the component around it
  induction forwards with
  | element opens run unmarked first =>
    intro inside nodes s' ends
    obtain ⟨core', t', content, run', projected⟩ := opens.exists_core ends
    obtain ⟨rfl, -⟩ := ends_unique run run'
    exact first.take unmarked projected
  | use opens run unmarked before bare noCondition meets forwards ih =>
    intro inside nodes s' ends
    obtain ⟨core', t', content, run', projected⟩ := opens.exists_core ends
    obtain ⟨rfl, -⟩ := ends_unique run run'
    obtain ⟨inner, w, more, item, rfl⟩ := exists_item_of_ends
      (rowOf_use noCondition meets _ _) before run
    have used := (expandNode_of_meets _ meets).symm.trans item
    rw [List.foldl_append]
    exact ((ih _ inner w used).between bare more).take unmarked projected

/-! ### Merging before assigning -/

/-- Attributes with the same style and the same words as classes. -/
structure SameLook (attrs attrs' : Attrs) : Prop where
  style : attrs.get? "style" = attrs'.get? "style"
  classes : (attrs.get? "class").map (fun s => words s.toList) =
    (attrs'.get? "class").map fun s => words s.toList

/-- With the strategies that are always there it does not matter for style and classes whether
attributes are merged with each other first. -/
theorem sameLook_foldl_assign {given : List MergeStrategy}
    (unnamed : ∀ g ∈ given, g.name? ≠ some "class" ∧ g.name? ≠ some "style") {first : Attrs}
    {rest : List Attrs} (distinct : ∀ attrs ∈ first :: rest, attrs.names.Nodup) (own : Attrs) :
    SameLook ((first :: rest).foldl (MergeRegistry.ofStrategies given).assign own)
      ((MergeRegistry.ofStrategies given).assign own
        (rest.foldl (MergeRegistry.ofStrategies given).assign first)) := by
  have style : (MergeRegistry.ofStrategies given).resolve "style" = .styles :=
    MergeRegistry.resolve_of_standard (s := ⟨.exactly "style", .styles⟩)
      (by simp [MergeStrategy.standard]) rfl fun g hg => (unnamed g hg).2
  have classes : (MergeRegistry.ofStrategies given).resolve "class" = .classes :=
    MergeRegistry.resolve_of_standard (s := ⟨.exactly "class", .classes⟩)
      (by simp [MergeStrategy.standard]) rfl fun g hg => (unnamed g hg).1
  refine ⟨?_, MergeRegistry.map_get?_foldl_assign (classes ▸ MergeFunction.joins_classes) distinct
    own⟩
  have same := MergeRegistry.map_get?_foldl_assign (style ▸ MergeFunction.joins_styles) distinct own
  rwa [Option.map_id, id_eq, id_eq] at same

/-- Merging styles is associative and leaves rows that end with a semicolon and have no blanks at
their ends; merging classes puts their words in a row. So attributes that are assigned one after
another may be merged with each other first, and this is what becomes of the attributes in a chain of
uses that pass them on. -/
theorem merging_assoc :
    (∀ (a? : Option String) (b c : String), ∃ ab bc, MergeFunction.styles a? b = .value ab ∧
      MergeFunction.styles (some b) c = .value bc ∧
      MergeFunction.styles (some ab) c = MergeFunction.styles a? bc) ∧
    (∀ (a? : Option String) (b : String), ∃ row, MergeFunction.styles a? b = .value row ∧
      strip row = row ∧ (row = "" ∨ row.endsWith ";" = true)) ∧
    (∀ (a? : Option String) (b : String), ∃ row, MergeFunction.classes a? b = .value row ∧
      words row.toList = words (a?.getD "").toList ++ words b.toList) ∧
    ∀ {V W : Type} (setting : Setting V W),
      (∀ g ∈ setting.options.strategies, g.name? ≠ some "class" ∧ g.name? ≠ some "style") →
      let merging := MergeRegistry.ofStrategies setting.options.strategies
      (∀ (own first : Attrs) (rest : List Attrs),
        (∀ attrs ∈ first :: rest, attrs.names.Nodup) →
        SameLook ((first :: rest).foldl merging.assign own)
          (merging.assign own (rest.foldl merging.assign first))) ∧
      ∀ levels place u s own lefts, Forwards setting levels place u s own lefts →
        ∀ inside nodes s', Ends (expandUse setting (expandLevels setting levels) place u inside) s
          nodes s' →
        let mappings := mappingsAlong setting.options own lefts
        ∃ attrs, FirstHas setting.options attrs nodes ∧
          (∀ name, name ≠ setting.options.attrMarker →
            attrs.get? name = (mappings.foldl merging.assign own).get? name) ∧
          SameLook (mappings.foldl merging.assign own)
            (merging.assign own (mappings.foldl merging.assign [])) := by
  refine ⟨fun a? b c => ⟨_, _, MergeFunction.styles_eq a? b, MergeFunction.styles_eq (some b) c, ?_⟩,
    fun a? b => ⟨_, MergeFunction.styles_eq a? b, ?_⟩, fun a? b => ?_,
    fun setting unnamed => ⟨fun own first rest distinct => ?_,
      fun levels place u s own lefts forwards inside nodes s' run => ?_⟩⟩
  · rw [MergeFunction.styles_eq, MergeFunction.styles_eq, Option.getD_some, Option.getD_some,
      MergeFunction.styleRow_assoc]
  · have settled := MergeFunction.settled_styleRow (a?.getD "") b
    exact ⟨settled.stripped, settled.ended⟩
  · exact MergeFunction.exists_words_classes a? b
  · exact sameLook_foldl_assign unnamed distinct own
  · refine ⟨_, firstHas_of_forwards forwards inside nodes s' run,
      fun name other => get?_foldl_takeLeft other lefts own, ?_⟩
    have distinct : ∀ attrs : Attrs, attrs ∈ [] :: mappingsAlong setting.options own lefts →
        attrs.names.Nodup :=
      List.forall_mem_cons.2 ⟨List.nodup_nil, fun attrs mem => nodup_of_mem_mappingsAlong mem⟩
    exact sameLook_foldl_assign unnamed distinct own

/-- A use of a component whose tree begins with a use of another one. -/
def styledUse : Use where
  tag := "x-outer"
  attrs := [("style", "margin:0"), ("class", "o")]
  children := []
  name := "outer"

/-- The registry of `styledUse`. -/
def styledStart : State NameState :=
  nameStart [("outer", "<!--c--><x-inner style=\"color:red;\" class=\"i\"></x-inner>"),
    ("inner", "<p style=\"top:0\" class=\"p\"></p>")]

/-- A component without scripts leaves all attributes of its use. -/
theorem opens_of_no_scripts {place : Place NameValue} {u : Use} {s : State NameState}
    {source : String} {nodes : List Node}
    (found : (findSource place u s).1.toOption = some source) (read : parse source = .ok nodes)
    (plain : nodes.filter isServerScript = []) :
    Opens nameSetting place u s (nodes.filter fun n => !isServerScript n)
      { scope := place.scope.child [], stack := place.stack ++ [u.name] } u.attrs
      { (findSource place u s).2 with
        world := { (findSource place u s).2.world with used := [] }, notes := [] } := by
  refine ⟨source, _, nodes, _, _, ends_of_toOption found, read, ?_, rfl, rfl, rfl⟩
  rw [plain]
  have unread : u.attrs.filter (fun entry => !([] : List String).contains entry.1) = u.attrs := by
    simp
  exact congrArg (fun left => (Except.ok (place.scope.child [], left), _)) unread

theorem forwards_styledUse : Forwards nameSetting 2 { scope := .root [] } styledUse styledStart
    [("style", "top:0"), ("class", "p")]
    [[("style", "color:red;"), ("class", "i")], [("style", "margin:0"), ("class", "o")]] := by
  have read : parse "<!--c--><x-inner style=\"color:red;\" class=\"i\"></x-inner>" =
      .ok [.comment "c", .element "x-inner" [("style", "color:red;"), ("class", "i")] []] := by
    decide +kernel
  let inner : Node := .element "x-inner" [("style", "color:red;"), ("class", "i")] []
  have opens : Opens nameSetting { scope := .root [] } styledUse styledStart
      ([.comment "c"] ++ inner :: []) _ _ _ :=
    opens_of_no_scripts (by decide +kernel) read (by decide +kernel)
  have read_inner : parse "<p style=\"top:0\" class=\"p\"></p>" =
      .ok [.element "p" [("style", "top:0"), ("class", "p")] []] := by
    decide +kernel
  change Forwards nameSetting 2 _ _ _ _
    ([[("style", "color:red;"), ("class", "i")]] ++ [[("style", "margin:0"), ("class", "o")]])
  refine .use (v := ⟨"x-inner", [("style", "color:red;"), ("class", "i")], [], "inner"⟩) opens
    (ends_of_toOption (a := [.comment "c",
      .element "p" [("style", "top:0; color:red;"), ("class", "p i")] []]) (by decide +kernel))
    (by decide +kernel) (ends_of_toOption (a := [.comment "c"]) (by decide +kernel))
    (by decide +kernel) rfl
    ⟨_, _, _, [("style", "color:red;"), ("class", "i")], rfl, by decide +kernel, by decide +kernel,
      ends_of_toOption (by decide +kernel), rfl⟩ ?_
  exact .element (opens_of_no_scripts (by decide +kernel) read_inner (by decide +kernel))
    (ends_of_toOption (a := [.element "p" [("style", "top:0"), ("class", "p")] []])
      (by decide +kernel)) (by decide +kernel)
    ⟨[], "p", [], [], rfl, by simp, by decide +kernel, by decide +kernel, by decide +kernel⟩

theorem merging_assoc_styledUse :
    let merging := MergeRegistry.ofStrategies []
    let own : Attrs := [("style", "top:0"), ("class", "p")]
    SameLook ([[("style", " "), ("class", "i")], [("style", "margin:0")]].foldl merging.assign own)
        (merging.assign own ([[("style", "margin:0")]].foldl merging.assign
          [("style", " "), ("class", "i")])) ∧
      ∃ attrs, FirstHas nameOptions attrs [.comment "c",
          .element "p" [("style", "top:0; color:red; margin:0;"), ("class", "p i o")] []] ∧
        attrs.get? "style" = some "top:0; color:red; margin:0;" := by
  have run : Ends (expandUse nameSetting (expandLevels nameSetting 2) { scope := .root [] } styledUse
      (return [])) styledStart [.comment "c",
        .element "p" [("style", "top:0; color:red; margin:0;"), ("class", "p i o")] []] _ :=
    ends_of_toOption (by decide +kernel)
  obtain ⟨-, -, -, chains⟩ := merging_assoc
  obtain ⟨grouped, passed⟩ := chains nameSetting (by simp [nameSetting, nameOptions])
  obtain ⟨attrs, first, taken, look⟩ := passed _ _ _ _ _ _ forwards_styledUse _ _ _ run
  refine ⟨grouped _ _ _ (by decide), attrs, first, ?_⟩
  rw [taken "style" (by decide), look.style]
  decide +kernel

end HtmlTemplate.Expand
