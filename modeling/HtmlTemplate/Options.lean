import HtmlTemplate.Merge
import HtmlTemplate.RenderContext
import HtmlTemplate.Script.Datum

/-!
# Options

The names of the constructs in a template and how it is compiled. A `Request` holds the options that
were asked for, as data under their names; `Request.check` refuses requests that do not fit together
and gives `Options` otherwise.
-/

namespace HtmlTemplate

open HtmlTemplate.Script HtmlTemplate.Text

/-- What becomes of titles when the output is only a part of a document. -/
inductive TitleRule
  | preserve
  | remove
deriving DecidableEq, Repr

/-- Options that fit together. -/
structure Options where
  componentTag : String
  yieldTag : String
  slotTag : String
  fillTag : String
  stackTag : String
  pushTag : String
  dynamicTag : String
  componentPrefix : String
  /-- The attribute that marks where attributes of the caller go. -/
  attrMarker : String
  /-- What stands before the colon in the name of an evaluated attribute. -/
  evalMarker : String
  /-- What marks an expression in a text; its first group is the expression. -/
  contentPattern : Pattern
  titleRule : TitleRule
  depthLimit : DepthLimit
  components : Bindings String
  componentsRoot : String
  cacheComponents : Bool
  pretty : Bool
  debug : Bool
  encoding : String
  strategies : List MergeStrategy

/-- Options as they are asked for. -/
structure Request where
  settings : Bindings Datum := []
  strategies : List MergeStrategy := []

/-- Why options are refused. -/
inductive OptionError
  /-- There is no such option. -/
  | unknown (name : String)
  /-- A value is not of the type that the option needs. -/
  | wrongType
  /-- A value lacks what the option needs. -/
  | unfit
  | pattern (e : PatternError)
  | invalid (d : Diagnostic)
deriving DecidableEq, Repr

/-- The tags of control flow, which no other construct may have. -/
def reservedTags : List String := ["if", "elseif", "else", "switch", "case", "for"]

namespace Options

/-- The tags of the constructs, by the names of their options. -/
def constructTags (o : Options) : Bindings String := [
  ("component_tag", o.componentTag), ("yield_tag", o.yieldTag), ("define_slot_tag", o.slotTag),
  ("fill_slot_tag", o.fillTag), ("stack_tag", o.stackTag), ("push_tag", o.pushTag),
  ("dynamic_tag", o.dynamicTag)]

end Options

namespace Request

/-- The pattern of expressions in texts that is used when no other is asked for. -/
def defaultPattern : String := "%%(.+?)%%"

/-- All options with the values that they have when nothing else is asked for, merge strategies
aside. -/
def defaults : Bindings Datum := [
  ("components", .dict []), ("components_root", .str "./components"),
  ("component_tag_prefix", .str "x-"), ("component_tag", .str "component"),
  ("cache_components", .bool true), ("yield_tag", .str "yield"), ("pretty", .bool true),
  ("attr_attribute", .str "attr"), ("define_slot_tag", .str "slot"), ("fill_slot_tag", .str "fill"),
  ("stack_tag", .str "stack"), ("push_tag", .str "push"),
  ("evaluate_attribute_prefix", .str "eval"), ("evaluate_content_pattern", .str defaultPattern),
  ("dynamic_tag", .str "dynamic"), ("debug", .bool false),
  ("title_behavior_in_partial", .str "preserve"), ("max_component_depth", .int 100),
  ("encoding", .str "utf-8")]

/-- The value of an option. -/
def setting (r : Request) (name : String) : Datum :=
  (r.settings.get? name).getD ((defaults.get? name).getD .nothing)

/-- A request with other options laid over it. -/
def override (r : Request) (settings : Bindings Datum)
    (strategies? : Option (List MergeStrategy)) : Request :=
  ⟨r.settings.overlay settings, strategies?.getD r.strategies⟩

/-! ### Checks -/

/-- Refuses options with a message. -/
def refuse {α : Type} (message : String) (hint? : Option String) : Except OptionError α :=
  .error (.invalid { problem := .configuration message, hint? := hint? })

/-- The options that name constructs, in the order in which they are checked. -/
def nameOptions : List String := [
  "component_tag", "yield_tag", "define_slot_tag", "fill_slot_tag", "stack_tag", "push_tag",
  "dynamic_tag", "component_tag_prefix", "attr_attribute", "evaluate_attribute_prefix"]

/-- Checks that a name is not empty, has only small letters and no blanks. -/
def checkName (r : Request) (option : String) : Except OptionError Unit :=
  let v := r.setting option
  if !v.truth then refuse (option ++ " must not be empty") none
  else
    match v with
    | .str s =>
      if s != lowercase s || hasBlank s then
        refuse (option ++ " must be lowercase without whitespace, got " ++ quote s)
          (some "The HTML parser lowercases every tag and attribute name")
      else .ok ()
    | _ => .error .unfit

/-- Checks that a tag is not one of those seen before, with their options, not one of control flow,
and no reference to a component. -/
def checkTag (pre : String) (seen : Bindings String) (option tag : String) :
    Except OptionError Unit :=
  match (seen.find? (·.2 == tag)) with
  | some (other, _) =>
    refuse ("Construct tag names must be distinct: " ++ other ++ " and " ++ option ++
      " are both " ++ quote tag) none
  | none =>
    if reservedTags.contains tag then
      refuse (option ++ " " ++ quote tag ++ " collides with the control-flow tag <" ++ tag ++ ">")
        none
    else if tag.startsWith pre then
      refuse (option ++ " " ++ quote tag ++ " starts with the component prefix " ++ quote pre ++
        " and would be loaded as a component") none
    else .ok ()

/-- Checks tags one after another. -/
def checkTags (pre : String) (seen : Bindings String) : Bindings String → Except OptionError Unit
  | [] => .ok ()
  | (option, tag) :: rest => do
    checkTag pre seen option tag
    checkTags pre (seen ++ [(option, tag)]) rest

/-- The text that an option has. -/
def text (r : Request) (option : String) : String :=
  match r.setting option with
  | .str s => s
  | _ => ""

/-- The pattern that is asked for; what is no text is no pattern. -/
def pattern (r : Request) : Except OptionError (Option Pattern) :=
  match r.setting "evaluate_content_pattern" with
  | .str s =>
    match Pattern.parse s with
    | .ok p => .ok (some p)
    | .error e => .error (.pattern e)
  | _ => .ok none

/-- The rule for titles that is asked for. -/
def titleRule (r : Request) : Except OptionError TitleRule :=
  match r.setting "title_behavior_in_partial" with
  | .str "preserve" => .ok .preserve
  | .str "remove" => .ok .remove
  | v => refuse ("title_behavior_in_partial must be 'preserve' or 'remove', got " ++ v.written) none

/-- The limit of nested components that is asked for. -/
def depthLimit (r : Request) : Except OptionError DepthLimit :=
  let check (limit : DepthLimit) : Except OptionError DepthLimit :=
    if limit.value < 1 then
      refuse ("max_component_depth must be at least 1, got " ++ limit.text) none
    else .ok limit
  match r.setting "max_component_depth" with
  | .int n => check (.count n)
  | .bool b => check (.flag b)
  | _ => .error .wrongType

/-- The sources of components that are asked for. -/
def components (r : Request) : Bindings String :=
  match r.setting "components" with
  | .dict es => es.foldl (fun b e => match e with
    | (.str k, .str v) => b.put k v
    | _ => b) []
  | _ => []

/-- The options that are asked for, if they fit together. -/
def check (r : Request) : Except OptionError Options := do
  match r.settings.find? fun e => !defaults.has e.1 with
  | some (name, _) => .error (.unknown name)
  | none =>
    let pattern? ← r.pattern
    nameOptions.forM r.checkName
    let tagOptions := nameOptions.take 7
    let pre := r.text "component_tag_prefix"
    checkTags pre [] (tagOptions.map fun option => (option, r.text option))
    let attr := r.text "attr_attribute"
    if attr == r.text "evaluate_attribute_prefix" then
      refuse ("attr_attribute and evaluate_attribute_prefix must differ, both are " ++ quote attr)
        none
    else
      match pattern? with
      | none => .error .unfit
      | some pattern =>
        if pattern.groups < 1 then
          refuse "evaluate_content_pattern must contain a capturing group for the expression"
            (some ("The default pattern is " ++ quote defaultPattern))
        else
          let titleRule ← r.titleRule
          let depthLimit ← r.depthLimit
          return {
            componentTag := r.text "component_tag"
            yieldTag := r.text "yield_tag"
            slotTag := r.text "define_slot_tag"
            fillTag := r.text "fill_slot_tag"
            stackTag := r.text "stack_tag"
            pushTag := r.text "push_tag"
            dynamicTag := r.text "dynamic_tag"
            componentPrefix := pre
            attrMarker := attr
            evalMarker := r.text "evaluate_attribute_prefix"
            contentPattern := pattern
            titleRule := titleRule
            depthLimit := depthLimit
            components := r.components
            componentsRoot := r.text "components_root"
            cacheComponents := (r.setting "cache_components").truth
            pretty := (r.setting "pretty").truth
            debug := (r.setting "debug").truth
            encoding := if r.setting "encoding" matches .nothing then "utf-8" else r.text "encoding"
            strategies := r.strategies }

end Request

end HtmlTemplate
