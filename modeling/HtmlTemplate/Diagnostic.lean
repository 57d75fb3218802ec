import HtmlTemplate.Terminal
import HtmlTemplate.Text.Similarity

/-!
# Diagnostics

What can be wrong with a template, its components or its configuration. A `Diagnostic` is a problem
with the components that were being expanded and a hint; `Diagnostic.text` and
`Diagnostic.compact` are its two written forms, with or without colours.
-/

namespace HtmlTemplate

/-- Codes under which problems can be looked up. -/
inductive ErrorCode
  | invalidOption
  | componentNotFound
  | missingAttribute
  | danglingBranch
  | runtimeError
  | invalidValue
  | componentDepth
  | undefinedVariable
deriving DecidableEq, Repr

namespace ErrorCode

/-- All codes. -/
def all : List ErrorCode :=
  [invalidOption, componentNotFound, missingAttribute, danglingBranch, runtimeError, invalidValue,
    componentDepth, undefinedVariable]

/-- The name of a code. -/
def name : ErrorCode → String
  | invalidOption => "INVALID_OPTION"
  | componentNotFound => "COMPONENT_NOT_FOUND"
  | missingAttribute => "MISSING_ATTRIBUTE"
  | danglingBranch => "DANGLING_BRANCH"
  | runtimeError => "RUNTIME_ERROR"
  | invalidValue => "INVALID_VALUE"
  | componentDepth => "COMPONENT_DEPTH"
  | undefinedVariable => "UNDEFINED_VARIABLE"

/-- The written form: a letter group for the category and a number. -/
def value : ErrorCode → String
  | invalidOption => "H-CFG-001"
  | componentNotFound => "H-CMP-001"
  | missingAttribute => "H-STR-001"
  | danglingBranch => "H-STR-002"
  | runtimeError => "H-RUN-001"
  | invalidValue => "H-RUN-002"
  | componentDepth => "H-RUN-003"
  | undefinedVariable => "H-EVL-001"

/-- The part of the work in which a problem arises. -/
def category : ErrorCode → String
  | invalidOption => "configuration"
  | componentNotFound => "component"
  | missingAttribute => "structure"
  | danglingBranch => "structure"
  | runtimeError => "runtime"
  | invalidValue => "runtime"
  | componentDepth => "runtime"
  | undefinedVariable => "evaluation"

end ErrorCode

/-- A value as messages show it. -/
structure ShownValue where
  name : String
  text : String
  kind : String
deriving DecidableEq, Repr

/-- What is wrong. -/
inductive Problem
  /-- Anything else. -/
  | other (message : String)
  /-- The options do not fit together. -/
  | configuration (message : String)
  /-- No source exists for a component, which a tag refers to; paths that were searched. -/
  | componentNotFound (name : String) (tag? : Option String) (searched : List String)
  /-- A construct is used in a way it cannot be expanded. -/
  | structural (message : String)
  /-- A construct lacks attributes that it needs. -/
  | missingAttribute (tag : String) (attributes : List String)
  /-- A branch does not follow a condition. -/
  | danglingBranch (tag : String)
  /-- Expansion fails, with the expression involved and values of interest. -/
  | runtime (message : String) (expression? : Option String) (values : List ShownValue)
  /-- An expression has a value that the construct cannot use. -/
  | invalidValue (message : String) (expression? : Option String) (value : ShownValue)
  /-- Components are nested too deeply. -/
  | componentDepth (message : String) (expression? : Option String) (values : List ShownValue)
  /-- An expression names a variable that is not bound, out of those available. -/
  | undefinedVariable (name : String) (expression? : Option String) (available : List String)
deriving DecidableEq, Repr

namespace Problem

/-- The code of a problem. -/
def code? : Problem → Option ErrorCode
  | other _ => none
  | configuration _ => some .invalidOption
  | componentNotFound .. => some .componentNotFound
  | structural _ => some .missingAttribute
  | missingAttribute .. => some .missingAttribute
  | danglingBranch _ => some .danglingBranch
  | runtime .. => some .runtimeError
  | invalidValue .. => some .invalidValue
  | componentDepth .. => some .componentDepth
  | undefinedVariable .. => some .undefinedVariable

/-- The names of the kinds of problems that a problem belongs to, the narrowest kind first. -/
def kinds : Problem → List String
  | other _ => ["TemplateError"]
  | configuration _ => ["ConfigurationError", "TemplateError"]
  | componentNotFound .. => ["ComponentNotFoundError", "TemplateError"]
  | structural _ => ["TemplateStructureError", "TemplateError"]
  | missingAttribute .. => ["MissingAttributeError", "TemplateStructureError", "TemplateError"]
  | danglingBranch _ => ["DanglingBranchError", "TemplateStructureError", "TemplateError"]
  | runtime .. => ["TemplateRuntimeError", "TemplateError"]
  | invalidValue .. => ["InvalidValueError", "TemplateRuntimeError", "TemplateError"]
  | componentDepth .. => ["ComponentDepthError", "TemplateRuntimeError", "TemplateError"]
  | undefinedVariable .. => ["UndefinedError", "TemplateError"]

/-- The name of the narrowest kind of problems that a problem belongs to. -/
def kindName (p : Problem) : String := p.kinds.headD ""

/-- A text that is shown when it is not empty. -/
def given (text? : Option String) : Option String := text?.filter (!·.isEmpty)

/-- The first 77 characters of a text longer than 80, with dots after them. -/
def abbreviate (text : String) : String :=
  let cs := text.toList
  if cs.length > 80 then String.ofList (cs.take 77) ++ "..." else text

/-- A message with the expression involved and values of interest below it. -/
def withContext (message : String) (expression? : Option String) (values : List ShownValue) :
    String :=
  String.intercalate "\n" (message ::
    ((given expression?).toList.map ("  Expression: " ++ ·) ++
      values.map fun v => "    " ++ v.name ++ " = " ++ abbreviate v.text ++ " (" ++ v.kind ++ ")"))

/-- A text in single quotes. -/
def inQuotes (text : String) : String := "'" ++ text ++ "'"

/-- The message of a problem. -/
def message (colors : Bool) : Problem → String
  | other message => message
  | configuration message => message
  | structural message => message
  | componentNotFound name tag? searched =>
    "Component not found: " ++ inQuotes name ++
      (match given tag? with
        | some tag => " (referenced as <" ++ tag ++ ">)"
        | none => "") ++
      (if searched.isEmpty then "" else "\n  Searched: " ++ String.intercalate ", " searched)
  | missingAttribute tag attributes =>
    "<" ++ tag ++ "> requires the " ++ String.intercalate " and " (attributes.map inQuotes) ++
      (if attributes.length = 1 then " attribute" else " attributes")
  | danglingBranch tag => "Unexpected <" ++ tag ++ ">"
  | runtime message expression? values => withContext message expression? values
  | invalidValue message expression? value => withContext message expression? [value]
  | componentDepth message expression? values => withContext message expression? values
  | undefinedVariable name expression? available =>
    "Undefined variable " ++ inQuotes name ++
      (match Text.closest name available with
        | some match_ => ". Did you mean " ++ inQuotes (Terminal.suggestion colors match_) ++ "?"
        | none => "") ++
      (match given expression? with
        | some expression => "\n  Expression: " ++ expression
        | none => "")

/-- The hint that goes with a problem of its own accord. -/
def standardHint? : Problem → Option String
  | danglingBranch tag =>
    some ("<" ++ tag ++ "> must directly follow an <if> or <elseif> " ++
      "(only whitespace and comments may sit between them)")
  | undefinedVariable .. => some "Pass the variable to compile() or add it to eval_context"
  | _ => none

end Problem

/-- A problem with the components being expanded, outermost first, and a hint. -/
structure Diagnostic where
  problem : Problem
  stack : List String := []
  hint? : Option String := problem.standardHint?
deriving DecidableEq, Repr

namespace Diagnostic

/-- The lines below a message: the component stack and the hint. -/
def decoration (colors : Bool) (d : Diagnostic) : List String :=
  (if d.stack.isEmpty then [] else [Terminal.componentStack colors d.stack]) ++
    (Problem.given d.hint?).toList.map fun hint =>
      "  " ++ Terminal.hint colors "Hint:" ++ " " ++ hint

/-- The message of the problem alone. -/
def message (colors : Bool) (d : Diagnostic) : String := d.problem.message colors

/-- The message with component stack and hint. -/
def text (colors : Bool) (d : Diagnostic) : String :=
  String.intercalate "\n" (d.message colors :: d.decoration colors)

/-- The message after its code, with component stack and hint. -/
def compact (colors : Bool) (d : Diagnostic) : String :=
  String.intercalate "\n"
    (Terminal.errorHeader colors (d.problem.code?.map ErrorCode.value) (d.message colors) ::
      d.decoration colors)

/-- Records where a problem arose unless that is known already. -/
def attach (d : Diagnostic) (stack : List String) : Diagnostic :=
  if d.stack.isEmpty then { d with stack := stack } else d

end Diagnostic

end HtmlTemplate
