import HtmlTemplate.Component.Loader
import HtmlTemplate.Text.Quoted

/-!
# Component registries

A `Registry` gives the sources of components: those that were set by hand come first, then those
that were loaded before, and last the loader is asked. `Lookup` computations keep the registry, the
names that the loader was asked for, and a log.
-/

namespace HtmlTemplate.Component

open HtmlTemplate.Text

/-- The sources of components. -/
structure Registry where
  /-- Sources that were set by hand, by name in its registered form. -/
  overrides : Bindings String := []
  /-- Sources that were loaded before. -/
  cache : Bindings String := []
  loader? : Option Loader := none
  cacheEnabled : Bool := true

/-- A registry at work. -/
structure RegistryState where
  registry : Registry
  files : FileTree := {}
  /-- The names that the loader was asked for, the last one first. -/
  asked : List String := []
  /-- What was noted, the last line first. -/
  log : List String := []

/-- Computations that look up components. -/
abbrev Lookup := ExceptT LoadError (StateM RegistryState)

namespace Registry

/-- A registry with sources set by hand. -/
def make (overrides : Bindings String) (loader? : Option Loader) (cacheEnabled : Bool) :
    Registry where
  overrides := overrides.foldl (fun b e => b.put (Naming.kebabCase e.1) e.2) []
  loader? := loader?
  cacheEnabled := cacheEnabled

/-- The names of the components that were loaded, in order. -/
def cachedNames (r : Registry) : List String := Loader.sortTexts r.cache.names

end Registry

namespace Lookup

/-- Notes a line. -/
def note (line : String) : Lookup Unit :=
  modify fun s => { s with log := line :: s.log }

/-- Notes where a component came from. -/
def noteLoaded (name origin : String) : Lookup Unit :=
  note ("Component " ++ quote name ++ " loaded from " ++ origin)

/-- Keeps a source that was loaded. -/
def remember (name text : String) : Lookup Unit :=
  modify fun s =>
    { s with registry := { s.registry with cache := s.registry.cache.put name text } }

/-- Asks a loader for a component. -/
def ask (loader : Loader) (name : String) : Lookup Source := do
  modify fun s => { s with asked := name :: s.asked }
  match loader.source (← get).files name with
  | .ok source => return source
  | .error e => throw e

/-- The source that a registry has without its loader, and where it comes from. -/
def known? (r : Registry) (name : String) : Option (String × String) :=
  match r.overrides.get? name with
  | some text => some (text, "overrides")
  | none =>
    if r.cacheEnabled then (r.cache.get? name).map (·, "cache") else none

/-- The source of a component. -/
def source (name : String) : Lookup String := do
  let r := (← get).registry
  match known? r name with
  | some (text, origin) =>
    noteLoaded name origin
    return text
  | none =>
    match r.loader? with
    | none =>
      throw (.notFound name []
        (some "No component loader configured; pass components= or a loader"))
    | some loader =>
      let found ← ask loader name
      noteLoaded name ((found.file?.filter (!·.isEmpty)).getD "loader")
      if r.cacheEnabled then remember name found.text
      return found.text

/-- Whether there is a component of a name. -/
def has (name : String) : Lookup Bool :=
  tryCatch (do
    let _ ← source name
    return true) fun e => match e with
      | .notFound .. => return false
      | e => throw e

/-- Loads all components that the loader lists, and tells how many there are. -/
def preload : Lookup Nat := do
  match (← get).registry.loader? with
  | none => return 0
  | some loader =>
    match loader.list? (← get).files with
    | .error e => throw (.file e)
    | .ok none => return 0
    | .ok (some names) =>
      names.forM fun name => do
        let found ← ask loader name
        remember name found.text
      note ("Preloaded " ++ toString names.length ++ " components")
      return names.length

/-- Forgets the sources that were loaded. -/
def clear : Lookup Unit :=
  modify fun s => { s with registry := { s.registry with cache := [] } }

end Lookup

end HtmlTemplate.Component
