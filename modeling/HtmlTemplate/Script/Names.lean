import HtmlTemplate.Script.View

/-!
# Names

Where names are bound. A name belongs to the innermost frame that owns it, unless a frame further in
declares it to belong to the outermost one; names of no frame belong to the outermost one, and
those that are not bound there stand for functions of the library.
-/

namespace HtmlTemplate.Script

/-- The namespace that a frame is. -/
def namespaceAt (frame : Nat) : Run Namespace := do
  match ← objectAt frame with
  | .names space => return space
  | _ => return .ofBindings []

/-- The bindings of a frame. -/
def bindingsOf (frame : Nat) : Run (Bindings Value) := do
  return (← namespaceAt frame).bindings

namespace Env

/-- The frame of a function that a name belongs to, and whether it is the innermost one; none is for
names of the outermost frame. -/
def owner? (env : Env) (name : String) : Option (Nat × Bool) := go true env.frames
where
  /-- The owner among some frames; `innermost` tells that none of them has been passed. -/
  go (innermost : Bool) : List Frame → Option (Nat × Bool)
    | [] => none
    | f :: rest =>
      if f.outermost.contains name then none
      else if f.own.contains name then some (f.number, innermost)
      else go false rest

/-- The frame that a name belongs to. -/
def frameOf (env : Env) (name : String) : Nat := ((env.owner? name).map (·.1)).getD env.globals

/-- The error that a name has no value. -/
def unboundError (env : Env) (name : String) : Raised :=
  .unbound (match env.owner? name with
    | none => .name name
    | some (_, true) => .inFunction name
    | some (_, false) => .inEnclosing name)

end Env

/-- The function of the library that a name stands for. -/
def libraryValue? (name : String) : Run (Option Value) := do
  let w ← get
  return ((w.table w.library).entries.find? fun e => match e.key with
    | .str _ s => s == name
    | _ => false).map (·.value)

/-- The value of a name. -/
def valueOf (env : Env) (name : String) : Run Value := do
  match (← bindingsOf (env.frameOf name)).get? name with
  | some v => return v
  | none =>
    match env.owner? name with
    | some _ => throw (env.unboundError name)
    | none =>
      match ← libraryValue? name with
      | some v => return v
      | none => throw (env.unboundError name)

/-- Binds a name. -/
def bindName (env : Env) (name : String) (v : Value) : Run Unit := do
  let frame := env.frameOf name
  setObject frame (.names ((← namespaceAt frame).put name v))

/-- Removes the binding of a name, if there is one. -/
def clearName (env : Env) (name : String) : Run Unit := do
  let frame := env.frameOf name
  setObject frame (.names ((← namespaceAt frame).erase name))

/-- Removes the binding of a name. -/
def unbindName (env : Env) (name : String) : Run Unit := do
  if (← bindingsOf (env.frameOf name)).has name then clearName env name
  else throw (env.unboundError name)

end HtmlTemplate.Script
