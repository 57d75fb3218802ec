import HtmlTemplate.Markup.Node
import HtmlTemplate.Merge
import HtmlTemplate.Naming

/-!
# Distributing attributes

The attributes that a component is used with go to the elements of its tree that carry the marker: an
attribute named `marker:slot:name` to those marked with the slot, any other one to those with an
empty marker. When there is no empty marker, the first element at the top that is neither a script
nor a style takes the latter. `distribute` merges them in and removes the markers.
-/

namespace HtmlTemplate.Expand

open HtmlTemplate.Markup

/-- The marker that an attribute is meant for, and the name that it has there. -/
def routeOf (marker name : String) : String × String :=
  match Naming.splitColons 3 name with
  | some [m, slot, target] => if m == marker then (slot, target) else ("", name)
  | _ => ("", name)

/-- The attributes that are meant for a marker. -/
def routed (marker : String) (given : Attrs) (slot : String) : Attrs :=
  given.foldl (fun found a =>
    let route := routeOf marker a.1
    if route.1 == slot then found.put route.2 a.2 else found) []

/-- The attributes of an element after distribution. -/
def receive (marker : String) (merging : MergeRegistry) (given attrs : Attrs) : Attrs :=
  match attrs.get? marker with
  | some slot => merging.assign (attrs.erase marker) (routed marker given slot)
  | none => attrs

mutual

/-- Gives attributes to the marked elements of a tree. -/
def distributeIn (marker : String) (merging : MergeRegistry) (given : Attrs) : Node → Node
  | .element tag attrs cs =>
    .element tag (receive marker merging given attrs) (distributeAmong marker merging given cs)
  | .fragment cs => .fragment (distributeAmong marker merging given cs)
  | n => n

/-- Gives attributes to the marked elements of a forest. -/
def distributeAmong (marker : String) (merging : MergeRegistry) (given : Attrs) :
    List Node → List Node
  | [] => []
  | n :: ns => distributeIn marker merging given n :: distributeAmong marker merging given ns

end

/-- Whether a node can take attributes without being marked. -/
def takesUnmarked (n : Node) : Bool :=
  n.isElement && !n.hasTag "script" && !n.hasTag "style"

/-- Gives attributes to the first node that can take them. -/
def giveFirst (merging : MergeRegistry) (given : Attrs) : List Node → List Node
  | [] => []
  | .element tag attrs cs :: ns =>
    if takesUnmarked (.element tag attrs cs) then .element tag (merging.assign attrs given) cs :: ns
    else .element tag attrs cs :: giveFirst merging given ns
  | n :: ns => n :: giveFirst merging given ns

/-- Gives attributes to the elements of a forest that they are meant for. -/
def distribute (marker : String) (merging : MergeRegistry) (given : Attrs) (forest : List Node) :
    List Node :=
  let marked := distributeAmong marker merging given forest
  if (Node.preorders forest).any fun n => n.attrs.get? marker == some "" then marked
  else giveFirst merging (routed marker given "") marked

end HtmlTemplate.Expand
