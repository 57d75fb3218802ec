import HtmlTemplate.Diagnostic
import HtmlTemplate.Markup.Node

/-!
# Stacks

The content of every `push` element goes into the bucket that the element names, in document order,
and every `stack` element is replaced by the content of the bucket that it names. Of the elements
with one `id` a bucket keeps only the first. `collect` takes the pushes out of a forest, and
`replay` fills the placeholders. Both stop at the first element that names no bucket and leave what
follows as it is.
-/

namespace HtmlTemplate.Stacks

open HtmlTemplate.Markup

/-- What was pushed to one stack. -/
structure Bucket where
  content : List Node := []
  /-- The ids of the elements in the content. -/
  ids : List String := []

namespace Bucket

/-- The id of a node. -/
def idOf? (n : Node) : Option String := if n.isElement then n.attrs.get? "id" else none

/-- Whether a bucket takes a node. -/
def takes (b : Bucket) (n : Node) : Bool :=
  match idOf? n with
  | some id => !b.ids.contains id
  | none => true

/-- Adds a node unless an element with its id is there. -/
def add (b : Bucket) (n : Node) : Bucket :=
  if b.takes n then ⟨b.content ++ [n], b.ids ++ (idOf? n).toList⟩ else b

/-- Adds nodes one after another. -/
def addAll (b : Bucket) (ns : List Node) : Bucket := ns.foldl add b

end Bucket

/-! ### Collecting -/

mutual

/-- A tree without the pushes inside it; at the top a push stays, without its content. -/
def withoutPushes (tag : String) : Node → Node
  | .element t attrs cs => if t == tag then .element t attrs [] else .element t attrs (dropPushes tag cs)
  | .fragment cs => .fragment (dropPushes tag cs)
  | n => n

/-- A forest without the pushes in it. -/
def dropPushes (tag : String) : List Node → List Node
  | [] => []
  | n :: ns =>
    if n.hasTag tag then dropPushes tag ns else withoutPushes tag n :: dropPushes tag ns

end

/-- Buckets under way; `lost` tells that an element named no bucket. -/
structure Collection where
  buckets : Bindings Bucket := []
  lost : Bool := false

namespace Collection

/-- Adds the content of a push. -/
def push (c : Collection) (name : String) (content : List Node) : Collection :=
  { c with buckets := c.buckets.put name (((c.buckets.get? name).getD {}).addAll content) }

end Collection

mutual

/-- Collects the pushes in a tree, and gives what stays in its place. -/
def collectIn (tag : String) : Node → Collection → List Node × Collection
  | .element t attrs cs, c =>
    if c.lost then ([.element t attrs cs], c)
    else if t == tag then
      match attrs.get? "stack" with
      | none => ([.element t attrs cs], { c with lost := true })
      | some name =>
        let (_, c) := collectAmong tag cs (c.push name (cs.map (withoutPushes tag)))
        ([], c)
    else
      let (cs, c) := collectAmong tag cs c
      ([.element t attrs cs], c)
  | .fragment cs, c =>
    let (cs, c) := collectAmong tag cs c
    ([.fragment cs], c)
  | n, c => ([n], c)

/-- Collects the pushes in a forest, and gives what stays in its place. -/
def collectAmong (tag : String) : List Node → Collection → List Node × Collection
  | [], c => ([], c)
  | n :: ns, c =>
    let (here, c) := collectIn tag n c
    let (rest, c) := collectAmong tag ns c
    (here ++ rest, c)

end

/-- Takes the pushes out of a forest. -/
def collect (tag : String) (forest : List Node) : List Node × Collection :=
  collectAmong tag forest {}

/-! ### Replaying -/

mutual

/-- Replaces the placeholders in a tree; the truth value tells that one of them named no stack. -/
def replayIn (tag : String) (buckets : Bindings Bucket) : Node → Bool → List Node × Bool
  | .element t attrs cs, lost =>
    if lost then ([.element t attrs cs], true)
    else if t == tag then
      match attrs.get? "name" with
      | none => ([.element t attrs cs], true)
      | some name =>
        (((buckets.get? name).map Bucket.content).getD [], (replayAmong tag buckets cs false).2)
    else
      let (cs, lost) := replayAmong tag buckets cs false
      ([.element t attrs cs], lost)
  | .fragment cs, lost =>
    let (cs, lost) := replayAmong tag buckets cs lost
    ([.fragment cs], lost)
  | n, lost => ([n], lost)

/-- Replaces the placeholders in a forest. -/
def replayAmong (tag : String) (buckets : Bindings Bucket) : List Node → Bool → List Node × Bool
  | [], lost => ([], lost)
  | n :: ns, lost =>
    let (here, lost) := replayIn tag buckets n lost
    let (rest, lost) := replayAmong tag buckets ns lost
    (here ++ rest, lost)

end

/-- Replaces the placeholders in a forest. -/
def replay (tag : String) (buckets : Bindings Bucket) (forest : List Node) : List Node × Bool :=
  replayAmong tag buckets forest false

/-! ### Both -/

/-- What has become of a forest and of the buckets, with the problem that ended the work. -/
structure Resolution where
  forest : List Node
  buckets : Bindings Bucket
  problem? : Option Problem := none

/-- Moves pushed content to its placeholders. -/
def resolve (pushTag stackTag : String) (forest : List Node) : Resolution :=
  let (forest, c) := collect pushTag forest
  if c.lost then ⟨forest, c.buckets, some (.missingAttribute pushTag ["stack"])⟩
  else
    let (forest, lost) := replay stackTag c.buckets forest
    ⟨forest, c.buckets, if lost then some (.missingAttribute stackTag ["name"]) else none⟩

end HtmlTemplate.Stacks
