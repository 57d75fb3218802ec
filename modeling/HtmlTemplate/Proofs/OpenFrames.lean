import HtmlTemplate.Proofs.LinkedBuilder
import HtmlTemplate.Proofs.RoundTrip

/-!
# Open nodes and frames

A `Builder` keeps a tree under construction as frames: for each open node, the children that it has
so far. Among linked nodes the children of an open node are those of its frame and, last, the next
open node (`Framed`). Taking an event on both sides keeps this (`Builder.Matches.take`). A new node
has the next number and comes behind all others in document order, so that in document order the
nodes stand as they were made (`Builder.Matches.shows`).
-/

namespace HtmlTemplate.Markup

open Store

variable {s s' : Store} {next : Option Nat} {n m p q : Nat} {ps ns nums nums' : List Nat}
  {k : NodeKind} {t : Node} {ts us before : List Node} {fs : List (NodeKind × List Node)}

/-! ### Roots and their trees -/

namespace Store

theorem Shows.of_append (h : Shows s ns (ts ++ us) nums) : ∃ ns₁ ns₂ nums₁ nums₂,
    ns = ns₁ ++ ns₂ ∧ nums = nums₁ ++ nums₂ ∧ Shows s ns₁ ts nums₁ ∧ Shows s ns₂ us nums₂ := by
  induction ts generalizing ns nums with
  | nil => exact ⟨[], ns, [], nums, rfl, rfl, .nil, h⟩
  | cons t ts ih =>
    cases h with
    | @cons n ns cs _ inner rest leaf inside after =>
      obtain ⟨ns₁, ns₂, nums₁, nums₂, rfl, rfl, first, later⟩ := ih after
      exact ⟨n :: ns₁, ns₂, n :: inner ++ nums₁, nums₂, rfl, (List.append_assoc ..).symm,
        .cons leaf inside first, later⟩

/-- The last of some trees has a root of its own. -/
theorem Shows.of_concat (h : Shows s ns (ts ++ [t]) nums) : ∃ ns₁ n nums₁ nums₂,
    ns = ns₁ ++ [n] ∧ nums = nums₁ ++ nums₂ ∧ Shows s ns₁ ts nums₁ ∧ Shows s [n] [t] nums₂ := by
  obtain ⟨ns₁, ns₂, nums₁, nums₂, rfl, rfl, first, later⟩ := h.of_append
  obtain ⟨n, rfl⟩ : ∃ n, ns₂ = [n] := List.length_eq_one_iff.1 later.roots.length_eq
  exact ⟨ns₁, n, nums₁, nums₂, rfl, rfl, first, later⟩

/-- A text is a single node. -/
theorem Shows.of_text {data : String} (h : Shows s [n] [.text data] nums) :
    nums = [n] ∧ s.kind n = .text data ∧ s.children n = [] := by
  obtain ⟨inner, rfl, same, -, inside⟩ := h.of_single
  have bare : s.children n = [] ∧ inner = [] := by
    change Shows s (s.children n) [] inner at inside
    generalize s.children n = ns at inside
    cases inside
    exact ⟨rfl, rfl⟩
  refine ⟨by rw [bare.2], ?_, bare.1⟩
  cases kind : s.kind n with
  | text d =>
    rw [kind] at same
    rw [Node.text.inj same]
  | _ =>
    rw [kind] at same
    cases same

end Store

/-! ### Frames -/

/-- The kind of each open node of a builder, the innermost first, with its children so far, the
latest first. -/
def Builder.frames (b : Builder) : List (NodeKind × List Node) :=
  b.opened.map (fun e => (.element e.tag e.attrs, e.before)) ++ [(.fragment, b.top)]

/-- The innermost frame holds the current children. -/
theorem Builder.exists_frames (b : Builder) : ∃ k rest,
    b.frames = (k, b.current) :: rest ∧ ∀ ns, (b.setCurrent ns).frames = (k, ns) :: rest := by
  obtain ⟨top, _ | ⟨e, es⟩⟩ := b
  · exact ⟨.fragment, [], rfl, fun _ => rfl⟩
  · exact ⟨.element e.tag e.attrs, _, rfl, fun _ => rfl⟩

/-- Open nodes, the innermost first, have the kinds and children of frames and, last, the next open
node; the innermost has `next`. All nodes so far have the given numbers in document order. -/
inductive Framed (s : Store) : Option Nat → List Nat → List (NodeKind × List Node) → List Nat → Prop
  | nil {next : Option Nat} : Framed s next [] [] []
  | cons {next : Option Nat} {p : Nat} {ps : List Nat} {k : NodeKind} {before : List Node}
      {fs : List (NodeKind × List Node)} {ns inner rest : List Nat} (kind : s.kind p = k)
      (holds : k.holdsChildren = true) (children : s.children p = ns ++ next.toList)
      (shows : Shows s ns before.reverse inner) (outer : Framed s (some p) ps fs rest) :
      Framed s next (p :: ps) ((k, before) :: fs) (rest ++ p :: inner)

namespace Framed

/-- Frames stay where their nodes do. -/
theorem congr (h : Framed s next ps fs nums) (same : ∀ m ∈ nums, SameAt s s' m) :
    Framed s' next ps fs nums := by
  induction h with
  | nil => exact .nil
  | @cons next p ps k before fs ns inner rest kind holds children shows outer ih =>
    obtain ⟨kind', children'⟩ := same p (by simp)
    exact .cons (kind'.trans kind) holds (children'.trans children)
      (shows.congr fun m hm => same m (by simp [hm])) (ih fun m hm => same m (by simp [hm]))

theorem kinds (h : Framed s next ps fs nums) : ps.map s.kind = fs.map Prod.fst := by
  induction h with
  | nil => rfl
  | cons kind _ _ _ _ ih => simp [kind, ih]

/-- An open node is the last child of the one around it. -/
theorem isChain (h : Framed s next ps fs nums) :
    ps.IsChain fun n p => (s.children p).getLast? = some n := by
  induction h with
  | nil => exact .nil
  | cons kind _ children _ outer ih =>
    cases outer with
    | nil => exact .singleton _
    | cons _ _ children' _ _ => exact .cons_cons (by simp [children']) ih

/-- The outermost open node is the first in document order. -/
theorem getLast?_eq (h : Framed s next ps fs nums) : ps.getLast? = nums.head? := by
  induction h with
  | nil => rfl
  | @cons _ p _ _ _ _ _ _ rest _ _ _ _ _ ih =>
    rw [List.getLast?_cons, List.head?_append, ih]
    cases rest <;> rfl

theorem subset (h : Framed s next ps fs nums) : ps ⊆ nums := by
  induction h with
  | nil => simp
  | cons _ _ _ _ _ ih =>
    exact List.cons_subset.2 ⟨by simp, List.Subset.trans ih (List.subset_append_left ..)⟩

/-- A tree is put to the innermost frame. -/
theorem settle (h : Framed s (some q) (p :: ps) ((k, before) :: fs) nums)
    (tree : Shows s [q] [t] nums') :
    Framed s none (p :: ps) ((k, t :: before) :: fs) (nums ++ nums') := by
  cases h with
  | cons kind holds children shows outer =>
    rw [List.append_assoc, List.cons_append]
    refine .cons kind holds (by simpa using children) ?_ outer
    rw [List.reverse_cons]
    exact shows.append tree

/-- An open node is closed. -/
theorem close {inside : List Node} {k' : NodeKind}
    (h : Framed s none (q :: p :: ps) ((k', inside) :: (k, before) :: fs) nums) :
    Framed s none (p :: ps) ((k, assemble k' inside.reverse :: before) :: fs) nums := by
  cases h with
  | cons kind holds children shows outer =>
    refine outer.settle ?_
    subst kind
    refine .single (fun leaf => ?_) ?_
    · simp [holds] at leaf
    · rwa [children, Option.toList_none, List.append_nil]

/-- A new node becomes the last child of the innermost open node. -/
theorem addLast (h : Framed s none (p :: ps) fs (List.range s.cells.size)) (k : NodeKind) :
    Framed (s.addLast p k) (some s.cells.size) (p :: ps) fs (List.range s.cells.size) := by
  have hp : s.Has p := List.mem_range.1 (h.subset List.mem_cons_self)
  have old {m : Nat} (hm : m ∈ List.range s.cells.size) (other : m ≠ p) :
      SameAt s (s.addLast p k) m := by
    have here : m ≠ s.cells.size := Nat.ne_of_lt (List.mem_range.1 hm)
    exact ⟨by rw [kind_addLast, if_neg here], by rw [children_addLast _ _ _ hp, if_neg other]⟩
  have distinct := List.nodup_range (n := s.cells.size)
  generalize List.range s.cells.size = nums at h old distinct
  cases h with
  | @cons _ _ _ k' before fs ns inner rest kind holds children shows outer =>
    rw [List.nodup_append', List.nodup_cons] at distinct
    obtain ⟨-, ⟨fresh, -⟩, apart⟩ := distinct
    refine .cons ?_ holds ?_ (shows.congr fun m hm => old (by simp [hm]) ?_)
      (outer.congr fun m hm => old (by simp [hm]) ?_)
    · rw [kind_addLast, if_neg (Nat.ne_of_lt hp), kind]
    · rw [children_addLast _ _ _ hp, if_pos rfl, children]
      simp
    · exact ne_of_mem_of_not_mem hm fresh
    · rintro rfl
      exact apart hm List.mem_cons_self

/-- The last child of the innermost open node is the latest tree of its frame. -/
theorem last_cases (h : Framed s none (p :: ps) ((k, before) :: fs) nums) :
    s.children p = [] ∧ before = [] ∨
      ∃ ns n us cs, s.children p = ns ++ [n] ∧ before = assemble (s.kind n) cs :: us := by
  cases h with
  | @cons _ _ _ _ _ _ ns inner _ _ _ children shows _ =>
    rw [Option.toList_none, List.append_nil] at children
    rcases before with _ | ⟨t, us⟩
    · cases shows
      exact .inl ⟨children, rfl⟩
    · rw [List.reverse_cons] at shows
      obtain ⟨ns, n, -, nums₂, rfl, -, -, last⟩ := shows.of_concat
      obtain ⟨-, -, same, -, -⟩ := last.of_single
      exact .inr ⟨ns, n, us, t.children, children, by rw [← same]⟩

/-- The latest tree of the innermost frame is a text, which gets other data. -/
theorem setText {before data : String} {us : List Node}
    (h : Framed s none (p :: ps) ((k, .text before :: us) :: fs) nums) (distinct : nums.Nodup)
    (last : (s.children p).getLast? = some n) (here : s.Has n) :
    Framed (s.setText n data) none (p :: ps) ((k, .text data :: us) :: fs) nums := by
  cases h with
  | cons kind holds children shows outer =>
    rw [List.reverse_cons] at shows
    obtain ⟨ns, m, nums₁, nums₂, rfl, rfl, first, single⟩ := shows.of_concat
    obtain ⟨rfl, -, bare⟩ := single.of_text
    obtain rfl : m = n := by simpa [children] using last
    have old {a : Nat} (other : a ≠ m) : SameAt s (s.setText m data) a :=
      ⟨by rw [kind_setText _ _ _ here, if_neg other], children_setText ..⟩
    rw [List.nodup_append', List.nodup_cons, List.nodup_append'] at distinct
    obtain ⟨-, ⟨fresh, -, -, apart⟩, apart'⟩ := distinct
    have other : p ≠ m := fun same => fresh (same ▸ by simp)
    refine .cons ((old other).1.trans kind) holds ((old other).2.trans children) ?_
      (outer.congr fun a ha => old ?_)
    · rw [List.reverse_cons]
      have kind' : (s.setText m data).kind m = .text data := by
        rw [kind_setText _ _ _ here, if_pos rfl]
      have told : Shows (s.setText m data) [m] [.text data] [m] :=
        .leaf (k := .text data) kind' (by rw [children_setText, bare])
      refine (first.congr fun a ha => old ?_).append told
      rintro rfl
      exact apart ha (by simp)
    · rintro rfl
      exact apart' ha (by simp)

theorem length_eq {z : Builder} (h : Framed s next ps z.frames nums) :
    ps.length = z.opened.length + 1 := by
  simpa [Builder.frames] using congrArg List.length h.kinds

/-- Some open nodes are closed, the innermost first. -/
theorem closeMany {z : Builder} (h : Framed s none ps z.frames nums) {count : Nat}
    (inside : count < ps.length) :
    Framed s none (ps.drop count) (Builder.closeMany count z).frames nums := by
  induction count generalizing z ps with
  | zero => exact h
  | succ count ih =>
    have length := h.length_eq
    obtain ⟨q, p, ps, rfl⟩ : ∃ q p rest, ps = q :: p :: rest := by
      match ps, inside with
      | q :: p :: rest, _ => exact ⟨q, p, rest, rfl⟩
    obtain ⟨top, _ | ⟨e, es⟩⟩ := z
    · simp at length
    obtain ⟨k, rest, frames, set⟩ := Builder.exists_frames ⟨top, es⟩
    have around : Builder.frames ⟨top, e :: es⟩ =
        (.element e.tag e.attrs, e.before) :: (k, Builder.current ⟨top, es⟩) :: rest := by
      rw [← frames]
      rfl
    rw [around] at h
    have closed : (Builder.closeInnermost ⟨top, e :: es⟩).frames =
        (k, .element e.tag e.attrs e.before.reverse :: Builder.current ⟨top, es⟩) :: rest := set _
    -- The frame of the innermost node becomes the latest tree of the frame around it.
    have once := h.close
    rw [assemble, ← closed] at once
    exact ih once (by simpa using inside)

end Framed

/-! ### A builder and its linked nodes -/

namespace Builder

/-- The tree that a builder has under construction is made of the given linked nodes. -/
structure Matches (z : Builder) (b : LinkedBuilder) : Prop where
  linked : WellLinked b.store
  framed : Framed b.store none b.opened.reverse z.frames (List.range b.store.cells.size)

namespace Matches

variable {z : Builder} {b : LinkedBuilder} (h : z.Matches b)

theorem start : ({} : Builder).Matches .start := by
  have linked : WellLinked LinkedBuilder.start.store := wellLinked_empty.new {} .fragment
  exact ⟨linked, .cons rfl rfl rfl .nil .nil⟩

include h

theorem innermost : ∃ ps k fs, b.opened.reverse = b.current :: ps ∧ b.store.Has b.current ∧
    Framed b.store none (b.current :: ps) ((k, z.current) :: fs) (List.range b.store.cells.size) ∧
    ∀ ns, (z.setCurrent ns).frames = (k, ns) :: fs := by
  have framed := h.framed
  obtain ⟨k, fs, frames, set⟩ := z.exists_frames
  rw [frames] at framed
  cases opened : b.opened.reverse with
  | nil =>
    rw [opened] at framed
    cases framed
  | cons p ps =>
    have current : b.current = p := by
      rw [LinkedBuilder.current, ← List.reverse_reverse b.opened, opened]
      simp
    rw [opened, ← current] at framed
    exact ⟨ps, k, fs, by rw [current], List.mem_range.1 (framed.subset List.mem_cons_self),
      framed, set⟩

theorem add (k : NodeKind) : (z.add (assemble k [])).Matches (b.add k) := by
  obtain ⟨ps, k', fs, opened, has, framed, set⟩ := h.innermost
  refine ⟨h.linked.addLast has k, ?_⟩
  have tree : Shows (b.store.addLast b.current k) [b.store.cells.size] [assemble k []]
      [b.store.cells.size] :=
    .leaf (by rw [kind_addLast, if_pos rfl]) (children_addLast_size _ _ has)
  have grown := (framed.addLast k).settle tree
  rw [← List.range_succ, ← set] at grown
  change Framed (b.store.addLast b.current k) none b.opened.reverse _
    (List.range (b.store.addLast b.current k).cells.size)
  rw [opened, size_addLast]
  exact grown

theorem addOpen (tag : String) (attrs : Attrs) :
    Matches { z with opened := ⟨tag, attrs, []⟩ :: z.opened }
      (b.addOpen (.element tag attrs)) := by
  obtain ⟨ps, k', fs, opened, has, framed, set⟩ := h.innermost
  refine ⟨h.linked.addLast has _, ?_⟩
  have outer := framed.addLast (.element tag attrs)
  rw [← set, setCurrent_current, ← opened] at outer
  change Framed (b.store.addLast b.current _) none (b.opened ++ [b.store.cells.size]).reverse
    ((.element tag attrs, []) :: z.frames) (List.range (b.store.addLast b.current _).cells.size)
  rw [List.reverse_append, size_addLast, List.range_succ]
  exact .cons (by rw [kind_addLast, if_pos rfl]) rfl (children_addLast_size _ _ has) .nil outer

theorem addText (data : String) : (z.addText data).Matches (b.addText data) := by
  obtain ⟨ps, k, fs, opened, has, framed, set⟩ := h.innermost
  rcases b.addText_cases data with ⟨n, before, last, text, told⟩ | ⟨apart, told⟩
  · have mem : n ∈ b.store.children b.current := List.mem_of_getLast? last
    obtain ⟨us, latest⟩ : ∃ us, z.current = .text before :: us := by
      rcases framed.last_cases with ⟨none, -⟩ | ⟨ns, m, us, cs, children, latest⟩
      · rw [none] at last
        cases last
      · obtain rfl : m = n := by simpa [children] using last
        exact ⟨us, by rw [latest, text]; rfl⟩
    have joined : z.addText data = z.setCurrent (.text (before ++ data) :: us) := by
      rw [Builder.addText, latest]
    rw [latest] at framed
    rw [told, joined]
    refine ⟨h.linked.setText n _, ?_⟩
    change Framed (b.store.setText n _) none b.opened.reverse _
      (List.range (b.store.setText n _).cells.size)
    rw [opened, set, size_setText]
    exact framed.setText List.nodup_range last (h.linked.has_of_mem mem)
  · have bare : startsWithText z.current = false := by
      rcases framed.last_cases with ⟨-, empty⟩ | ⟨ns, m, us, cs, children, latest⟩
      · rw [empty]
        rfl
      · have := apart m (by simp [children])
        rw [latest]
        cases kind : b.store.kind m with
        | text d =>
          rw [kind] at this
          cases this
        | _ => rfl
    rw [told, addText_eq_add bare]
    exact h.add (.text data)

theorem current_mem : b.current ∈ b.opened := by
  obtain ⟨ps, -, -, opened, -, -⟩ := h.innermost
  rw [← List.mem_reverse, opened]
  exact List.mem_cons_self

theorem has_of_mem (mem : n ∈ b.opened) : b.store.Has n :=
  List.mem_range.1 (h.framed.subset (List.mem_reverse.2 mem))

/-- The root is the outermost open node. -/
theorem root : b.opened.head? = some 0 := by
  have has := h.has_of_mem h.current_mem
  rw [← List.getLast?_reverse, h.framed.getLast?_eq, List.head?_range,
    if_neg (Nat.ne_zero_of_lt has)]

/-- The root is open and, inside it, the open elements of the builder. -/
theorem kinds : b.opened.map b.store.kind =
    .fragment :: (z.opened.map fun e => NodeKind.element e.tag e.attrs).reverse := by
  have kinds := congrArg List.reverse h.framed.kinds
  rw [← List.map_reverse, List.reverse_reverse] at kinds
  simpa [frames, Function.comp_def] using kinds

/-- The root is no element with a tag. -/
theorem untagged {tag : String} (other : ∀ m ∈ b.opened.tail, (b.store.kind m).tag? ≠ some tag) :
    ∀ m ∈ b.opened, (b.store.kind m).tag? ≠ some tag := by
  intro m hm
  have kinds := h.kinds
  cases opened : b.opened with
  | nil => simp [opened] at kinds
  | cons root inner =>
    rw [opened] at kinds other hm
    obtain ⟨fragment, -⟩ := List.cons.inj kinds
    rcases List.mem_cons.1 hm with rfl | hm
    · simp [fragment, NodeKind.tag?]
    · exact other m hm

/-- The innermost open element with a tag is in the same place on both sides. -/
theorem findIdx?_eq (tag : String) : z.opened.findIdx? (·.tag == tag) =
    b.opened.reverse.findIdx? fun n => (b.store.kind n).tag? == some tag := by
  have kinds := h.framed.kinds
  have found : (b.opened.reverse.map b.store.kind).findIdx? (fun k => k.tag? == some tag) =
      b.opened.reverse.findIdx? fun n => (b.store.kind n).tag? == some tag := List.findIdx?_map ..
  rw [← found, kinds, frames, List.map_append, List.map_map, List.findIdx?_append,
    List.findIdx?_map]
  simp [Function.comp_def, NodeKind.tag?]

theorem close (tag : String) : (z.close tag).Matches (b.close tag) := by
  have place := h.findIdx?_eq tag
  unfold Builder.close
  rcases b.close_cases tag with ⟨outer, n, inner, opened, ne, found, other, closed⟩ |
    ⟨other, closed⟩
  · -- Nothing inside the found node has the tag, so both sides stop at the same place.
    have reversed : b.opened.reverse = inner.reverse ++ n :: outer.reverse := by rw [opened]; simp
    have apart : inner.reverse.findIdx? (fun m => (b.store.kind m).tag? == some tag) = none := by
      rw [List.findIdx?_eq_none_iff]
      intro m hm
      simpa using other m (List.mem_reverse.1 hm)
    rw [reversed, List.findIdx?_append, apart, Option.none_or, List.findIdx?_cons, found] at place
    have at_inner : z.opened.findIdx? (·.tag == tag) = some inner.length := by simpa using place
    have inside : inner.length + 1 < b.opened.reverse.length := by
      have := List.length_pos_iff.2 ne
      simp only [List.length_reverse, opened, List.length_append, List.length_cons]
      omega
    have left : b.opened.reverse.drop (inner.length + 1) = outer.reverse := by
      rw [reversed, List.append_cons]
      exact List.drop_left' (by simp)
    have framed := h.framed.closeMany inside
    rw [left] at framed
    simp only [at_inner, closed]
    exact ⟨h.linked, framed⟩
  · have absent : z.opened.findIdx? (·.tag == tag) = none := by
      rw [place, List.findIdx?_eq_none_iff]
      intro m hm
      simpa using h.untagged other m (List.mem_reverse.1 hm)
    simp only [absent, closed]
    exact h

theorem take (e : Event) : (z.take e).Matches (b.take e) := by
  cases e with
  | startTag tag attrs =>
    rw [Builder.take, LinkedBuilder.take]
    split_ifs
    · exact h.add (.element tag _)
    · exact h.addOpen tag _
  | emptyTag tag attrs => exact h.add (.element tag _)
  | endTag tag => exact h.close tag
  | data text => exact h.addText text
  | comment text => exact h.add (.comment text)
  | declaration text => exact h.add (.directive _)
  | instruction text => exact h.add (.directive _)
  | markedSection text => exact h.add (.directive _)

theorem takeAll (events : List Event) : (z.takeAll events).Matches (b.takeAll events) := by
  induction events generalizing z b with
  | nil => exact h
  | cons e events ih => exact ih (h.take e)

/-- With all open nodes closed the root is that of the tree, and the nodes are numbered in document
order. -/
theorem shows : Shows b.store [0] [.fragment z.tree] (List.range b.store.cells.size) := by
  have length := h.framed.length_eq
  have closed := h.framed.closeMany (show z.opened.length < _ by omega)
  obtain ⟨p, single⟩ : ∃ p, b.opened.reverse.drop z.opened.length = [p] :=
    List.length_eq_one_iff.1 (by simp [length])
  have flat : (closeMany z.opened.length z).opened = [] := by
    have := closed.length_eq
    rw [single] at this
    exact List.length_eq_zero_iff.1 (Nat.succ.inj this).symm
  have first := closed.getLast?_eq
  rw [← h.framed.getLast?_eq, List.getLast?_reverse, h.root, single] at first
  obtain rfl : p = 0 := Option.some.inj first
  rw [single, frames, flat] at closed
  generalize List.range b.store.cells.size = nums at closed
  cases closed with
  | cons kind holds children shows outer =>
    cases outer
    rw [Option.toList_none, List.append_nil] at children
    rw [← children] at shows
    have root := Shows.single (fun leaf => by simp [kind, holds] at leaf) shows
    rwa [kind] at root

end Matches

end Builder

end HtmlTemplate.Markup
