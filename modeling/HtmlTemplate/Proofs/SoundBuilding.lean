import HtmlTemplate.Proofs.OpenFrames
import Mathlib.Data.List.Chain

/-!
# What building a tree keeps

A tree is built from events among linked nodes. At each event the tree is `Sound`: the open nodes are
a way down along last children, void elements are empty, texts stand apart, and in document order
the nodes stand as they were made. What an event does is told by `Performs`; what it leaves as it is,
by `Keeps`: a node stays where it is, and a node that is closed gets no more children. Both the tree
and the open nodes are those of the `Builder` that takes the same events. Text may come in pieces
(`addText_addText`). All of this is put together in `built_of_spoken`.
-/

namespace HtmlTemplate.Markup

open Store

/-! ### Neat nodes -/

namespace Store

variable {s : Store} {n p : Nat} {k : NodeKind}

/-- What the nodes of a store are like whose tree is built from events. -/
structure Neat (s : Store) : Prop where
  void : ∀ n tag, (s.kind n).tag? = some tag → isVoid tag = true → s.children n = []
  apart : ∀ p, (s.children p).IsChain fun m n =>
    ¬ ((s.kind m).isText = true ∧ (s.kind n).isText = true)
  spoken : ∀ n, s.kind n ≠ .text ""
  distinct : ∀ n, (s.kind n).attrs.names.Nodup

/-- A new last child keeps a store neat when its parent is no void element and the last child before
and the new one are not both texts. -/
theorem Neat.addLast (neat : Neat s) (linked : WellLinked s) (hp : s.Has p)
    (filled : ∀ tag, (s.kind p).tag? = some tag → isVoid tag = false) (spoken : k ≠ .text "")
    (distinct : k.attrs.names.Nodup) (apart : k.isText = true → ∀ n,
      (s.children p).getLast? = some n → (s.kind n).isText = false) : Neat (s.addLast p k) := by
  have other : p ≠ s.cells.size := Nat.ne_of_lt hp
  have old {m : Nat} (hm : s.Has m) : (s.addLast p k).kind m = s.kind m := by
    rw [kind_addLast, if_neg (Nat.ne_of_lt hm)]
  refine ⟨fun n tag named void => ?_, fun q => ?_, fun n => ?_, fun n => ?_⟩
  · rw [kind_addLast] at named
    rw [children_addLast _ _ _ hp]
    by_cases here : n = p
    · subst here
      rw [if_neg other] at named
      rw [filled tag named] at void
      cases void
    · rw [if_neg here]
      split_ifs at named with new
      · rw [new, children_size]
      · exact neat.void n tag named void
  · have before (q : Nat) : (s.children q).IsChain fun m n =>
        ¬ (((s.addLast p k).kind m).isText = true ∧ ((s.addLast p k).kind n).isText = true) := by
      refine (neat.apart q).imp_of_mem_imp fun m n hm hn texts => ?_
      rwa [old (linked.has_of_mem hm), old (linked.has_of_mem hn)]
    rw [children_addLast _ _ _ hp]
    split_ifs with here
    · refine (before p).append (.singleton _) fun m hm n hn => ?_
      obtain rfl : s.cells.size = n := by simpa using hn
      rintro ⟨first, second⟩
      rw [kind_addLast, if_pos rfl] at second
      rw [old (linked.has_of_mem (List.mem_of_getLast? hm)), apart second m hm] at first
      cases first
    · exact before q
  · rw [kind_addLast]
    split_ifs
    · exact spoken
    · exact neat.spoken n
  · rw [kind_addLast]
    split_ifs
    · exact distinct
    · exact neat.distinct n

/-- A text keeps a store neat when it gets more data. -/
theorem Neat.setText (neat : Neat s) {before data : String} (text : s.kind n = .text before)
    (here : s.Has n) (nonempty : data ≠ "") : Neat (s.setText n data) := by
  have same (m : Nat) : ((s.setText n data).kind m).isText = (s.kind m).isText := by
    rw [kind_setText _ _ _ here]
    split_ifs with this
    · rw [this, text]
      rfl
    · rfl
  refine ⟨fun m tag named void => ?_, fun q => ?_, fun m => ?_, fun m => ?_⟩
  · rw [kind_setText _ _ _ here] at named
    rw [children_setText]
    split_ifs at named
    · cases named
    · exact neat.void m tag named void
  · rw [children_setText]
    exact (neat.apart q).imp fun a b apart => by rwa [same, same]
  · rw [kind_setText _ _ _ here]
    split_ifs
    · exact fun same => nonempty (NodeKind.text.inj same)
    · exact neat.spoken m
  · rw [kind_setText _ _ _ here]
    split_ifs
    · exact List.nodup_nil
    · exact neat.distinct m

/-- A store gained a node, the last child of another one; all else is as it was. -/
structure Gains (s : Store) (p : Nat) (k : NodeKind) (s' : Store) : Prop where
  size : s'.cells.size = s.cells.size + 1
  made : s'.cell s.cells.size = ⟨k, some p, []⟩
  parent : s'.cell p = { s.cell p with children := s.children p ++ [s.cells.size] }
  same : ∀ n, n ≠ p → n ≠ s.cells.size → s'.cell n = s.cell n

theorem gains_addLast (s : Store) (hp : s.Has p) (k : NodeKind) : Gains s p k (s.addLast p k) := by
  have other : p ≠ s.cells.size := Nat.ne_of_lt hp
  refine ⟨size_addLast .., ?_, ?_, fun n hn new => cell_eq ?_ ?_ ?_⟩
  · rw [cell_eta, kind_addLast, parent?_addLast, children_addLast_size _ _ hp, if_pos rfl,
      if_pos rfl]
  · rw [cell_eta, kind_addLast, parent?_addLast, children_addLast _ _ _ hp, if_neg other,
      if_neg other, if_pos rfl]
    rfl
  · rw [kind_addLast, if_neg new]
  · rw [parent?_addLast, if_neg new]
  · rw [children_addLast _ _ _ hp, if_neg hn]

/-- A node of a store became a text; all else is as it was. -/
structure Becomes (s : Store) (n : Nat) (data : String) (s' : Store) : Prop where
  size : s'.cells.size = s.cells.size
  told : s'.cell n = { s.cell n with kind := .text data }
  same : ∀ m, m ≠ n → s'.cell m = s.cell m

theorem becomes_setText (s : Store) (here : s.Has n) (data : String) :
    Becomes s n data (s.setText n data) := by
  refine ⟨size_setText .., ?_, fun m other => cell_modify_of_ne other _⟩
  rw [Store.setText, cell_modify, if_pos ⟨rfl, here⟩]

end Store

namespace LinkedBuilder

variable {z : Builder} {b b' b'' : LinkedBuilder} {n : Nat}

/-! ### What an event does -/

/-- The open nodes that an end tag leaves: those outside the innermost element with its name, or all
when there is no such element. -/
def Closes (b : LinkedBuilder) (tag : String) (left : List Nat) : Prop :=
  (∃ n inner, b.opened = left ++ n :: inner ∧ left ≠ [] ∧ (b.store.kind n).tag? = some tag ∧
    ∀ m ∈ inner, (b.store.kind m).tag? ≠ some tag) ∨
  (∀ m ∈ b.opened, (b.store.kind m).tag? ≠ some tag) ∧ left = b.opened

/-- What a builder makes of an event. -/
def Performs (b : LinkedBuilder) (e : Event) (b' : LinkedBuilder) : Prop :=
  match e with
  | .startTag tag attrs =>
    (∃ as, FirstValues attrs as ∧ Gains b.store b.current (.element tag as) b'.store) ∧
      b'.opened = if isVoid tag then b.opened else b.opened ++ [b.store.cells.size]
  | .emptyTag tag attrs =>
    (∃ as, FirstValues attrs as ∧ Gains b.store b.current (.element tag as) b'.store) ∧
      b'.opened = b.opened
  | .endTag tag => b'.store = b.store ∧ b.Closes tag b'.opened
  | .data text =>
    ((∃ n before, (b.store.children b.current).getLast? = some n ∧ b.store.kind n = .text before ∧
        Becomes b.store n (before ++ text) b'.store) ∨
      (∀ n, (b.store.children b.current).getLast? = some n → (b.store.kind n).isText = false) ∧
        Gains b.store b.current (.text text) b'.store) ∧ b'.opened = b.opened
  | .comment text => Gains b.store b.current (.comment text) b'.store ∧ b'.opened = b.opened
  | .declaration text =>
    Gains b.store b.current (.directive ("!" ++ text)) b'.store ∧ b'.opened = b.opened
  | .instruction text =>
    Gains b.store b.current (.directive ("?" ++ text)) b'.store ∧ b'.opened = b.opened
  | .markedSection text =>
    Gains b.store b.current (.directive ("![" ++ text ++ "]]")) b'.store ∧ b'.opened = b.opened

theorem performs_take (h : z.Matches b) (e : Event) : b.Performs e (b.take e) := by
  have gains (k : NodeKind) : Gains b.store b.current k (b.add k).store :=
    gains_addLast b.store (h.has_of_mem h.current_mem) k
  cases e with
  | startTag tag attrs =>
    have values := firstValues_attrsOf attrs
    rw [Performs, take]
    split_ifs
    · exact ⟨⟨_, values, gains _⟩, rfl⟩
    · exact ⟨⟨_, values, gains _⟩, rfl⟩
  | emptyTag tag attrs => exact ⟨⟨_, firstValues_attrsOf attrs, gains _⟩, rfl⟩
  | endTag tag =>
    rw [Performs, take]
    rcases b.close_cases tag with ⟨outer, n, inner, opened, ne, found, other, closed⟩ |
      ⟨other, closed⟩
    · rw [closed]
      exact ⟨rfl, .inl ⟨n, inner, opened, ne, found, other⟩⟩
    · rw [closed]
      exact ⟨rfl, .inr ⟨h.untagged other, rfl⟩⟩
  | data text =>
    rw [Performs, take]
    rcases b.addText_cases text with ⟨n, before, last, kind, told⟩ | ⟨apart, told⟩
    · have here := h.linked.has_of_mem (List.mem_of_getLast? last)
      rw [told]
      exact ⟨.inl ⟨n, before, last, kind, becomes_setText _ here _⟩, rfl⟩
    · rw [told]
      exact ⟨.inr ⟨apart, gains _⟩, rfl⟩
  | comment text => exact ⟨gains _, rfl⟩
  | declaration text => exact ⟨gains _, rfl⟩
  | instruction text => exact ⟨gains _, rfl⟩
  | markedSection text => exact ⟨gains _, rfl⟩

/-! ### What events leave as it is -/

/-- No node is lost or moved, the children keep their order, only texts grow, and a node that is
closed stays closed and gets no more children. -/
structure Keeps (b b' : LinkedBuilder) : Prop where
  has : ∀ n, b.store.Has n → b'.store.Has n
  parent : ∀ n, b.store.Has n → b'.store.parent? n = b.store.parent? n
  children : ∀ n, b.store.children n <+: b'.store.children n
  kind : ∀ n, b.store.Has n → b'.store.kind n = b.store.kind n ∨
    ∃ before after, b.store.kind n = .text before ∧ b'.store.kind n = .text (before ++ after)
  closed : ∀ n, b.store.Has n → n ∉ b.opened →
    n ∉ b'.opened ∧ b'.store.children n = b.store.children n

theorem Keeps.refl (b : LinkedBuilder) : Keeps b b :=
  ⟨fun _ => id, fun _ _ => rfl, fun _ => List.prefix_rfl, fun _ _ => .inl rfl,
    fun _ _ closed => ⟨closed, rfl⟩⟩

theorem Keeps.trans (first : Keeps b b') (later : Keeps b' b'') : Keeps b b'' where
  has n hn := later.has n (first.has n hn)
  parent n hn := (later.parent n (first.has n hn)).trans (first.parent n hn)
  children n := (first.children n).trans (later.children n)
  kind n hn := by
    rcases first.kind n hn with same | ⟨before, after, text, grown⟩
    · rw [← same]
      exact later.kind n (first.has n hn)
    · rcases later.kind n (first.has n hn) with same | ⟨before', after', text', grown'⟩
      · exact .inr ⟨before, after, text, same.trans grown⟩
      · refine .inr ⟨before, after ++ after', text, ?_⟩
        rw [grown', ← NodeKind.text.inj (grown.symm.trans text'), String.append_assoc]
  closed n hn closed := by
    obtain ⟨closed', same⟩ := first.closed n hn closed
    obtain ⟨closed'', same'⟩ := later.closed n (first.has n hn) closed'
    exact ⟨closed'', same'.trans same⟩

/-- Only texts change. -/
theorem Keeps.kind_eq (kept : Keeps b b') (here : b.store.Has n)
    (other : (b.store.kind n).isText = false) : b'.store.kind n = b.store.kind n := by
  rcases kept.kind n here with same | ⟨before, after, text, -⟩
  · exact same
  · rw [text] at other
    cases other

/-- A new last child of an open node leaves the others as they are. -/
theorem keeps_addLast (here : b.store.Has b.current) (opened : b.current ∈ b.opened)
    (k : NodeKind) {more : List Nat} (fresh : ∀ n ∈ more, ¬ b.store.Has n) :
    Keeps b ⟨b.store.addLast b.current k, b.opened ++ more⟩ where
  has n hn := (has_addLast _ _ _ _).2 (.inl hn)
  parent n hn := by rw [parent?_addLast, if_neg (Nat.ne_of_lt hn)]
  children n := by
    rw [children_addLast _ _ _ here]
    split_ifs with same
    · rw [same]
      exact List.prefix_append ..
    · exact List.prefix_rfl
  kind n hn := .inl (by rw [kind_addLast, if_neg (Nat.ne_of_lt hn)])
  closed n hn closed := by
    have other : n ≠ b.current := fun same => closed (same ▸ opened)
    rw [children_addLast _ _ _ here, if_neg other, List.mem_append, not_or]
    exact ⟨⟨closed, fun mem => fresh n mem hn⟩, rfl⟩

theorem Advances.keeps (h : z.Matches b) (step : b.Advances b') : Keeps b b' := by
  have mem := h.current_mem
  have has := h.has_of_mem mem
  cases step with
  | @adds k _ _ _ =>
    have kept : Keeps b ⟨b.store.addLast b.current k, b.opened ++ []⟩ :=
      keeps_addLast has mem k (by simp)
    rwa [List.append_nil] at kept
  | opens _ _ =>
    refine keeps_addLast has mem _ fun n hn => ?_
    rw [List.mem_singleton.1 hn]
    exact Nat.lt_irrefl _
  | @joins n before data _ last text =>
    have here := h.linked.has_of_mem (List.mem_of_getLast? last)
    refine ⟨fun m hm => by rwa [Has, size_setText], fun m _ => parent?_setText .., fun m => ?_,
      fun m _ => ?_, fun m _ closed => ⟨closed, children_setText ..⟩⟩
    · rw [children_setText]
    · rw [kind_setText _ _ _ here]
      split_ifs with same
      · exact .inr ⟨before, data, same ▸ text, rfl⟩
      · exact .inl rfl
  | closes part _ =>
    exact ⟨fun _ => id, fun _ _ => rfl, fun _ => List.prefix_rfl, fun _ _ => .inl rfl,
      fun n _ closed => ⟨fun mem => closed (part.subset mem), rfl⟩⟩

/-! ### Soundness -/

/-- The open elements are no void elements. -/
def Filled (b : LinkedBuilder) : Prop :=
  ∀ n ∈ b.opened, ∀ tag, (b.store.kind n).tag? = some tag → isVoid tag = false

theorem Advances.neat (h : z.Matches b) (neat : Neat b.store) (filled : b.Filled)
    (step : b.Advances b') : Neat b'.store ∧ b'.Filled := by
  have mem := h.current_mem
  have has := h.has_of_mem mem
  have old {n : Nat} (hn : n ∈ b.opened) (k : NodeKind) :
      (b.store.addLast b.current k).kind n = b.store.kind n := by
    rw [kind_addLast, if_neg (Nat.ne_of_lt (h.has_of_mem hn))]
  cases step with
  | @adds k spoken distinct apart =>
    refine ⟨neat.addLast h.linked has (filled _ mem) spoken distinct apart, fun n hn tag named => ?_⟩
    change ((b.store.addLast b.current k).kind n).tag? = _ at named
    rw [old hn] at named
    exact filled n hn tag named
  | @opens tag attrs full distinct =>
    refine ⟨neat.addLast h.linked has (filled _ mem) (by simp) distinct (fun text => nomatch text),
      fun n hn tag' named => ?_⟩
    change ((b.store.addLast b.current (.element tag attrs)).kind n).tag? = _ at named
    rcases List.mem_append.1 hn with hn | hn
    · rw [old hn] at named
      exact filled n hn tag' named
    · rw [List.mem_singleton.1 hn, kind_addLast, if_pos rfl] at named
      rwa [← Option.some.inj named]
  | @joins n before data nonempty last text =>
    have here := h.linked.has_of_mem (List.mem_of_getLast? last)
    have longer : before ++ data ≠ "" := by simp [nonempty]
    refine ⟨neat.setText text here longer, fun m hm tag named => ?_⟩
    change ((b.store.setText n _).kind m).tag? = _ at named
    rw [kind_setText _ _ _ here] at named
    split_ifs at named
    · cases named
    · exact filled m hm tag named
  | closes part _ => exact ⟨neat, fun n hn => filled n (part.subset hn)⟩

/-- What a builder is like after each event: its open nodes lead from the root down along last
children and are no void elements, its nodes are neat, and in document order they stand as they were
made. -/
structure Sound (b : LinkedBuilder) : Prop where
  linked : WellLinked b.store
  neat : Neat b.store
  root : b.opened.head? = some 0
  fragment : b.store.kind 0 = .fragment
  elements : ∀ n ∈ b.opened.tail, ∃ tag attrs,
    b.store.kind n = .element tag attrs ∧ isVoid tag = false
  chain : b.opened.IsChain fun p n => (b.store.children p).getLast? = some n
  order : b.store.preorder 0 = List.range b.store.cells.size

/-- Linked nodes that are made like the tree of a builder, and neatly so. -/
structure Tends (z : Builder) (b : LinkedBuilder) : Prop where
  same : z.Matches b
  neat : Neat b.store
  filled : b.Filled

theorem tends_start : Tends {} start := by
  have blank (n : Nat) : ({} : Store).cell n = ⟨.blank, none, []⟩ :=
    cell_of_not_has (Nat.not_lt_zero n)
  have kind (n : Nat) : start.store.kind n = if n = 0 then .fragment else .blank := by
    rw [start, kind_new, Store.kind, blank]
    rfl
  have bare (n : Nat) : start.store.children n = [] := by
    rw [start, children_new, children, blank]
  refine ⟨.start, ⟨fun n _ _ _ => bare n, fun p => ?_, fun n => ?_, fun n => ?_⟩,
    fun n _ tag named => ?_⟩
  · rw [bare]
    exact .nil
  · rw [kind]
    split_ifs <;> simp
  · rw [kind]
    split_ifs <;> exact List.nodup_nil
  · rw [kind] at named
    split_ifs at named <;> cases named

theorem Tends.take (h : Tends z b) {e : Event} (nonempty : e ≠ .data "") :
    Tends (z.take e) (b.take e) := by
  obtain ⟨neat, filled⟩ := (b.advances_take nonempty).neat h.same h.neat h.filled
  exact ⟨h.same.take e, neat, filled⟩

theorem Tends.takeAll (h : Tends z b) {events : List Event} (spoken : .data "" ∉ events) :
    Tends (z.takeAll events) (b.takeAll events) ∧ Keeps b (b.takeAll events) := by
  induction events generalizing z b with
  | nil => exact ⟨h, .refl b⟩
  | cons e events ih =>
    have nonempty : e ≠ .data "" := fun same => spoken (same ▸ List.mem_cons_self)
    obtain ⟨tends, kept⟩ := ih (h.take nonempty) fun mem => spoken (List.mem_cons_of_mem e mem)
    exact ⟨tends, ((b.advances_take nonempty).keeps h.same).trans kept⟩

theorem Tends.sound (h : Tends z b) : Sound b := by
  have root := h.same.root
  have kinds := h.same.kinds
  obtain ⟨inner, opened⟩ : ∃ inner, b.opened = 0 :: inner := List.head?_eq_some_iff.1 root
  rw [opened] at kinds
  obtain ⟨fragment, kinds⟩ := List.cons.inj kinds
  refine ⟨h.same.linked, h.neat, root, fragment, fun n hn => ?_, ?_, ?_⟩
  · rw [opened] at hn
    have mem : b.store.kind n ∈ inner.map b.store.kind := List.mem_map_of_mem hn
    rw [kinds, List.mem_reverse, List.mem_map] at mem
    obtain ⟨e, -, kind⟩ := mem
    refine ⟨e.tag, e.attrs, kind.symm, h.filled n (opened ▸ List.mem_cons_of_mem 0 hn) e.tag ?_⟩
    rw [← kind]
    rfl
  · exact List.isChain_reverse.1 h.same.framed.isChain
  · exact h.same.shows.preorder h.same.linked (h.same.has_of_mem (opened ▸ List.mem_cons_self))

/-! ### Text in pieces -/

/-- Text in two pieces is as good as in one. -/
theorem addText_addText (h : z.Matches b) (first later : String) :
    (b.addText first).addText later = b.addText (first ++ later) := by
  have has := h.has_of_mem h.current_mem
  rcases b.addText_cases first with ⟨n, before, last, text, told⟩ | ⟨apart, told⟩
  · have here := h.linked.has_of_mem (List.mem_of_getLast? last)
    let s := b.store.setText n (before ++ first)
    have last' : (s.children b.current).getLast? = some n := by rw [children_setText, last]
    have text' : s.kind n = .text (before ++ first) := by
      rw [kind_setText _ _ _ here, if_pos rfl]
    have again := addText_of_text (b := { b with store := s }) later last' text'
    rw [told, addText_of_text _ last text, again, setText_setText _ here, String.append_assoc]
  · let s := b.store.addLast b.current (.text first)
    have last' : (s.children b.current).getLast? = some b.store.cells.size := by
      rw [children_addLast _ _ _ has, if_pos rfl, List.getLast?_concat]
    have text' : s.kind b.store.cells.size = .text first := by rw [kind_addLast, if_pos rfl]
    have again := addText_of_text (b := { b with store := s }) later last' text'
    rw [told, addText_of_apart _ apart, add, again, add, setText_addLast _ has]

/-! ### A whole run -/

/-- What building a tree from events comes to. -/
structure Built (events : List Event) : Prop where
  sound : ∀ done left, events = done ++ left → Sound (start.takeAll done)
  /-- The tree and the open nodes are those of the builder without links. -/
  agrees : ∀ done left, events = done ++ left →
    (start.takeAll done).store.tree? 0 = some (.fragment (({} : Builder).takeAll done).tree) ∧
      (start.takeAll done).opened.map (start.takeAll done).store.kind = .fragment ::
        ((({} : Builder).takeAll done).opened.map fun e => .element e.tag e.attrs).reverse
  performs : ∀ done e left, events = done ++ e :: left →
    Performs (start.takeAll done) e (start.takeAll (done ++ [e]))
  keeps : ∀ done left, events = done ++ left → Keeps (start.takeAll done) (start.takeAll events)
  /-- The element of a tag has the first values of its attributes for good, and no children when the
  tag closes it at once. -/
  elements : ∀ done e left tag attrs, events = done ++ e :: left →
    e = .startTag tag attrs ∨ e = .emptyTag tag attrs →
      ∃ as, FirstValues attrs as ∧
        (start.takeAll events).store.kind (start.takeAll done).store.cells.size = .element tag as ∧
        (e = .emptyTag tag attrs →
          (start.takeAll events).store.children (start.takeAll done).store.cells.size = [])
  pieces : ∀ done first later left, events = done ++ .data (first ++ later) :: left →
    start.takeAll (done ++ .data first :: .data later :: left) = start.takeAll events

theorem Performs.element {e : Event} {tag : String} {attrs : List (String × Option String)}
    (done : Performs b e b') (tagged : e = .startTag tag attrs ∨ e = .emptyTag tag attrs) :
    ∃ as, FirstValues attrs as ∧ Gains b.store b.current (.element tag as) b'.store := by
  rcases tagged with rfl | rfl
  · exact done.1
  · exact done.1

/-- Building a tree from any events without empty texts. -/
theorem built_of_spoken {events : List Event} (spoken : ∀ text, .data text ∈ events → text ≠ "") :
    Built events := by
  have run (done left : List Event) (split : events = done ++ left) :
      Tends (({} : Builder).takeAll done) (start.takeAll done) ∧
        Keeps (start.takeAll done) (start.takeAll events) := by
    subst split
    have tends := (tends_start.takeAll fun mem : Event.data "" ∈ done =>
      spoken "" (List.mem_append_left left mem) rfl).1
    rw [takeAll_append]
    exact ⟨tends, (tends.takeAll fun mem => spoken "" (List.mem_append_right done mem) rfl).2⟩
  have performs (done : List Event) (e : Event) (left : List Event)
      (split : events = done ++ e :: left) :
      Performs (start.takeAll done) e (start.takeAll (done ++ [e])) := by
    rw [takeAll_append]
    exact performs_take (run done _ split).1.same e
  refine ⟨fun done left split => (run done left split).1.sound, fun done left split => ?_, performs,
    fun done left split => (run done left split).2, fun done e left tag attrs split tagged => ?_,
    fun done first later left split => ?_⟩
  · have same := (run done left split).1.same
    exact ⟨same.shows.tree? same.linked (same.has_of_mem (List.mem_of_mem_head? same.root)),
      same.kinds⟩
  · obtain ⟨as, values, gains⟩ := (performs done e left split).element tagged
    have kept := (run (done ++ [e]) left (by simp [split])).2
    have here : (start.takeAll (done ++ [e])).store.Has (start.takeAll done).store.cells.size :=
      (Nat.lt_succ_self _).trans_eq gains.size.symm
    have kind := congrArg Cell.kind gains.made
    refine ⟨as, values, ?_, fun empty => ?_⟩
    · exact (kept.kind_eq here (by rw [Store.kind, kind]; rfl)).trans kind
    · -- The element was never opened, and stays as it was made.
      have opened := performs done e left split
      subst empty
      refine (kept.closed _ here fun mem => ?_).2.trans (congrArg Cell.children gains.made)
      rw [opened.2] at mem
      exact Nat.lt_irrefl _ ((run done _ split).1.same.has_of_mem mem)
  · have same := (run done _ split).1.same
    rw [split, takeAll_append, takeAll_append]
    change ((start.takeAll done).addText first |>.addText later).takeAll left = _
    rw [addText_addText same]
    rfl

/-- A paragraph with an attribute that is given twice, a void element, an element that is never
closed, a stray end tag and an empty tag. -/
def sampleEvents : List Event :=
  [.startTag "p" [("id", some "a"), ("id", none)], .data "x", .startTag "br" [], .startTag "b" [],
    .endTag "i", .data "y", .emptyTag "i" [], .endTag "p", .data "z"]

theorem built_sampleEvents :
    (∀ text, .data text ∈ sampleEvents → text ≠ "") ∧ Built sampleEvents := by
  have spoken : ∀ text, .data text ∈ sampleEvents → text ≠ "" := by
    simp [sampleEvents]
  exact ⟨spoken, built_of_spoken spoken⟩

end LinkedBuilder

end HtmlTemplate.Markup
