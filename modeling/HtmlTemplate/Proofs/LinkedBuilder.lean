import HtmlTemplate.Markup.Builder
import HtmlTemplate.Proofs.Bindings
import HtmlTemplate.Proofs.OwnNodes

/-!
# Building among linked nodes

A `LinkedBuilder` takes the events that a `Builder` takes, but makes its tree of linked nodes. The
nodes that are open are listed apart from the tree, the root first. A new node becomes the last
child of the innermost of them, and an end tag is looked for from the innermost one outwards. One
event adds a node, puts more text to the last one, closes some of the open nodes or does nothing
(`advances_take`).
-/

namespace HtmlTemplate.Markup

open Store

/-- The kind of a text. -/
def NodeKind.isText : NodeKind → Bool
  | .text _ => true
  | _ => false

/-- Makes a new node the last child of another one. -/
def Store.addLast (s : Store) (p : Nat) (k : NodeKind) : Store :=
  (s.new k).2.appendChild p (s.new k).1

/-- Makes a node a text with the given data. -/
def Store.setText (s : Store) (n : Nat) (data : String) : Store :=
  s.modify n fun c => { c with kind := .text data }

/-- A tree under construction among linked nodes. -/
structure LinkedBuilder where
  store : Store
  /-- The nodes that are open, the root first. -/
  opened : List Nat

namespace LinkedBuilder

/-! ### Events -/

/-- An open root without children. -/
def start : LinkedBuilder := ⟨(({} : Store).new .fragment).2, [0]⟩

/-- The innermost open node. -/
def current (b : LinkedBuilder) : Nat := b.opened.getLastD 0

/-- Adds a new node to the innermost open one. -/
def add (b : LinkedBuilder) (k : NodeKind) : LinkedBuilder :=
  { b with store := b.store.addLast b.current k }

/-- Adds a new node to the innermost open one and opens it. -/
def addOpen (b : LinkedBuilder) (k : NodeKind) : LinkedBuilder :=
  { b.add k with opened := b.opened ++ [b.store.cells.size] }

/-- Adds text, putting it to the last child of the innermost open node when that is a text. -/
def addText (b : LinkedBuilder) (data : String) : LinkedBuilder :=
  match (b.store.children b.current).getLast? with
  | none => b.add (.text data)
  | some n =>
    match b.store.kind n with
    | .text before => { b with store := (setData n (before ++ data) b.store).2 }
    | _ => b.add (.text data)

/-- The place of the innermost open element with a tag among the first `depth` after the root. -/
def place? (b : LinkedBuilder) (tag : String) : Nat → Option Nat
  | 0 => none
  | depth + 1 =>
    if (b.store.kind (b.opened.getD (depth + 1) 0)).tag? = some tag then some (depth + 1)
    else place? b tag depth

/-- Closes the innermost open element with a tag and everything inside it. -/
def close (b : LinkedBuilder) (tag : String) : LinkedBuilder :=
  match b.place? tag (b.opened.length - 1) with
  | some depth => { b with opened := b.opened.take depth }
  | none => b

/-- Takes an event. -/
def take (b : LinkedBuilder) : Event → LinkedBuilder
  | .startTag tag attrs =>
    if isVoid tag then b.add (.element tag (Builder.attrsOf attrs))
    else b.addOpen (.element tag (Builder.attrsOf attrs))
  | .emptyTag tag attrs => b.add (.element tag (Builder.attrsOf attrs))
  | .endTag tag => b.close tag
  | .data text => b.addText text
  | .comment text => b.add (.comment text)
  | .declaration text => b.add (.directive ("!" ++ text))
  | .instruction text => b.add (.directive ("?" ++ text))
  | .markedSection text => b.add (.directive ("![" ++ text ++ "]]"))

/-- Takes events in order. -/
def takeAll (b : LinkedBuilder) (events : List Event) : LinkedBuilder := events.foldl take b

theorem takeAll_append (b : LinkedBuilder) (es es' : List Event) :
    b.takeAll (es ++ es') = (b.takeAll es).takeAll es' :=
  List.foldl_append

end LinkedBuilder

/-! ### A new last child -/

namespace Store

section AddLast

variable (s : Store) (k : NodeKind) {p : Nat} (m : Nat)

theorem addLast_eq (p : Nat) : s.addLast p k =
    (s.new k).2.attachAt p (s.children p).length s.cells.size := by
  have free : (s.new k).2.parent? s.cells.size = none := by
    rw [parent?_new, parent?, cell_of_not_has (Nat.lt_irrefl _)]
  rw [addLast, new_fst, appendChild, detach_of_parent?_eq_none free, children_new]

@[simp]
theorem size_addLast (p : Nat) : (s.addLast p k).cells.size = s.cells.size + 1 := by
  rw [addLast_eq, size_attachAt, size_new]

theorem has_addLast (p : Nat) : (s.addLast p k).Has m ↔ s.Has m ∨ m = s.cells.size := by
  rw [addLast_eq, has_attachAt, has_new]

theorem kind_addLast (p : Nat) :
    (s.addLast p k).kind m = if m = s.cells.size then k else s.kind m := by
  rw [addLast_eq, kind_attachAt, kind_new]

theorem parent?_addLast (p : Nat) :
    (s.addLast p k).parent? m = if m = s.cells.size then some p else s.parent? m := by
  rw [addLast_eq, parent?_attachAt ((has_new s k _).2 (.inr rfl)), parent?_new]

theorem children_addLast (hp : s.Has p) :
    (s.addLast p k).children m =
      if m = p then s.children p ++ [s.cells.size] else s.children m := by
  rw [addLast_eq, children_attachAt ((has_new s k _).2 (.inl hp)), children_new, children_new]
  simp

theorem children_addLast_size (hp : s.Has p) : (s.addLast p k).children s.cells.size = [] := by
  rw [children_addLast _ _ _ hp, if_neg (Nat.ne_of_gt hp), children_size]

end AddLast

variable {s : Store} {p : Nat}

/-- A new last child keeps the links. -/
theorem WellLinked.addLast (linked : WellLinked s) (hp : s.Has p) (k : NodeKind) :
    WellLinked (s.addLast p k) := by
  have root := loaded_new linked k
  have apart : ¬ (s.new k).2.Below p s.cells.size := fun below =>
    root.fresh (root.grown.has_of_below linked hp below)
  rw [addLast_eq]
  exact root.wellLinked.attachAt root.has (root.grown.has hp) root.top apart _

/-! ### Other data of a text -/

section SetText

variable (s : Store) (n m : Nat) (data : String)

theorem setData_of_text {before : String} (text : s.kind n = .text before) :
    (setData n data s).2 = s.setText n data := by
  simp [setData, text, setText]

@[simp]
theorem size_setText : (s.setText n data).cells.size = s.cells.size := by
  simp [setText, modify]

@[simp]
theorem parent?_setText : (s.setText n data).parent? m = s.parent? m := by
  simp only [parent?, setText, cell_modify]
  split <;> simp_all

@[simp]
theorem children_setText : (s.setText n data).children m = s.children m := by
  simp only [children, setText, cell_modify]
  split <;> simp_all

theorem kind_setText {n : Nat} (here : s.Has n) :
    (s.setText n data).kind m = if m = n then .text data else s.kind m := by
  simp only [kind, setText, cell_modify]
  split <;> simp_all

end SetText

theorem WellLinked.setText (linked : WellLinked s) (n : Nat) (data : String) :
    WellLinked (s.setText n data) := linked.setKind n _

/-- Stores with the same cells are the same. -/
theorem ext_cell {s s' : Store} (size : s'.cells.size = s.cells.size)
    (cells : ∀ n, s'.cell n = s.cell n) : s' = s := by
  obtain ⟨cs⟩ := s
  obtain ⟨cs'⟩ := s'
  refine congrArg Store.mk (Array.ext size fun n hn' hn => ?_)
  have := cells n
  simpa [cell, hn, hn'] using this

theorem setText_setText (s : Store) {n : Nat} (here : s.Has n) (data data' : String) :
    (s.setText n data).setText n data' = s.setText n data' := by
  have here' : (s.setText n data).Has n := by rwa [Has, size_setText]
  refine ext_cell (by simp) fun m => cell_eq ?_ (by simp) (by simp)
  rw [kind_setText _ _ _ here', kind_setText _ _ _ here, kind_setText _ _ _ here]
  split_ifs <;> rfl

/-- A new text that gets other data is as if it had been made with them. -/
theorem setText_addLast (s : Store) {p : Nat} (hp : s.Has p) (data data' : String) :
    (s.addLast p (.text data)).setText s.cells.size data' = s.addLast p (.text data') := by
  have here : (s.addLast p (.text data)).Has s.cells.size := (has_addLast _ _ _ p).2 (.inr rfl)
  refine ext_cell (by simp) fun m => cell_eq ?_ ?_ ?_
  · rw [kind_setText _ _ _ here, kind_addLast, kind_addLast]
    split_ifs <;> rfl
  · rw [parent?_setText, parent?_addLast, parent?_addLast]
  · rw [children_setText, children_addLast _ _ _ hp, children_addLast _ _ _ hp]

end Store

/-! ### What an event does -/

/-- Attributes have every name once, with the first value that is reported for it. -/
structure FirstValues (reported : List (String × Option String)) (attrs : Attrs) : Prop where
  distinct : attrs.names.Nodup
  first : ∀ name, Bindings.get? attrs name = (reported.lookup name).map (·.getD "")

theorem firstValues_attrsOf (reported : List (String × Option String)) :
    FirstValues reported (Builder.attrsOf reported) := by
  refine ⟨Bindings.nodup_names_foldl_putNew _ _ reported List.nodup_nil, fun name => ?_⟩
  rw [Builder.attrsOf, Bindings.get?_foldl_putNew]
  induction reported with
  | nil => rfl
  | cons a reported ih =>
    obtain ⟨n, value⟩ := a
    simp only [Bindings.get?, List.lookup_nil, Option.none_or, List.map_cons,
      List.lookup_cons] at ih ⊢
    split <;> simp_all

namespace LinkedBuilder

variable (b : LinkedBuilder)

section AddText

variable {b} {n : Nat} (data : String)

theorem addText_of_text {before : String}
    (last : (b.store.children b.current).getLast? = some n) (text : b.store.kind n = .text before) :
    b.addText data = { b with store := b.store.setText n (before ++ data) } := by
  unfold addText
  simp only [last, text, setData_of_text b.store n (before ++ data) text]

theorem addText_of_apart (apart : ∀ n, (b.store.children b.current).getLast? = some n →
    (b.store.kind n).isText = false) : b.addText data = b.add (.text data) := by
  unfold addText
  cases last : (b.store.children b.current).getLast? with
  | none => rfl
  | some n =>
    have other := apart n last
    cases kind : b.store.kind n with
    | text before =>
      rw [kind] at other
      cases other
    | _ => simp only [kind]

variable (b)

/-- Text is put to the last child when that is a text and is a node of its own otherwise. -/
theorem addText_cases :
    (∃ n before, (b.store.children b.current).getLast? = some n ∧
        b.store.kind n = .text before ∧
        b.addText data = { b with store := b.store.setText n (before ++ data) }) ∨
      (∀ n, (b.store.children b.current).getLast? = some n → (b.store.kind n).isText = false) ∧
        b.addText data = b.add (.text data) := by
  by_cases apart : ∀ n, (b.store.children b.current).getLast? = some n →
      (b.store.kind n).isText = false
  · exact .inr ⟨apart, addText_of_apart data apart⟩
  · push Not at apart
    obtain ⟨n, last, isText⟩ := apart
    obtain ⟨before, text⟩ : ∃ before, b.store.kind n = .text before := by
      cases kind : b.store.kind n with
      | text before => exact ⟨before, rfl⟩
      | _ =>
        rw [kind] at isText
        exact absurd rfl isText
    exact .inl ⟨n, before, last, text, addText_of_text data last text⟩

end AddText

/-- The search for an end tag finds the innermost open node with the tag, the root aside. -/
theorem place?_spec (tag : String) {depth : Nat} (inside : depth < b.opened.length) :
    match b.place? tag depth with
    | some d => 0 < d ∧ (∃ n, b.opened[d]? = some n ∧ (b.store.kind n).tag? = some tag) ∧
        ∀ i m, d < i → i ≤ depth → b.opened[i]? = some m → (b.store.kind m).tag? ≠ some tag
    | none => ∀ i m, 0 < i → i ≤ depth → b.opened[i]? = some m →
        (b.store.kind m).tag? ≠ some tag := by
  induction depth with
  | zero =>
    rw [place?]
    intro i m hi hi'
    omega
  | succ depth ih =>
    have ih := ih (Nat.lt_of_succ_lt inside)
    obtain ⟨n, here⟩ : ∃ n, b.opened[depth + 1]? = some n := ⟨_, List.getElem?_eq_getElem inside⟩
    have step {i m : Nat} (other : (b.store.kind n).tag? ≠ some tag) (hi : i ≤ depth + 1)
        (hm : b.opened[i]? = some m) (before : i ≤ depth → (b.store.kind m).tag? ≠ some tag) :
        (b.store.kind m).tag? ≠ some tag := by
      rcases Nat.le_succ_iff.1 hi with hi | rfl
      · exact before hi
      · rwa [← Option.some.inj (here.symm.trans hm)]
    rw [place?, List.getD_eq_getElem?_getD, here, Option.getD_some]
    split_ifs with found
    · exact ⟨Nat.succ_pos _, ⟨n, here, found⟩, fun i m hi hi' => absurd hi (by omega)⟩
    · cases place : b.place? tag depth with
      | none =>
        rw [place] at ih
        exact fun i m hi hi' hm => step found hi' hm fun hi' => ih i m hi hi' hm
      | some d =>
        rw [place] at ih
        obtain ⟨pos, first, later⟩ := ih
        exact ⟨pos, first, fun i m hi hi' hm => step found hi' hm fun hi' => later i m hi hi' hm⟩

/-- An end tag closes the innermost open element of its name with all that is inside it; without
such an element it does nothing. -/
theorem close_cases (tag : String) :
    (∃ outer n inner, b.opened = outer ++ n :: inner ∧ outer ≠ [] ∧
        (b.store.kind n).tag? = some tag ∧ (∀ m ∈ inner, (b.store.kind m).tag? ≠ some tag) ∧
        b.close tag = { b with opened := outer }) ∨
      (∀ m ∈ b.opened.tail, (b.store.kind m).tag? ≠ some tag) ∧ b.close tag = b := by
  rcases Nat.eq_zero_or_pos b.opened.length with empty | pos
  · refine .inr ⟨by simp [List.length_eq_zero_iff.1 empty], ?_⟩
    simp [close, empty, place?]
  have spec := b.place?_spec tag (Nat.sub_one_lt_of_lt pos)
  unfold close
  cases place : b.place? tag (b.opened.length - 1) with
  | none =>
    rw [place] at spec
    refine .inr ⟨fun m hm => ?_, rfl⟩
    obtain ⟨i, hi⟩ := List.mem_iff_getElem?.1 hm
    rw [List.getElem?_tail] at hi
    have inside := (List.getElem?_eq_some_iff.1 hi).1
    exact spec (i + 1) m (Nat.succ_pos i) (by omega) hi
  | some d =>
    rw [place] at spec
    obtain ⟨pos, ⟨n, here, found⟩, later⟩ := spec
    obtain ⟨inside, rfl⟩ := List.getElem?_eq_some_iff.1 here
    refine .inl ⟨b.opened.take d, _, b.opened.drop (d + 1), ?_, ?_, found, fun m hm => ?_, rfl⟩
    · rw [← List.drop_eq_getElem_cons inside, List.take_append_drop]
    · rw [Ne, ← List.length_eq_zero_iff, List.length_take]
      omega
    · obtain ⟨i, hi⟩ := List.mem_iff_getElem?.1 hm
      rw [List.getElem?_drop] at hi
      have inside := (List.getElem?_eq_some_iff.1 hi).1
      exact later _ m (by omega) (by omega) hi

/-- What one event makes of a builder. -/
inductive Advances (b : LinkedBuilder) : LinkedBuilder → Prop
  | adds {k : NodeKind} (spoken : k ≠ .text "") (distinct : k.attrs.names.Nodup)
      (apart : k.isText = true → ∀ n, (b.store.children b.current).getLast? = some n →
        (b.store.kind n).isText = false) : Advances b (b.add k)
  | opens {tag : String} {attrs : Attrs} (filled : isVoid tag = false)
      (distinct : attrs.names.Nodup) : Advances b (b.addOpen (.element tag attrs))
  | joins {n : Nat} {before data : String} (nonempty : data ≠ "")
      (last : (b.store.children b.current).getLast? = some n)
      (text : b.store.kind n = .text before) :
      Advances b { b with store := b.store.setText n (before ++ data) }
  | closes {outer : List Nat} (part : outer <+: b.opened) (root : outer.head? = b.opened.head?) :
      Advances b { b with opened := outer }

/-- An event adds a node, opens one, puts more text to the last child or closes some nodes. -/
theorem advances_take {e : Event} (nonempty : e ≠ .data "") : Advances b (b.take e) := by
  have leaf {k : NodeKind} (other : k.isText = false) (distinct : k.attrs.names.Nodup) :
      Advances b (b.add k) :=
    .adds (by rintro rfl; cases other) distinct fun text => by rw [other] at text; cases text
  cases e with
  | startTag tag attrs =>
    have distinct := (firstValues_attrsOf attrs).distinct
    rw [take]
    split_ifs with void
    · exact leaf rfl distinct
    · exact .opens (Bool.eq_false_iff.2 void) distinct
  | emptyTag tag attrs => exact leaf rfl (firstValues_attrsOf attrs).distinct
  | endTag tag =>
    rw [take]
    rcases b.close_cases tag with ⟨outer, n, inner, opened, ne, -, -, closed⟩ | ⟨-, closed⟩
    · rw [closed]
      exact .closes ⟨_, opened.symm⟩ (by rw [opened, List.head?_append_of_ne_nil _ ne])
    · rw [closed]
      exact .closes List.prefix_rfl rfl
  | data text =>
    have spoken : text ≠ "" := fun same => nonempty (same ▸ rfl)
    rw [take]
    rcases b.addText_cases text with ⟨n, before, last, kind, told⟩ | ⟨apart, told⟩
    · rw [told]
      exact .joins spoken last kind
    · rw [told]
      exact .adds (fun same => spoken (NodeKind.text.inj same)) List.nodup_nil fun _ => apart
  | comment text => exact leaf rfl List.nodup_nil
  | declaration text => exact leaf rfl List.nodup_nil
  | instruction text => exact leaf rfl List.nodup_nil
  | markedSection text => exact leaf rfl List.nodup_nil

end LinkedBuilder

end HtmlTemplate.Markup
