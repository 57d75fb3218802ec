import HtmlTemplate.Proofs.SecondLayout

/-!
# Content that is glued together

A path tells a node other than a text by the number of such nodes before it at each level
(`Placed`). Layout keeps these nodes in their places and puts texts between them. Where the content
of an element stays on its line, a text still sticks to the node beside it with the same character;
where nodes come on lines of their own, no text sticks to a node any more (`format_glued`).
-/

namespace HtmlTemplate.Markup

open HtmlTemplate.Text Node

/-! ### Places -/

/-- The number of nodes other than texts. -/
def rank (ns : List Node) : Nat := ns.countP (!isText ·)

/-- A forest is a node other than a text, with `k` such nodes before it, and its siblings. -/
structure Splits (k : Nat) (forest before : List Node) (n : Node) (after : List Node) : Prop where
  split : forest = before ++ n :: after
  noText : isText n = false
  rank : rank before = k

/-- The node at a path and its siblings, where no element on the path is verbatim. -/
inductive Placed : List Nat → List Node → List Node → Node → List Node → Prop
  | here {k forest before n after} (h : Splits k forest before n after) :
    Placed [k] forest before n after
  | inside {k forest befores tag attrs cs afters path before n after}
    (h : Splits k forest befores (.element tag attrs cs) afters) (loose : isVerbatim tag = false)
    (h' : Placed path cs before n after) : Placed (k :: path) forest before n after

@[simp]
theorem rank_append (ms ns : List Node) : rank (ms ++ ns) = rank ms + rank ns := List.countP_append

@[simp]
theorem rank_reverse (ns : List Node) : rank ns.reverse = rank ns := List.countP_reverse

theorem rank_cons (n : Node) (ns : List Node) :
    rank (n :: ns) = (if isText n then 0 else 1) + rank ns := by
  rw [rank, List.countP_cons, Nat.add_comm]
  cases isText n <;> rfl

theorem Splits.unique {k : Nat} {forest before before' after after' : List Node} {n n' : Node}
    (h : Splits k forest before n after) (h' : Splits k forest before' n' after') :
    before = before' ∧ n = n' ∧ after = after' := by
  obtain ⟨rfl, noText, hrank⟩ := h
  obtain ⟨same, noText', rfl⟩ := h'
  rcases List.append_eq_append_iff.1 same with ⟨between, rfl, tail⟩ | ⟨between, rfl, tail⟩
  · cases between with
    | nil => simpa using tail
    | cons m between =>
      obtain ⟨rfl, -⟩ := List.cons.inj tail
      simp [rank_cons, noText] at hrank
  · cases between with
    | nil => simpa [eq_comm] using tail
    | cons m between =>
      obtain ⟨rfl, -⟩ := List.cons.inj tail
      simp [rank_cons, noText'] at hrank

/-- At a path there is one node at most. -/
theorem Placed.unique {path : List Nat} {forest before before' after after' : List Node}
    {n n' : Node} (h : Placed path forest before n after)
    (h' : Placed path forest before' n' after') : before = before' ∧ n = n' ∧ after = after' := by
  induction h generalizing before' n' after' with
  | here h =>
    cases h' with
    | here h' => exact h.unique h'
    | inside _ _ h' => cases h'
  | inside h loose inner ih =>
    cases h' with
    | here h' => cases inner
    | inside h' loose' inner' =>
      obtain ⟨-, same, -⟩ := h.unique h'
      obtain ⟨rfl, rfl, rfl⟩ := Node.element.inj same
      exact ih inner'

theorem Splits.not_nil {k : Nat} {before after : List Node} {n : Node} :
    ¬ Splits k [] before n after := fun h => by simpa using h.split

theorem Placed.not_nil {path : List Nat} {before after : List Node} {n : Node} :
    ¬ Placed path [] before n after := by
  rintro (h | ⟨h, _, _⟩)
  · exact h.not_nil
  · exact h.not_nil

theorem Placed.allInline {path : List Nat} {forest before after : List Node} {n : Node}
    (h : Placed path forest before n after) (inline : allInline forest = true) :
    Markup.allInline (before ++ n :: after) = true := by
  induction h with
  | here h => exact h.split ▸ inline
  | inside h loose inner ih =>
    refine ih ?_
    rw [h.split, allInline_eq_all, List.all_append, List.all_cons, isInlineNode] at inline
    simp only [Bool.and_eq_true] at inline
    exact inline.2.1.2

/-! ### Characters beside a node -/

/-- The character of a text that `pick` takes; other nodes have none. -/
def touch (pick : List Char → Option Char) : Option Node → Option Char
  | some (.text data) => pick data.toList
  | _ => none

/-- The last character of the text that a forest ends with, if any. -/
def lastChar (ns : List Node) : Option Char := touch List.getLast? ns.getLast?

/-- The first character of the text that a forest starts with, if any. -/
def firstChar (ns : List Node) : Option Char := touch List.head? ns.head?

/-- A character that sticks to what is beside it: there is one, and it is not a blank. -/
def sticks (c : Option Char) : Bool := c.any (!isBlank ·)

/-- A character that sticks stays. -/
def Keeps (c c' : Option Char) : Prop := sticks c = true → c' = c

theorem Keeps.trans {c c' c'' : Option Char} (h : Keeps c c') (h' : Keeps c' c'') :
    Keeps c c'' := by
  intro glued
  obtain rfl := h glued
  exact h' glued

theorem sticks_iff {c : Option Char} : sticks c = true ↔ ∃ x, c = some x ∧ isBlank x = false := by
  cases c <;> simp [sticks]

/-- A way to take a character of a text: the one at an end. -/
structure Taking (pick : List Char → Option Char) : Prop where
  mem : ∀ {cs c}, pick cs = some c → c ∈ cs
  some_ : ∀ {cs}, cs ≠ [] → ∃ c, pick cs = some c
  filter : ∀ {cs}, sticks (pick cs) = true → pick (cs.filter (!isBlank ·)) = pick cs
  collapse : ∀ {data}, isBlankText data = false →
    (pick (collapse data).toList).any isBlank = (pick data.toList).any isBlank

theorem taking_head : Taking List.head? where
  mem h := List.mem_of_head? h
  some_ h := ⟨_, List.head?_eq_some_head h⟩
  filter {cs} h := by
    obtain ⟨c, first, visible⟩ := sticks_iff.1 h
    obtain ⟨rest, rfl⟩ := List.head?_eq_some_iff.1 first
    simp [visible]
  collapse visible := by rw [collapse_of_visible visible]; exact head_framed visible _ _

theorem taking_getLast : Taking List.getLast? where
  mem h := List.mem_of_getLast? h
  some_ h := ⟨_, List.getLast?_eq_some_getLast h⟩
  filter {cs} h := by
    obtain ⟨c, last, visible⟩ := sticks_iff.1 h
    obtain ⟨rest, rfl⟩ := List.getLast?_eq_some_iff.1 last
    simp [visible]
  collapse visible := by rw [collapse_of_visible visible]; exact last_framed visible _ _

section Taking

variable {pick : List Char → Option Char} (taking : Taking pick)
include taking

theorem isBlankText_of_sticks {data : String} (h : sticks (pick data.toList) = true) :
    isBlankText data = false := by
  obtain ⟨c, taken, visible⟩ := sticks_iff.1 h
  rw [isBlankText, ← Bool.not_eq_true, List.all_eq_true]
  intro blank
  rw [blank c (taking.mem taken)] at visible
  cases visible

theorem keeps_collapse (data : String) :
    Keeps (pick data.toList) (pick (collapse data).toList) := by
  intro glued
  have visible := isBlankText_of_sticks taking glued
  obtain ⟨c, taken, hc⟩ := sticks_iff.1 glued
  have glued' : sticks (pick (collapse data).toList) = true := by
    have nonempty : collapse data ≠ "" := by
      intro empty
      have visible' : isBlankText (collapse data) = false := by
        rw [collapse_of_visible visible]
        exact isBlankText_framed visible _ _
      rw [empty] at visible'
      cases visible'
    obtain ⟨d, taken'⟩ := taking.some_ fun none => nonempty (String.toList_eq_nil_iff.1 none)
    have same := taking.collapse visible
    rw [taken, taken'] at same
    exact sticks_iff.2 ⟨d, taken', by simpa [hc] using same⟩
  rw [← taking.filter glued, ← taking.filter glued', ← toList_without, ← toList_without,
    without_collapse]

/-! ### Characters at the end of a forest -/

omit taking in
theorem exists_concat_of_sticks {ns : List Node} (h : sticks (touch pick ns.getLast?) = true) :
    ∃ before data, ns = before ++ [.text data] ∧ sticks (pick data.toList) = true := by
  cases last : ns.getLast? with
  | none => simp [last, touch, sticks] at h
  | some n =>
    obtain ⟨before, rfl⟩ := List.getLast?_eq_some_iff.1 last
    cases n with
    | text data => exact ⟨before, data, rfl, by simpa [touch] using h⟩
    | _ => simp [touch, sticks] at h

theorem keeps_inlinedAll (ns : List Node) :
    Keeps (touch pick ns.getLast?) (touch pick (inlinedAll ns).getLast?) := by
  intro glued
  obtain ⟨before, data, rfl, glued'⟩ := exists_concat_of_sticks glued
  simpa [inlinedAll_eq_map, inlined, touch] using keeps_collapse taking data glued'

theorem keeps_erasedAll (ns : List Node) :
    Keeps (touch pick ns.getLast?) (touch pick (erasedAll nothing ns).getLast?) := by
  intro glued
  obtain ⟨before, data, rfl, glued'⟩ := exists_concat_of_sticks glued
  have nonempty : data ≠ "" := by
    rintro rfl
    have visible := isBlankText_of_sticks taking glued'
    cases visible
  simp [erasedAll_append, erasedAll, erased, textNode, nonempty]

theorem keeps_trimFront {cut : String → String}
    (hcut : ∀ data, Keeps (pick data.toList) (pick (cut data).toList)) (ns : List Node) :
    Keeps (touch pick ns.getLast?) (touch pick (trimFront cut ns).getLast?) := by
  intro glued
  fun_induction trimFront cut ns with
  | case1 data ns blank ih =>
    cases ns with
    | nil =>
      have visible := isBlankText_of_sticks taking (by simpa [touch] using glued)
      rw [blank] at visible
      cases visible
    | cons n ns => simpa using ih (by simpa using glued)
  | case2 data ns _ =>
    cases ns with
    | nil => simpa [touch] using hcut data (by simpa [touch] using glued)
    | cons n ns => simp
  | case3 ns _ => rfl

end Taking

theorem keeps_cutStart (data : String) :
    Keeps data.toList.getLast? (cutStart data).toList.getLast? := by
  intro glued
  obtain ⟨c, last, visible⟩ := sticks_iff.1 glued
  obtain ⟨rest, split⟩ := List.getLast?_eq_some_iff.1 last
  rw [cutStart, String.toList_ofList, split, List.dropWhile_append]
  split <;> simp [visible]

theorem keeps_cutEnd (data : String) : Keeps data.toList.head? (cutEnd data).toList.head? := by
  intro glued
  obtain ⟨c, first, visible⟩ := sticks_iff.1 glued
  obtain ⟨rest, split⟩ := List.head?_eq_some_iff.1 first
  rw [cutEnd, String.toList_ofList, dropEndWhile, List.head?_reverse, split, List.reverse_cons,
    List.dropWhile_append]
  split <;> simp [visible]

/-! ### Content on a line -/

theorem rank_inlinedAll (ns : List Node) : rank (inlinedAll ns) = rank ns := by
  induction ns with
  | nil => rfl
  | cons n ns ih => rw [inlinedAll, rank_cons, rank_cons, isText_inlined, ih]

theorem rank_erasedAll (p : Char → Bool) (ns : List Node) : rank (erasedAll p ns) = rank ns := by
  induction ns with
  | nil => rfl
  | cons n ns ih =>
    rw [erasedAll, rank_append, rank_cons, ih]
    cases text : isText n with
    | true =>
      obtain ⟨data, rfl⟩ := exists_eq_text text
      rw [erased, textNode]
      split <;> rfl
    | false =>
      obtain ⟨m, stays, noText⟩ := exists_erased p text
      simp [stays, rank, noText]

theorem rank_trimFront (cut : String → String) (ns : List Node) :
    rank (trimFront cut ns) = rank ns := by
  fun_induction trimFront cut ns with
  | case1 data ns _ ih => rw [ih, rank_cons, isText, if_pos rfl, Nat.zero_add]
  | case2 data ns _ => rfl
  | case3 ns _ => rfl

theorem trimFront_append (cut : String → String) {n : Node} (noText : isText n = false)
    (before after : List Node) :
    trimFront cut (before ++ n :: after) = trimFront cut before ++ n :: after := by
  fun_induction trimFront cut before with
  | case1 data before blank ih => rw [List.cons_append, trimFront, if_pos blank, ih]
  | case2 data before visible => rw [List.cons_append, trimFront, if_neg visible]; rfl
  | case3 before other =>
    cases before with
    | nil => cases n <;> first | rfl | cases noText
    | cons m before =>
      cases m with
      | text data => exact absurd rfl (other data before)
      | _ => rfl

/-- A node as it is read on its line. -/
def shownNode : Node → Node
  | .element tag attrs cs => .element tag attrs (erasedAll nothing (inlinedAll cs))
  | .fragment cs => .fragment (erasedAll nothing cs)
  | n => n

theorem erased_inlined {n : Node} (noText : isText n = false) :
    erased nothing (inlined n) = some (shownNode n) := by
  cases n with
  | text data => cases noText
  | element tag attrs cs => rw [inlined, erased, erasedIn_nothing, shownNode]
  | _ => rfl

theorem isText_shownNode {n : Node} (noText : isText n = false) : isText (shownNode n) = false := by
  cases n <;> first | rfl | exact noText

theorem tag?_shownNode (n : Node) : (shownNode n).tag? = n.tag? := by cases n <;> rfl

theorem attrs_shownNode (n : Node) : (shownNode n).attrs = n.attrs := by cases n <;> rfl

/-- What becomes of a character that sticks: it stays when it is kept, and otherwise none sticks. -/
def StaysGlued (kept : Bool) (c c' : Option Char) : Prop :=
  sticks c = true → sticks c' = kept ∧ (kept = true → c' = c)

theorem Keeps.staysGlued {c c' : Option Char} (h : Keeps c c') : StaysGlued true c c' := by
  intro glued
  obtain rfl := h glued
  exact ⟨glued, fun _ => rfl⟩

theorem staysGlued_of_not_sticks {c' : Option Char} (h : sticks c' = false) (c : Option Char) :
    StaysGlued false c c' := fun _ => ⟨h, nofun⟩

/-- A forest has at a path a node like the given one, and the texts beside that stick to it as
before when this is kept, and no more otherwise. -/
def Reappears (kept : Bool) (path : List Nat) (forest before : List Node) (n : Node)
    (after : List Node) : Prop :=
  ∃ before' n' after', Placed path forest before' n' after' ∧ n'.tag? = n.tag? ∧
    n'.attrs = n.attrs ∧ StaysGlued kept (lastChar before) (lastChar before') ∧
      StaysGlued kept (firstChar after) (firstChar after')

theorem firstChar_eq (ns : List Node) : firstChar ns = touch List.head? ns.reverse.getLast? := by
  rw [firstChar, List.getLast?_reverse]

theorem Reappears.inside {kept : Bool} {k : Nat} {path : List Nat} {tag : String} {attrs : Attrs}
    {forest befores cs afters before after : List Node} {n : Node}
    (h : Splits k forest befores (.element tag attrs cs) afters) (loose : isVerbatim tag = false)
    (inner : Reappears kept path cs before n after) :
    Reappears kept (k :: path) forest before n after := by
  obtain ⟨before', n', after', placed, rest⟩ := inner
  exact ⟨before', n', after', .inside h loose placed, rest⟩

section Splits

variable {k : Nat} {forest before after : List Node} {n : Node}
  (h : Splits k forest before n after)
include h

theorem Splits.inlined : Splits k (erasedAll nothing (inlinedAll forest))
    (erasedAll nothing (inlinedAll before)) (shownNode n)
    (erasedAll nothing (inlinedAll after)) := by
  obtain ⟨rfl, noText, rfl⟩ := h
  refine ⟨?_, isText_shownNode noText, by rw [rank_erasedAll, rank_inlinedAll]⟩
  rw [inlinedAll_append, inlinedAll, erasedAll_append, erasedAll, erased_inlined noText]
  rfl

theorem Splits.onLine : Splits k (onLine forest)
    (erasedAll nothing (trimFront cutStart (inlinedAll before))) (shownNode n)
    (erasedAll nothing (trimFront cutEnd (inlinedAll after).reverse).reverse) := by
  obtain ⟨rfl, noText, rfl⟩ := h
  have noText' : isText (Markup.inlined n) = false := by rw [isText_inlined, noText]
  refine ⟨?_, isText_shownNode noText, by rw [rank_erasedAll, rank_trimFront, rank_inlinedAll]⟩
  rw [Markup.onLine, inlinedAll_append, inlinedAll, trimmed, trimFront_append _ noText',
    List.reverse_append, List.reverse_cons, List.append_assoc, List.singleton_append,
    trimFront_append _ noText', List.reverse_append, List.reverse_cons, List.reverse_reverse,
    List.append_assoc, List.singleton_append, erasedAll_append, erasedAll, erased_inlined noText]
  rfl

end Splits

theorem keeps_last_inlined (ns : List Node) :
    Keeps (lastChar ns) (lastChar (erasedAll nothing (inlinedAll ns))) :=
  (keeps_inlinedAll taking_getLast ns).trans (keeps_erasedAll taking_getLast _)

theorem keeps_first_inlined (ns : List Node) :
    Keeps (firstChar ns) (firstChar (erasedAll nothing (inlinedAll ns))) := by
  rw [firstChar_eq, firstChar_eq, ← erasedAll_reverse, ← inlinedAll_reverse]
  exact (keeps_inlinedAll taking_head _).trans (keeps_erasedAll taking_head _)

theorem keeps_last_trimmed (ns : List Node) :
    Keeps (lastChar ns) (lastChar (erasedAll nothing (trimFront cutStart (inlinedAll ns)))) :=
  ((keeps_inlinedAll taking_getLast ns).trans
    (keeps_trimFront taking_getLast keeps_cutStart _)).trans (keeps_erasedAll taking_getLast _)

theorem keeps_first_trimmed (ns : List Node) : Keeps (firstChar ns)
    (firstChar (erasedAll nothing (trimFront cutEnd (inlinedAll ns).reverse).reverse)) := by
  rw [firstChar_eq, firstChar_eq, ← erasedAll_reverse, List.reverse_reverse, ← inlinedAll_reverse]
  exact ((keeps_inlinedAll taking_head _).trans
    (keeps_trimFront taking_head keeps_cutEnd _)).trans (keeps_erasedAll taking_head _)

section OnLine

variable {path : List Nat} {forest before after : List Node} {n : Node}

theorem Placed.inlined (h : Placed path forest before n after) :
    Reappears true path (erasedAll nothing (inlinedAll forest)) before n after := by
  induction h with
  | @here _ _ before n after h =>
    exact ⟨_, _, _, .here h.inlined, tag?_shownNode n, attrs_shownNode n,
      (keeps_last_inlined before).staysGlued, (keeps_first_inlined after).staysGlued⟩
  | inside h loose _ ih => exact .inside h.inlined loose ih

/-- In content that stays on its line what is glued together stays so. -/
theorem Placed.onLine (h : Placed path forest before n after) :
    Reappears true path (onLine forest) before n after := by
  cases h with
  | here h =>
    exact ⟨_, _, _, .here h.onLine, tag?_shownNode n, attrs_shownNode n,
      (keeps_last_trimmed before).staysGlued, (keeps_first_trimmed after).staysGlued⟩
  | inside h loose inner => exact .inside h.onLine loose inner.inlined

end OnLine

/-! ### Nodes on lines of their own -/

theorem rank_joinData (before : List Node) (data : String) :
    rank (Builder.joinData before data) = rank before := by
  unfold Builder.joinData
  split
  · rfl
  · split
    · simp [rank_cons, isText]
    · simp [rank_cons, isText]

theorem joinData_text (last : String) (before : List Node) (data : String) :
    Builder.joinData (.text last :: before) data = .text (last ++ data) :: before := by
  unfold Builder.joinData
  split
  · rename_i empty
    rw [empty, String.append_empty]
  · rfl

/-- When texts are joined that end with a blank, what comes of them does. -/
theorem not_sticks_joinData {before : List Node} {data : String}
    (hdata : sticks data.toList.getLast? = false)
    (hbefore : sticks (touch List.getLast? before.head?) = false) :
    sticks (touch List.getLast? (Builder.joinData before data).head?) = false := by
  unfold Builder.joinData
  split
  · exact hbefore
  · rename_i nonempty
    split
    · have some_ : data.toList ≠ [] := fun none => nonempty (String.toList_eq_nil_iff.1 none)
      rw [List.head?_cons, touch, String.toList_append, List.getLast?_append_of_ne_nil _ some_]
      exact hdata
    · exact hdata

theorem not_sticks_of_isBlankText {data : String} (blank : isBlankText data = true) :
    sticks data.toList.getLast? = false := by
  rw [← Bool.not_eq_true]
  intro glued
  rw [isBlankText_of_sticks taking_getLast glued] at blank
  cases blank

/-- The line of a text is joined to what is there, and ends with a blank. -/
theorem exists_echoes_laid_text (depth : Nat) (data : String) : ∃ line : String,
    sticks line.toList.getLast? = false ∧
      ∀ before, echoes before (laid depth (.text data)) = Builder.joinData before line := by
  rw [laid]
  split
  · exact ⟨"", rfl, fun _ => rfl⟩
  · refine ⟨_, ?_, fun _ => rfl⟩
    rw [String.toList_append, List.getLast?_append_of_ne_nil _ (by decide)]
    exact not_sticks_of_isBlankText isBlankText_lineBreak

section Lines

variable (depth : Nat) {ns : List Node} (firm : Every Firm ns) (spread : Spread ns)
include firm spread

theorem rank_echoes_laidAll (before : List Node) :
    rank (echoes before (laidAll depth ns)) = rank before + rank ns := by
  induction ns generalizing before with
  | nil => rfl
  | cons n ns ih =>
    obtain ⟨first, rest⟩ := every_cons_iff.1 firm
    rw [laidAll, echoes_append, ih rest spread.tail, rank_cons]
    cases text : isText n with
    | true =>
      obtain ⟨data, rfl⟩ := exists_eq_text text
      obtain ⟨line, -, lines⟩ := exists_echoes_laid_text depth data
      rw [lines, rank_joinData, if_pos rfl, Nat.zero_add]
    | false =>
      have noText : isText (settled depth n) = false := by cases n <;> first | rfl | exact text
      rw [echoes_laid first spread.children text, rank_cons, rank_cons, rank_joinData, noText]
      simp only [isText, if_true, Bool.false_eq_true, if_false]
      omega

theorem not_sticks_echoes_laidAll {before : List Node}
    (h : sticks (touch List.getLast? before.head?) = false) :
    sticks (touch List.getLast? (echoes before (laidAll depth ns)).head?) = false := by
  induction ns generalizing before with
  | nil => exact h
  | cons n ns ih =>
    obtain ⟨first, rest⟩ := every_cons_iff.1 firm
    rw [laidAll, echoes_append]
    refine ih rest spread.tail ?_
    cases text : isText n with
    | true =>
      obtain ⟨data, rfl⟩ := exists_eq_text text
      obtain ⟨line, blank, lines⟩ := exists_echoes_laid_text depth data
      rw [lines]
      exact not_sticks_joinData blank h
    | false =>
      rw [echoes_laid first spread.children text]
      exact not_sticks_of_isBlankText isBlankText_lineBreak

/-- What comes behind a text only makes it longer. -/
theorem echoes_laidAll_text (last : String) (before : List Node) : ∃ data rest,
    echoes (.text last :: before) (laidAll depth ns) = rest ++ .text (last ++ data) :: before := by
  induction ns generalizing last before with
  | nil => exact ⟨"", [], by rw [String.append_empty]; rfl⟩
  | cons n ns ih =>
    obtain ⟨first, rest⟩ := every_cons_iff.1 firm
    rw [laidAll, echoes_append]
    cases text : isText n with
    | true =>
      obtain ⟨data, rfl⟩ := exists_eq_text text
      obtain ⟨line, -, lines⟩ := exists_echoes_laid_text depth data
      rw [lines, joinData_text]
      obtain ⟨data', later, read⟩ := ih rest spread.tail (last ++ line) before
      exact ⟨line ++ data', later, by rw [read, String.append_assoc]⟩
    | false =>
      rw [echoes_laid first spread.children text, joinData_text]
      obtain ⟨data', later, read⟩ := ih rest spread.tail "\n"
        (settled depth n :: .text (last ++ indentation depth) :: before)
      exact ⟨indentation depth, later ++ [.text ("\n" ++ data'), settled depth n], by simp [read]⟩

end Lines

theorem joinData_append_text (rest : List Node) (last : String) (before : List Node)
    (data : String) : ∃ data' rest', Builder.joinData (rest ++ .text last :: before) data =
      rest' ++ .text (last ++ data') :: before := by
  cases rest with
  | nil => exact ⟨data, [], joinData_text last before data⟩
  | cons n rest =>
    refine ⟨"", Builder.joinData (n :: rest) data, ?_⟩
    by_cases empty : data = ""
    · simp [Builder.joinData, empty]
    · cases n <;> simp [Builder.joinData, empty]

/-- What a forest at a depth is read as behind other nodes, with blanks after it. -/
def linesRead (depth : Nat) (before forest : List Node) (blanks : String) : List Node :=
  (Builder.joinData (echoes before (laidAll depth forest)) blanks).reverse

theorem laidAll_append (depth : Nat) (ms ns : List Node) :
    laidAll depth (ms ++ ns) = laidAll depth ms ++ laidAll depth ns := by
  induction ms with
  | nil => rfl
  | cons m ms ih => rw [List.cons_append, laidAll, laidAll, ih, List.append_assoc]

theorem Spread.of_append {ms ns : List Node} (h : Spread (ms ++ ns)) : Spread ms ∧ Spread ns := by
  obtain ⟨top, inside⟩ := h
  obtain ⟨first, rest⟩ := every_append_iff.1 inside
  exact ⟨⟨top.left_of_append, first⟩, ⟨top.right_of_append, rest⟩⟩

/-- A node on a line of its own is read in its place, with blanks beside it. -/
theorem Splits.lines {k depth : Nat} {ns before after start : List Node} {n : Node}
    (h : Splits k ns before n after) (firm : Every Firm ns) (spread : Spread ns)
    (bare : Markup.rank start = 0) (loose : sticks (touch List.getLast? start.head?) = false)
    (blanks : String) : ∃ before' after',
      Splits k (linesRead depth start ns blanks) before' (settled depth n) after' ∧
        sticks (lastChar before') = false ∧ sticks (firstChar after') = false := by
  obtain ⟨rfl, noText, rfl⟩ := h
  obtain ⟨firmBefore, firmRest⟩ := every_append_iff.1 firm
  obtain ⟨firmHere, firmAfter⟩ := every_cons_iff.1 firmRest
  obtain ⟨spreadBefore, spreadRest⟩ := spread.of_append
  let left := Builder.joinData (echoes start (laidAll depth before)) (indentation depth)
  obtain ⟨data, rest, behind⟩ := echoes_laidAll_text depth firmAfter spreadRest.tail "\n"
    (settled depth n :: left)
  obtain ⟨data', rest', whole⟩ := joinData_append_text rest ("\n" ++ data)
    (settled depth n :: left) blanks
  have read : linesRead depth start (before ++ n :: after) blanks =
      left.reverse ++ settled depth n :: (.text ("\n" ++ data ++ data') :: rest'.reverse) := by
    rw [linesRead, laidAll_append, echoes_append, laidAll, echoes_append,
      echoes_laid firmHere spreadRest.children noText, behind, whole]
    simp
  refine ⟨left.reverse, _, ⟨read, ?_, ?_⟩, ?_, ?_⟩
  · cases n <;> first | rfl | exact noText
  · rw [rank_reverse, rank_joinData, rank_echoes_laidAll depth firmBefore spreadBefore, bare,
      Nat.zero_add]
  · rw [lastChar, List.getLast?_reverse]
    exact not_sticks_joinData (not_sticks_of_isBlankText (isBlankText_indentation depth))
      (not_sticks_echoes_laidAll depth firmBefore spreadBefore loose)
  · rw [firstChar, List.head?_cons, touch, String.toList_append, String.toList_append,
      List.append_assoc, List.head?_append_of_ne_nil _ (by decide)]
    decide

/-- Whether content at a path stays on a line: it is inside an element, and all of it is inline. -/
def staysOnLine (path : List Nat) (content : List Node) : Bool :=
  decide (1 < path.length) && allInline content

theorem tag?_settled (depth : Nat) (n : Node) : (settled depth n).tag? = n.tag? := by
  cases n <;> rfl

theorem attrs_settled (depth : Nat) (n : Node) : (settled depth n).attrs = n.attrs := by
  cases n <;> rfl

theorem Placed.siblings {k : Nat} {forest before after : List Node} {n : Node}
    (h : Placed [k] forest before n after) : forest = before ++ n :: after := by
  cases h with
  | here h => exact h.split
  | inside _ _ h' => cases h'

/-- Where not all content of an element is inline, it does not stay on a line, and deeper down the
element makes no difference. -/
theorem Placed.staysOnLine_cons {path : List Nat} {forest before after : List Node} {n : Node}
    (h : Placed path forest before n after) (block : Markup.allInline forest = false) (k : Nat) :
    staysOnLine (k :: path) (before ++ n :: after) = staysOnLine path (before ++ n :: after) := by
  match path, h with
  | [j], h => simp [staysOnLine, ← h.siblings, block]
  | j :: i :: path, _ => simp [staysOnLine]

theorem Placed.ne_nil {path : List Nat} {forest before after : List Node} {n : Node}
    (h : Placed path forest before n after) : path ≠ [] := by
  cases h <;> exact List.cons_ne_nil _ _

/-- In content on lines of its own nothing sticks together, and deeper down what is in content that
stays on a line does. -/
theorem Placed.lines {path : List Nat} {forest before after : List Node} {n : Node}
    (h : Placed path forest before n after) : ∀ {depth : Nat} {start : List Node} (blanks : String),
      Every Firm forest → Spread forest → Markup.rank start = 0 →
        sticks (touch List.getLast? start.head?) = false →
          Reappears (staysOnLine path (before ++ n :: after)) path
            (linesRead depth start forest blanks) before n after := by
  induction h with
  | @here k forest before n after h =>
    intro depth start blanks firm spread bare loose
    obtain ⟨before', after', placed, noBefore, noAfter⟩ := h.lines firm spread bare loose blanks
    exact ⟨before', _, after', .here placed, tag?_settled depth n, attrs_settled depth n,
      staysGlued_of_not_sticks noBefore _, staysGlued_of_not_sticks noAfter _⟩
  | @inside k forest befores tag attrs cs afters path before n after h loose inner ih =>
    intro depth start blanks firm spread bare loose'
    obtain ⟨before', after', placed, -, -⟩ := h.lines firm spread bare loose' blanks
    refine .inside placed loose ?_
    have here : Node.element tag attrs cs ∈ forest := by simp [h.split]
    obtain ⟨head, firmInside⟩ := every_element_iff.1 (firm.of_mem here)
    have spreadInside : Spread cs := by
      rw [h.split] at spread
      exact spread.of_append.2.children
    rw [content]
    -- An element that is written in one piece has nothing inside; otherwise its content is either
    -- all on the line, or on lines of its own, as here.
    split_ifs with whole inline
    · obtain ⟨-, rfl⟩ : isVoid tag = true ∧ cs = [] := by simpa [loose] using whole
      exact absurd inner Placed.not_nil
    · rw [reread_trimmed inline firmInside spreadInside]
      have stays : staysOnLine (k :: path) (before ++ n :: after) = true := by
        have deep : 0 < path.length := List.length_pos_iff.2 inner.ne_nil
        simp [staysOnLine, inner.allInline inline, deep]
      rw [stays]
      exact inner.onLine
    · rw [echoes_lines, inner.staysOnLine_cons (Bool.eq_false_iff.2 inline)]
      exact ih (indentation depth) firmInside spreadInside rfl
        (not_sticks_of_isBlankText isBlankText_lineBreak)

/-! ### Formatted sources -/

/-- When no marked section opens in a source and each element has a tag that its end tag is read
with, each node but texts is found at its place in what the formatted source is read as. A text that
sticks to it does so there exactly when both are inside an element that stays on its line, and with
the same character then. -/
theorem format_glued {source : String} {t : List Node} (reads : parse source = .ok t)
    (closed : ¬ OpensSection source.toList) (ends : EndsItself t) :
    ∃ t', parse (format source).1 = .ok t' ∧ ∀ path before n after, Placed path t before n after →
      (∃ before' n' after', Placed path t' before' n' after') ∧
        ∀ before' n' after', Placed path t' before' n' after' →
          n'.tag? = n.tag? ∧ n'.attrs = n.attrs ∧
            StaysGlued (staysOnLine path (before ++ n :: after)) (lastChar before)
              (lastChar before') ∧
            StaysGlued (staysOnLine path (before ++ n :: after)) (firstChar after)
              (firstChar after') := by
  have firm := firm_of_parse reads closed ends
  refine ⟨_, parse_format reads firm, fun path before n after placed => ?_⟩
  have again : Reappears _ path (linesRead 0 [] t "") before n after :=
    placed.lines "" firm (spread_of_parse reads) rfl rfl
  obtain ⟨before', n', after', there, same⟩ := again
  refine ⟨⟨before', n', after', there⟩, fun before'' n'' after'' there' => ?_⟩
  obtain ⟨rfl, rfl, rfl⟩ := there.unique there'
  exact same

theorem format_glued_gluedSource : parse gluedSource = .ok [.element "div" [] gluedLines] ∧
    ¬ OpensSection gluedSource.toList ∧ EndsItself [.element "div" [] gluedLines] ∧
      ∃ t', parse (format gluedSource).1 = .ok t' ∧
        (∀ before n after, Placed [0, 0, 0] t' before n after →
          n.tag? = some "b" ∧ lastChar before = some 'n' ∧ firstChar after = some '!') ∧
        ∀ before n after, Placed [0, 1] t' before n after →
          n.tag? = some "i" ∧ sticks (lastChar before) = false := by
  have outer : Splits 0 [.element "div" [] gluedLines] [] (.element "div" [] gluedLines) [] :=
    ⟨rfl, rfl, rfl⟩
  have line : Splits 0 gluedLines [] gluedLine gluedLines.tail := ⟨rfl, rfl, rfl⟩
  have kept : Splits 0 gluedLine.children [.text "un"] (.element "b" [] [.text "glued"])
      [.text "!"] := ⟨rfl, rfl, rfl⟩
  have parted : Splits 1 gluedLines [gluedLine, .text "re"] (.element "i" [] [.text "cut"]) [] :=
    ⟨rfl, rfl, rfl⟩
  obtain ⟨t', again, keeps⟩ :=
    format_glued parse_gluedSource not_opensSection_gluedSource endsItself_gluedLines
  refine ⟨parse_gluedSource, not_opensSection_gluedSource, endsItself_gluedLines, t', again,
    fun before n after there => ?_, fun before n after there => ?_⟩
  · obtain ⟨-, same⟩ := keeps _ _ _ _
      (.inside outer (by decide) (.inside line (by decide) (.here kept)))
    obtain ⟨tag, -, left, right⟩ := same before n after there
    exact ⟨tag, (left (by decide)).2 (by decide), (right (by decide)).2 (by decide)⟩
  · obtain ⟨-, same⟩ := keeps _ _ _ _ (.inside outer (by decide) (.here parted))
    obtain ⟨tag, -, left, -⟩ := same before n after there
    exact ⟨tag, (left (by decide)).1.trans (by decide)⟩

/-- Beside a paragraph a text is parted from the element that it is glued to. -/
theorem format_parts_glued :
    parse "<div>un<b>glued</b><p>x</p></div>" =
        .ok [.element "div" [] [.text "un", .element "b" [] [.text "glued"],
          .element "p" [] [.text "x"]]] ∧
      format "<div>un<b>glued</b><p>x</p></div>" =
        ("<div>\n  un\n  <b>glued</b>\n  <p>x</p>\n</div>\n", none) ∧
      parse "<div>\n  un\n  <b>glued</b>\n  <p>x</p>\n</div>\n" =
        .ok [.element "div" [] [.text "\n  un\n  ", .element "b" [] [.text "glued"], .text "\n  ",
          .element "p" [] [.text "x"], .text "\n"], .text "\n"] := by
  decide +kernel

end HtmlTemplate.Markup
