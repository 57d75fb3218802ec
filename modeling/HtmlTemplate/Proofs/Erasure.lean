import HtmlTemplate.Proofs.BuiltNodes
import HtmlTemplate.Proofs.SecondReading
import Mathlib.Data.List.Chain

/-!
# Erasing characters of texts

`erasedAll p` takes characters out of the texts of a forest and leaves texts out of which nothing
is left; elements whose content layout must not touch keep all their characters. What is read of
a written forest has the same rest as the forest itself once adjacent texts are joined
(`erasedAll_echoes`), and in a parsed tree there are none (`spread_of_parse`). So a written forest
with the same rest as a parsed tree is read as a tree with that rest (`parse_render_of_erasedAll`).
-/

namespace HtmlTemplate.Markup

open Node

/-! ### Erasing -/

/-- A text without the characters that satisfy `p`. -/
def without (p : Char → Bool) (data : String) : String :=
  String.ofList (data.toList.filter (!p ·))

/-- A text, unless it is empty. -/
def textNode (data : String) : Option Node :=
  if data = "" then none else some (.text data)

/-- No character is erased. -/
def nothing (_ : Char) : Bool := false

/-- The characters that are erased inside an element. -/
def erasedIn (tag : String) (p : Char → Bool) : Char → Bool :=
  if isVerbatim tag then nothing else p

mutual

/-- What is left of a node when the characters that satisfy `p` are erased. -/
def erased (p : Char → Bool) : Node → Option Node
  | .text data => textNode (without p data)
  | .element tag attrs cs => some (.element tag attrs (erasedAll (erasedIn tag p) cs))
  | .fragment cs => some (.fragment (erasedAll p cs))
  | n => some n

/-- What is left of nodes when the characters that satisfy `p` are erased. -/
def erasedAll (p : Char → Bool) : List Node → List Node
  | [] => []
  | n :: ns => (erased p n).toList ++ erasedAll p ns

end

section Erasing

variable (p : Char → Bool)

@[simp]
theorem toList_without (data : String) :
    (without p data).toList = data.toList.filter (!p ·) := by
  simp [without]

@[simp]
theorem without_empty : without p "" = "" := rfl

@[simp]
theorem without_nothing (data : String) : without nothing data = data := by
  simp [without, nothing]

@[simp]
theorem without_append (s s' : String) : without p (s ++ s') = without p s ++ without p s' := by
  simp [without]

@[simp]
theorem erasedIn_nothing (tag : String) : erasedIn tag nothing = nothing :=
  ite_self nothing

theorem erasedAll_eq_filterMap (ns : List Node) : erasedAll p ns = ns.filterMap (erased p) := by
  induction ns with
  | nil => rfl
  | cons n ns ih => cases h : erased p n <;> simp [erasedAll, ih, h]

theorem erasedAll_append (ms ns : List Node) :
    erasedAll p (ms ++ ns) = erasedAll p ms ++ erasedAll p ns := by
  simp [erasedAll_eq_filterMap]

theorem erasedAll_reverse (ns : List Node) :
    erasedAll p ns.reverse = (erasedAll p ns).reverse := by
  simp [erasedAll_eq_filterMap]

/-- A node other than a text stays one. -/
theorem exists_erased {n : Node} (noText : isText n = false) :
    ∃ m, erased p n = some m ∧ isText m = false := by
  cases n with
  | text data => cases noText
  | element tag attrs cs => exact ⟨_, rfl, rfl⟩
  | fragment cs => exact ⟨_, rfl, rfl⟩
  | comment data => exact ⟨_, rfl, rfl⟩
  | directive data => exact ⟨_, rfl, rfl⟩
  | blank => exact ⟨_, rfl, rfl⟩

theorem startsWithText_erasedAll {ns : List Node} (noText : startsWithText ns = false) :
    startsWithText (erasedAll p ns) = false := by
  cases ns with
  | nil => rfl
  | cons n ns =>
    obtain ⟨m, stays, noText'⟩ := exists_erased p (n := n) (by simpa [startsWithText] using noText)
    simp [erasedAll, stays, startsWithText, noText']

mutual

/-- To leave out empty texts first makes no difference. -/
theorem erasedAll_erased_nothing (p : Char → Bool) : ∀ n : Node,
    erasedAll p (erased nothing n).toList = (erased p n).toList
  | .text data => by
    by_cases empty : data = ""
    · simp [erased, textNode, erasedAll, empty]
    · simp [erased, textNode, erasedAll, empty]
  | .element tag attrs cs => by
    simp [erased, erasedAll, erasedAll_erasedAll_nothing (erasedIn tag p) cs]
  | .fragment cs => by
    simp [erased, erasedAll, erasedAll_erasedAll_nothing p cs]
  | .comment _ | .directive _ | .blank => rfl

theorem erasedAll_erasedAll_nothing (p : Char → Bool) : ∀ ns : List Node,
    erasedAll p (erasedAll nothing ns) = erasedAll p ns
  | [] => rfl
  | n :: ns => by
    rw [erasedAll, erasedAll_append, erasedAll_erased_nothing p n,
      erasedAll_erasedAll_nothing p ns, erasedAll]

end

end Erasing

/-! ### Characters that can be erased -/

mutual

/-- The characters of the texts of a node that are not in a verbatim element. -/
def looseChars : Node → List Char
  | .text data => data.toList
  | .element tag _ cs => if isVerbatim tag then [] else allLooseChars cs
  | .fragment cs => allLooseChars cs
  | _ => []

/-- The characters of the texts of a forest that are not in a verbatim element. -/
def allLooseChars : List Node → List Char
  | [] => []
  | n :: ns => looseChars n ++ allLooseChars ns

end

theorem allLooseChars_append (ms ns : List Node) :
    allLooseChars (ms ++ ns) = allLooseChars ms ++ allLooseChars ns := by
  induction ms with
  | nil => rfl
  | cons m ms ih => simp [allLooseChars, ih]

section Loose

variable {p q : Char → Bool}

theorem without_congr {data : String} (h : ∀ c ∈ data.toList, p c = q c) :
    without p data = without q data := by
  unfold without
  congr 1
  exact List.filter_congr fun c hc => by rw [h c hc]

mutual

/-- What is left depends only on which of the characters that can be erased are erased. -/
theorem erased_congr : ∀ n : Node, (∀ c ∈ looseChars n, p c = q c) → erased p n = erased q n
  | .text data, h => by rw [erased, erased, without_congr h]
  | .element tag attrs cs, h => by
    rw [looseChars] at h
    rw [erased, erased, erasedIn, erasedIn]
    split
    · rfl
    · rename_i loose
      rw [if_neg loose] at h
      rw [erasedAll_congr cs h]
  | .fragment cs, h => by rw [erased, erased, erasedAll_congr cs h]
  | .comment _, _ | .directive _, _ | .blank, _ => rfl

theorem erasedAll_congr : ∀ ns : List Node, (∀ c ∈ allLooseChars ns, p c = q c) →
    erasedAll p ns = erasedAll q ns
  | [], _ => rfl
  | n :: ns, h => by
    rw [erasedAll, erasedAll, erased_congr n fun c hc => h c (List.mem_append_left _ hc),
      erasedAll_congr ns fun c hc => h c (List.mem_append_right _ hc)]

end

mutual

theorem allLooseChars_erased (p : Char → Bool) : ∀ n : Node,
    allLooseChars (erased p n).toList = (looseChars n).filter (!p ·)
  | .text data => by
    by_cases empty : without p data = ""
    · have none := congrArg String.toList empty
      rw [toList_without] at none
      simp [erased, textNode, empty, allLooseChars, looseChars, none]
    · simp [erased, textNode, empty, allLooseChars, looseChars]
  | .element tag attrs cs => by
    have inside := allLooseChars_erasedAll p cs
    simp only [erased, Option.toList_some, allLooseChars, looseChars, List.append_nil, erasedIn]
    cases isVerbatim tag
    · simpa using inside
    · rfl
  | .fragment cs => by
    simpa [erased, allLooseChars, looseChars] using allLooseChars_erasedAll p cs
  | .comment _ | .directive _ | .blank => rfl

theorem allLooseChars_erasedAll (p : Char → Bool) : ∀ ns : List Node,
    allLooseChars (erasedAll p ns) = (allLooseChars ns).filter (!p ·)
  | [] => rfl
  | n :: ns => by
    rw [erasedAll, allLooseChars_append, allLooseChars_erased p n, allLooseChars_erasedAll p ns,
      allLooseChars, List.filter_append]

end

/-- Two erasures leave the same exactly when they erase the same of the characters there are. -/
theorem erasedAll_eq_iff {ns : List Node} :
    erasedAll p ns = erasedAll q ns ↔ ∀ c ∈ allLooseChars ns, p c = q c := by
  refine ⟨fun same c hc => ?_, erasedAll_congr ns⟩
  have left := congrArg allLooseChars same
  rw [allLooseChars_erasedAll, allLooseChars_erasedAll] at left
  have stays : c ∈ (allLooseChars ns).filter (!p ·) ↔ c ∈ (allLooseChars ns).filter (!q ·) := by
    rw [left]
  simpa [hc] using stays

end Loose

/-! ### Texts apart from each other -/

/-- No text stands next to another one. -/
def Apart (ns : List Node) : Prop :=
  ns.IsChain fun m n => isText m = true → isText n = false

/-- No text stands next to another one, at all depths. -/
structure Spread (ns : List Node) : Prop where
  top : Apart ns
  inside : Every (fun n => Apart n.children) ns

theorem apart_nil : Apart [] := List.IsChain.nil

theorem spread_nil : Spread [] := ⟨apart_nil, every_nil⟩

theorem apart_cons_iff {n : Node} {ns : List Node} :
    Apart (n :: ns) ↔ (isText n = true → startsWithText ns = false) ∧ Apart ns := by
  cases ns with
  | nil => simp [Apart, startsWithText]
  | cons m ns => simp [Apart, startsWithText]

theorem Apart.reverse {ns : List Node} (h : Apart ns) : Apart ns.reverse := by
  refine List.isChain_reverse.2 (h.imp fun m n gap text => ?_)
  cases first : isText m with
  | false => rfl
  | true => rw [gap first] at text; cases text

theorem Spread.reverse {ns : List Node} (h : Spread ns) : Spread ns.reverse :=
  ⟨h.top.reverse, h.inside.subset fun _ => List.mem_reverse.1⟩

theorem Spread.cons {n : Node} {ns : List Node} (h : Spread ns)
    (gap : isText n = true → startsWithText ns = false) (inside : Spread n.children) :
    Spread (n :: ns) := by
  refine ⟨apart_cons_iff.2 ⟨gap, h.top⟩, every_cons_iff.2 ⟨?_, h.inside⟩⟩
  cases n with
  | element tag attrs cs => exact every_element_iff.2 ⟨inside.top, inside.inside⟩
  | fragment cs => exact every_fragment_iff.2 ⟨inside.top, inside.inside⟩
  | _ => exact every_leaf rfl apart_nil

theorem Spread.tail {n : Node} {ns : List Node} (h : Spread (n :: ns)) : Spread ns :=
  ⟨(apart_cons_iff.1 h.top).2, (every_cons_iff.1 h.inside).2⟩

theorem Spread.children {n : Node} {ns : List Node} (h : Spread (n :: ns)) : Spread n.children :=
  have inside := (every_cons_iff.1 h.inside).1
  ⟨inside.self, inside.children⟩

/-- A text that follows no text stands by itself, if it is not empty. -/
theorem joinData_of_noText {before : List Node} (noText : startsWithText before = false)
    (data : String) : Builder.joinData before data = (textNode data).toList ++ before := by
  unfold Builder.joinData textNode
  split
  · rfl
  · split
    · simp [startsWithText, isText] at noText
    · rfl

theorem Apart.joinData {before : List Node} (h : Apart before) (data : String) :
    Apart (Builder.joinData before data) := by
  unfold Builder.joinData
  split
  · exact h
  · split
    · exact apart_cons_iff.2 ⟨(apart_cons_iff.1 h).1, (apart_cons_iff.1 h).2⟩
    · rename_i other
      refine apart_cons_iff.2 ⟨fun _ => ?_, h⟩
      cases before with
      | nil => rfl
      | cons n ns =>
        cases n with
        | text last => exact absurd rfl (other last ns)
        | _ => rfl

/-! ### What is read of written nodes -/

mutual

theorem apart_echo : ∀ (n : Node) {before : List Node}, Apart before → Apart (echo before n)
  | .text data, _, h => h.joinData data
  | .comment _, _, h | .directive _, _, h => apart_cons_iff.2 ⟨nofun, h⟩
  | .element tag attrs cs, before, h => by
    rw [echo]
    split
    · exact apart_echoes cs (apart_cons_iff.2 ⟨nofun, h⟩)
    · split
      · exact apart_cons_iff.2 ⟨nofun, h⟩
      · exact apart_cons_iff.2 ⟨nofun, h⟩
  | .fragment _, _, h | .blank, _, h => h

theorem apart_echoes : ∀ (ns : List Node) {before : List Node}, Apart before →
    Apart (echoes before ns)
  | [], _, h => h
  | n :: ns, _, h => apart_echoes ns (apart_echo n h)

end

/-- Joining texts and erasing characters commute where no texts are left to join. -/
theorem erasedAll_joinData (p : Char → Bool) {before : List Node} (h : Apart before)
    (data : String) : erasedAll p (Builder.joinData before data) =
      Builder.joinData (erasedAll p before) (without p data) := by
  cases first : startsWithText before with
  | false =>
    rw [joinData_of_noText first, joinData_of_noText (startsWithText_erasedAll p first),
      erasedAll_append]
    by_cases empty : data = ""
    · simp [textNode, empty, erasedAll]
    · simp [textNode, empty, erasedAll, erased]
  | true =>
    obtain ⟨last, rest, rfl⟩ : ∃ last rest, before = .text last :: rest := by
      cases before with
      | nil => cases first
      | cons n ns =>
        obtain ⟨last, rfl⟩ := exists_eq_text (by simpa [startsWithText] using first)
        exact ⟨last, ns, rfl⟩
    have behind := startsWithText_erasedAll p ((apart_cons_iff.1 h).1 rfl)
    have left : erasedAll p (.text last :: rest) =
        Builder.joinData (erasedAll p rest) (without p last) :=
      (joinData_of_noText behind _).symm
    have joined : erasedAll p (.text (last ++ data) :: rest) =
        Builder.joinData (erasedAll p rest) (without p last ++ without p data) := by
      rw [← without_append]
      exact (joinData_of_noText behind _).symm
    rw [left, Builder.joinData_joinData, ← joined]
    unfold Builder.joinData
    split
    · rename_i empty
      simp [empty]
    · rfl

theorem echoes_append (before ms ns : List Node) :
    echoes before (ms ++ ns) = echoes (echoes before ms) ns := by
  induction ms generalizing before with
  | nil => rfl
  | cons m ms ih => exact ih (echo before m)

/-- A node that is read as it was written, but for its empty texts. -/
structure Firm (n : Node) : Prop where
  fit : Fit n
  /-- The end tag of an element is read with its tag. -/
  ends : ∀ tag, n.tag? = some tag → endName tag = tag
  plain : isConditionalNode n = false

theorem isVerbatim_of_isRawText {tag : String} (h : isRawText tag = true) :
    isVerbatim tag = true := by
  simp only [isRawText, rawTextTags, List.contains_iff_mem, List.mem_cons, List.not_mem_nil,
    or_false] at h
  rcases h with rfl | rfl <;> decide

/-- Empty texts leave nothing in writing. -/
theorem renderNodes_erasedAll_nothing {ns : List Node} (texts : ∀ n ∈ ns, isText n = true) :
    renderNodes true (erasedAll nothing ns) = renderNodes true ns := by
  induction ns with
  | nil => rfl
  | cons n ns ih =>
    obtain ⟨data, rfl⟩ := exists_eq_text (texts n List.mem_cons_self)
    have rest := ih fun m hm => texts m (List.mem_cons_of_mem _ hm)
    by_cases empty : data = ""
    · simp [erasedAll, erased, textNode, empty, renderNodes, renderNode, rest]
    · simp [erasedAll, erased, textNode, empty, renderNodes, renderNode, rest]

mutual

/-- Erasing characters of what is read of a node, and reading what is left of it. -/
theorem erasedAll_echo : ∀ (p : Char → Bool) (n : Node) (before : List Node),
    (∀ m ∈ n.preorder, Firm m) → Apart before →
      erasedAll p (echo before n) = echoes (erasedAll p before) (erased p n).toList
  | p, .text data, before, _, apart => by
    rw [echo, erasedAll_joinData p apart, erased]
    by_cases empty : without p data = ""
    · simp [textNode, empty, echoes, Builder.joinData]
    · simp [textNode, empty, echoes, echo]
  | p, .comment data, _, _, _ => rfl
  | p, .directive data, before, firm, _ => by
    have plain : isConditional data = false := (firm _ (mem_preorder_self (.directive data))).plain
    simp [echo, echoes, erasedAll, erased, rereadData, plain]
  | p, .element tag attrs cs, before, firm, _ => by
    have head := (firm _ (mem_preorder_self (.element tag attrs cs))).fit
    have inside := erasedAll_echoes (erasedIn tag p) cs []
      (fun m hm => firm m (by simp [preorder, hm])) apart_nil
    simp only [erased, Option.toList_some, echoes, echo]
    split
    · rename_i void
      obtain rfl : cs = [] := head.void tag rfl void
      rfl
    · split
      · rename_i raw
        have verbatim : erasedIn tag p = nothing := if_pos (isVerbatim_of_isRawText raw)
        have written : renderNodes true (erasedAll nothing cs) = renderNodes true cs :=
          renderNodes_erasedAll_nothing (head.raw tag rfl raw)
        simp only [erasedAll, erased, verbatim, erasedAll_reverse,
          erasedAll_joinData nothing apart_nil, without_nothing, written]
        rfl
      · simp only [erasedAll, erased, erasedAll_reverse, inside]
        rfl
  | _, .fragment cs, _, firm, _ =>
    absurd (firm _ (mem_preorder_self (.fragment cs))).fit.legible id
  | _, .blank, _, firm, _ => absurd (firm _ (mem_preorder_self .blank)).fit.legible id

/-- Erasing characters of what is read of nodes, and reading what is left of them. -/
theorem erasedAll_echoes : ∀ (p : Char → Bool) (ns before : List Node),
    Every Firm ns → Apart before →
      erasedAll p (echoes before ns) = echoes (erasedAll p before) (erasedAll p ns)
  | _, [], _, _, _ => rfl
  | p, n :: ns, before, firm, apart => by
    have first := erasedAll_echo p n before (fun m hm => firm m (by simp [preorders, hm])) apart
    have rest := erasedAll_echoes p ns (echo before n) (fun m hm => firm m (by simp [preorders, hm]))
      (apart_echo n apart)
    rw [echoes, rest, first, erasedAll, echoes_append]

end

/-- The content of a raw text element is read as it was, unless it is an empty text. -/
theorem joinData_rawContent {cs : List Node} (texts : ∀ c ∈ cs, isText c = true)
    (apart : Apart cs) :
    (Builder.joinData [] (renderNodes true cs)).reverse = erasedAll nothing cs := by
  cases cs with
  | nil => rfl
  | cons c cs =>
    obtain ⟨data, rfl⟩ := exists_eq_text (texts c List.mem_cons_self)
    have behind := (apart_cons_iff.1 apart).1 rfl
    cases cs with
    | nil =>
      rw [joinData_of_noText rfl]
      by_cases empty : data = ""
      · simp [renderNodes, renderNode, erasedAll, erased, textNode, empty]
      · simp [renderNodes, renderNode, erasedAll, erased, textNode, empty]
    | cons d ds => simp [startsWithText, texts d (by simp)] at behind

mutual

/-- Where texts are apart, a node is read without its empty texts. -/
theorem echo_of_spread : ∀ (n : Node) (before : List Node), (∀ m ∈ n.preorder, Firm m) →
    Spread n.children → (isText n = true → startsWithText before = false) →
      echo before n = (erased nothing n).toList ++ before
  | .text data, before, _, _, gap => by
    rw [echo, joinData_of_noText (gap rfl), erased, without_nothing]
  | .comment data, _, _, _, _ => rfl
  | .directive data, before, firm, _, _ => by
    have plain : isConditional data = false := (firm _ (mem_preorder_self (.directive data))).plain
    simp [echo, erased, rereadData, plain]
  | .element tag attrs cs, before, firm, spread, _ => by
    have head := (firm _ (mem_preorder_self (.element tag attrs cs))).fit
    have inside := echoes_of_spread cs []
      (fun m hm => firm m (by simp [preorder, hm])) spread fun _ => rfl
    simp only [erased, erasedIn_nothing, Option.toList_some, List.singleton_append, echo]
    split
    · rename_i void
      obtain rfl : cs = [] := head.void tag rfl void
      rfl
    · split
      · rename_i raw
        have content : (Builder.joinData [] (renderNodes true cs)).reverse = erasedAll nothing cs :=
          joinData_rawContent (head.raw tag rfl raw) spread.top
        rw [content]
      · rw [inside, List.append_nil, List.reverse_reverse]
  | .fragment cs, _, firm, _, _ =>
    absurd (firm _ (mem_preorder_self (.fragment cs))).fit.legible id
  | .blank, _, firm, _, _ => absurd (firm _ (mem_preorder_self .blank)).fit.legible id

/-- Where texts are apart, nodes are read without their empty texts. -/
theorem echoes_of_spread : ∀ ns before : List Node, Every Firm ns → Spread ns →
    (startsWithText ns = true → startsWithText before = false) →
      echoes before ns = (erasedAll nothing ns).reverse ++ before
  | [], _, _, _, _ => rfl
  | n :: ns, before, firm, spread, gap => by
    have first := echo_of_spread n before (fun m hm => firm m (by simp [preorders, hm])) spread.children
      fun text => gap (by simp [startsWithText, text])
    have rest := echoes_of_spread ns (echo before n)
      (fun m hm => firm m (by simp [preorders, hm])) spread.tail fun text => by
        cases isT : isText n with
        | true =>
          rw [(apart_cons_iff.1 spread.top).1 isT] at text
          cases text
        | false =>
          obtain ⟨m, stays, noText⟩ := exists_erased nothing isT
          simp [first, stays, startsWithText, noText]
    rw [echoes, rest, first, erasedAll, List.reverse_append]
    cases erased nothing n <;> simp

end

/-! ### Parsed trees -/

theorem built_spread : Built (fun _ => True) Spread where
  nil := spread_nil
  reverse := Spread.reverse
  element _ _ inside h := h.cons nofun inside
  comment _ h := h.cons nofun spread_nil
  directive _ h := h.cons nofun spread_nil
  text _ gap h := h.cons (fun _ => gap) spread_nil
  longer _ h := h.tail.cons (apart_cons_iff.1 h.top).1 spread_nil

/-- In a parsed tree no text stands next to another one. -/
theorem spread_of_parse {source : String} {t : List Node} (h : parse source = .ok t) :
    Spread t := by
  rw [parse_eq_readAll] at h
  cases reads : readAll none source.toList with
  | error e => simp [reads, Except.map] at h
  | ok events =>
    simp only [reads, Except.map, Except.ok.injEq] at h
    exact h ▸ built_spread.tree fun _ _ _ _ => trivial

/-- Of two forests with the same rest the one is read with the rest of the other, if no texts of that
one are left to join. -/
theorem erasedAll_reread {t forest : List Node} (spread : Spread t) (firm : Every Firm t)
    (firm' : Every Firm forest) {p q : Char → Bool} (same : erasedAll p forest = erasedAll q t) :
    erasedAll p (echoes [] forest).reverse = erasedAll q t :=
  calc erasedAll p (echoes [] forest).reverse
      = (echoes [] (erasedAll p forest)).reverse := by
        rw [erasedAll_reverse, erasedAll_echoes p forest [] firm' apart_nil]
        rfl
    _ = (erasedAll q (echoes [] t)).reverse := by
        rw [same, erasedAll_echoes q t [] firm apart_nil]
        rfl
    _ = erasedAll q t := by
        rw [echoes_of_spread t [] firm spread fun _ => rfl, List.append_nil, erasedAll_reverse,
          List.reverse_reverse, erasedAll_erasedAll_nothing]

/-- When a forest has the same rest as a parsed tree, what is read of the written forest has it. -/
theorem parse_render_of_erasedAll {t forest : List Node} (spread : Spread t) (firm : Every Firm t)
    (firm' : Every Firm forest) {p q : Char → Bool} (same : erasedAll p forest = erasedAll q t) :
    ∃ t', parse (render forest) = .ok t' ∧ erasedAll p t' = erasedAll q t :=
  ⟨_, parse_render_eq_echoes (fun n hn => (firm' n hn).fit.legible) fun n hn => (firm' n hn).ends,
    erasedAll_reread spread firm firm' same⟩

end HtmlTemplate.Markup
