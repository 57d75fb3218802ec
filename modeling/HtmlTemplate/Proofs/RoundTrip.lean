import HtmlTemplate.Proofs.Bindings
import HtmlTemplate.Proofs.RawText
import HtmlTemplate.Proofs.Reading

/-!
# Writing and reading

A well-formed forest is read back from what is written of it (`parse_render`): the scanner reports
the events of its nodes one after another (`readAll_nodes`), and the builder makes the nodes out of
their events again (`takeAll_allEvents`). Texts and attribute values may hold whatever characters
there are.
-/

namespace HtmlTemplate.Markup

open HtmlTemplate.Text

/-! ### Well-formed forests -/

/-- Whether a node is a text. -/
def isText : Node → Bool
  | .text _ => true
  | _ => false

/-- Whether a forest starts with a text. -/
def startsWithText (ns : List Node) : Bool := ns.head?.any isText

/-- Content of an element whose text is written as it is: nothing, or one text in which no end tag
starts. -/
def isRawContent : List Node → Bool
  | [] => true
  | [.text data] => data != "" && decide (¬ ['<', '/'] <:+: data.toList)
  | _ => false

mutual

/-- Whether a node is a text, a comment or an element that is written without loss. -/
def isWellFormed : Node → Bool
  | .text data => data != ""
  | .comment data => !data.toList.contains '>'
  | .element tag attrs cs =>
    isTagName tag && attrs.all (fun a => isAttrName a.1) && decide attrs.names.Nodup &&
      if isVoid tag then cs.isEmpty
      else if isRawText tag then isRawContent cs
      else areWellFormed cs
  | _ => false

/-- Whether nodes are written without loss and no text follows another one. -/
def areWellFormed : List Node → Bool
  | [] => true
  | n :: ns => isWellFormed n && !(isText n && startsWithText ns) && areWellFormed ns

end

/-! ### Events of nodes -/

mutual

/-- What reading a written node reports. -/
def events : Node → List Event
  | .text data => [.data data]
  | .comment data => [.comment data]
  | .element tag attrs cs =>
    .startTag tag (reportedAttrs attrs) :: if isVoid tag then [] else allEvents cs ++ [.endTag tag]
  | _ => []

/-- What reading written nodes reports. -/
def allEvents : List Node → List Event
  | [] => []
  | n :: ns => events n ++ allEvents ns

end

/-! ### Building -/

namespace Builder

theorem foldl_putNew {attrs : Attrs} : ∀ found : Attrs, (found ++ attrs).names.Nodup →
    (reportedAttrs attrs).foldl (fun acc a => Bindings.putNew acc a.1 (a.2.getD "")) found =
      found ++ attrs := by
  induction attrs with
  | nil => exact fun found _ => (List.append_nil found).symm
  | cons a attrs ih =>
    intro found distinct
    have fresh : Bindings.has found a.1 = false := by
      rw [Bindings.has, Bool.eq_false_iff]
      intro bound
      have mem := (Bindings.isSome_get?_iff found a.1).1 bound
      rw [Bindings.names, List.map_append, List.nodup_append] at distinct
      exact distinct.2.2 a.1 mem a.1 (by simp) rfl
    have placed : Bindings.putNew found a.1 ((some a.2).getD "") = found ++ [a] := by
      simp [Bindings.putNew, fresh]
    change (reportedAttrs attrs).foldl _ (Bindings.putNew found a.1 ((some a.2).getD "")) = _
    rw [placed, ih _ (by simpa using distinct), List.append_assoc, List.singleton_append]

/-- Attributes with distinct names are taken as they are reported. -/
theorem attrsOf_reportedAttrs {attrs : Attrs} (distinct : attrs.names.Nodup) :
    attrsOf (reportedAttrs attrs) = attrs :=
  foldl_putNew [] distinct

@[simp]
theorem current_setCurrent (b : Builder) (ns : List Node) : (b.setCurrent ns).current = ns := by
  obtain ⟨top, _ | ⟨e, es⟩⟩ := b <;> rfl

@[simp]
theorem setCurrent_setCurrent (b : Builder) (ms ns : List Node) :
    (b.setCurrent ms).setCurrent ns = b.setCurrent ns := by
  obtain ⟨top, _ | ⟨e, es⟩⟩ := b <;> rfl

theorem setCurrent_current (b : Builder) : b.setCurrent b.current = b := by
  obtain ⟨top, _ | ⟨e, es⟩⟩ := b <;> rfl

/-- Text that does not follow a text stands by itself. -/
theorem addText_eq_add {b : Builder} (apart : startsWithText b.current = false) (data : String) :
    b.addText data = b.add (.text data) := by
  unfold addText
  split
  · rename_i before rest h
    simp [startsWithText, h, isText] at apart
  · rfl

/-- An end tag closes the element that was opened last when that has its name. -/
theorem close_opened (b : Builder) (tag : String) (attrs : Attrs) (before : List Node) :
    close { b with opened := ⟨tag, attrs, before⟩ :: b.opened } tag =
      b.add (.element tag attrs before.reverse) := by
  simp [close, List.findIdx?_cons, closeMany, closeInnermost]

end Builder

theorem areWellFormed_of_isRawContent {cs : List Node} (h : isRawContent cs = true) :
    areWellFormed cs = true := by
  unfold isRawContent at h
  split at h
  · rfl
  · simp [areWellFormed, isWellFormed, startsWithText, (Bool.and_eq_true_iff.1 h).1]
  · cases h

/-- What a well-formed element is made of. -/
theorem isWellFormed_element_iff {tag : String} {attrs : Attrs} {cs : List Node} :
    isWellFormed (.element tag attrs cs) = true ↔
      isTagName tag = true ∧ (∀ a ∈ attrs, isAttrName a.1 = true) ∧ attrs.names.Nodup ∧
        (if isVoid tag then cs = [] else
          if isRawText tag then isRawContent cs = true else areWellFormed cs = true) := by
  rw [isWellFormed]
  cases isVoid tag <;> cases isRawText tag <;> simp [and_assoc]

namespace Builder

mutual

theorem takeAll_events : ∀ (n : Node) (b : Builder), isWellFormed n = true →
    (isText n = true → startsWithText b.current = false) → b.takeAll (events n) = b.add n
  | .text data, b, _, apart => addText_eq_add (apart rfl) data
  | .comment data, b, _, _ => rfl
  | .element tag attrs cs, b, formed, _ => by
    obtain ⟨-, -, distinct, content⟩ := isWellFormed_element_iff.1 formed
    rw [events]
    cases hvoid : isVoid tag with
    | true =>
      simp only [hvoid, if_true] at content
      subst content
      simp [takeAll, take, hvoid, attrsOf_reportedAttrs distinct]
    | false =>
      have formed_cs : areWellFormed cs = true := by
        simp only [hvoid, Bool.false_eq_true, if_false] at content
        split at content
        · exact areWellFormed_of_isRawContent content
        · exact content
      have opened : b.take (.startTag tag (reportedAttrs attrs)) =
          { b with opened := ⟨tag, attrs, []⟩ :: b.opened } := by
        simp [take, hvoid, attrsOf_reportedAttrs distinct]
      have inside := takeAll_allEvents cs { b with opened := ⟨tag, attrs, []⟩ :: b.opened }
        formed_cs fun _ => rfl
      simp only [Bool.false_eq_true, if_false]
      change takeAll (b.take _) (allEvents cs ++ [.endTag tag]) = _
      rw [opened, takeAll_append, inside]
      change close _ tag = _
      simp only [current, setCurrent, List.append_nil, close_opened, List.reverse_reverse]
  | .directive _, _, formed, _ | .fragment _, _, formed, _ | .blank, _, formed, _ => by
    simp [isWellFormed] at formed

/-- The builder makes well-formed nodes out of their events again. -/
theorem takeAll_allEvents : ∀ (ns : List Node) (b : Builder), areWellFormed ns = true →
    (startsWithText ns = true → startsWithText b.current = false) →
      b.takeAll (allEvents ns) = b.setCurrent (ns.reverse ++ b.current)
  | [], b, _, _ => (setCurrent_current b).symm
  | n :: ns, b, formed, apart => by
    simp only [areWellFormed, Bool.and_eq_true, Bool.not_eq_true', Bool.and_eq_false_iff] at formed
    obtain ⟨⟨formed_n, gap⟩, formed_ns⟩ := formed
    have first := takeAll_events n b formed_n fun text => apart (by simp [startsWithText, text])
    have rest := takeAll_allEvents ns (b.add n) formed_ns fun text => by
      have noText : isText n = false := gap.resolve_right (by simp [text])
      simp [add, startsWithText, noText]
    rw [allEvents, takeAll_append, first, rest]
    simp [add]

end

end Builder

/-! ### Reading what is written -/

/-- Text in a raw text element is read as it stands, up to the end tag of the element. -/
theorem readAll_rawText {tag : String} (raw : isRawText tag = true) {data : String}
    (inside : ¬ ['<', '/'] <:+: data.toList) (rest : List Char) :
    readAll (some tag) (data.toList ++ ((endTag tag).toList ++ rest)) =
      (readAll none rest).map fun more =>
        (if data = "" then [] else [.data data]) ++ .endTag tag :: more := by
  have written : (endTag tag).toList ++ rest = '<' :: '/' :: (tag.toList ++ '>' :: rest) := by
    simp [toList_endTag]
  have next : nextConstruct (some tag) (data.toList ++ ((endTag tag).toList ++ rest)) =
      some (data.toList, '<' :: '/' :: (tag.toList ++ '>' :: rest)) := by
    rw [nextConstruct, cutAt_closeRaw_of_none raw (cutAt_closeRaw_eq_none inside), written]
    rfl
  have reads : scanConstruct (some tag) ('/' :: (tag.toList ++ '>' :: rest)) =
      .ok (some ⟨[.endTag tag], none, rest⟩) :=
    congrArg Except.ok (scanEndTag_endTag raw rest)
  rw [readAll_construct next reads (by
    simp only [List.length_append, written, List.length_cons]
    omega)]
  simp [dataEvent, String.toList_eq_nil_iff]

theorem readAll_rawContent {tag : String} (raw : isRawText tag = true) {cs : List Node}
    (h : isRawContent cs = true) (rest : List Char) :
    readAll (some tag) ((renderNodes true cs).toList ++ ((endTag tag).toList ++ rest)) =
      (readAll none rest).map fun more => allEvents cs ++ .endTag tag :: more := by
  unfold isRawContent at h
  split at h
  · have nothing : ¬ ['<', '/'] <:+: "".toList := by simp
    exact readAll_rawText raw nothing rest
  · rename_i data
    simp only [Bool.and_eq_true, bne_iff_ne, decide_eq_true_eq] at h
    obtain ⟨nonempty, inside⟩ := h
    have written : renderNodes true [.text data] = data := by simp [renderNodes, renderNode]
    rw [written, readAll_rawText raw inside, if_neg nonempty]
    rfl
  · cases h

theorem readAll_text {data : String} (nonempty : data ≠ "") {rest : List Char}
    (ends : EndsText rest) : readAll none ((escapeText data).toList ++ rest) =
      (readAll none rest).map (.data data :: ·) := by
  have shown : (escapeText data).toList ≠ [] := fun h =>
    nonempty ((escapeText_eq_nil_iff data).1 h)
  rw [ends _ shown (not_mem_escapeText data)]
  simp [dataEvent, decodeRefs_escapeText]

/-- What is written of a node other than a text begins with a tag or is a comment. -/
theorem exists_readsAs {n : Node} (formed : isWellFormed n = true) (noText : isText n = false) :
    ∃ text more e raw?, (renderNode false n).toList = text ++ more ∧ ReadsAs text e raw? := by
  cases n with
  | text data => cases noText
  | comment data =>
    have noBracket : '>' ∉ data.toList := by simpa [isWellFormed] using formed
    exact ⟨_, [], _, _, (List.append_nil _).symm,
      readsAs_comment (cutAt_closeComment_of_noBracket noBracket)⟩
  | element tag attrs cs =>
    obtain ⟨name, names, -, -⟩ := isWellFormed_element_iff.1 formed
    have reads := readsAs_startTag (readableTag_of_isTagName name)
      fun a ha => readableName_of_isAttrName (names a ha)
    rw [renderNode]
    split
    · exact ⟨_, [], _, _, (List.append_nil _).symm, reads⟩
    · rw [String.toList_append, String.toList_append, List.append_assoc]
      exact ⟨_, _, _, _, rfl, reads⟩
  | directive data => simp [isWellFormed] at formed
  | fragment cs => simp [isWellFormed] at formed
  | blank => simp [isWellFormed] at formed

/-- Text ends where other nodes are written behind it, or nothing. -/
theorem endsText_renderNodes {ns : List Node} (formed : areWellFormed ns = true)
    (noText : startsWithText ns = false) {rest : List Char} (ends : EndsText rest) :
    EndsText ((renderNodes false ns).toList ++ rest) := by
  cases ns with
  | nil => exact ends
  | cons n ns =>
    simp only [areWellFormed, Bool.and_eq_true] at formed
    obtain ⟨text, more, e, raw?, written, reads⟩ := exists_readsAs formed.1.1 noText
    rw [renderNodes, String.toList_append, written, List.append_assoc, List.append_assoc]
    exact endsText_of_readsAs reads _

section Elements

variable {tag : String} {attrs : Attrs}

theorem readAll_void (hvoid : isVoid tag = true) (htag : ReadableTag tag)
    (names : ∀ a ∈ attrs, ReadableName a.1) (rest : List Char) :
    readAll none ((renderNode false (.element tag attrs [])).toList ++ rest) =
      (readAll none rest).map (events (.element tag attrs []) ++ ·) := by
  have opens := readsAs_startTag htag names
  rw [isRawText_of_isVoid hvoid, if_neg Bool.false_ne_true] at opens
  have written : renderNode false (.element tag attrs []) = startTag tag attrs := by
    simp [renderNode, hvoid]
  rw [written, readAll_of_readsAs opens, events, if_pos hvoid]
  rfl

/-- An element is read when what is between its tags is, with the end tag that follows. -/
theorem readAll_element (hvoid : isVoid tag = false) (htag : ReadableTag tag)
    (names : ∀ a ∈ attrs, ReadableName a.1) {cs : List Node} {rest : List Char}
    (inside : readAll (if isRawText tag then some tag else none)
      ((renderNodes (isRawText tag) cs).toList ++ ((endTag tag).toList ++ rest)) =
        (readAll none rest).map fun more => allEvents cs ++ .endTag tag :: more) :
    readAll none ((renderNode false (.element tag attrs cs)).toList ++ rest) =
      (readAll none rest).map (events (.element tag attrs cs) ++ ·) := by
  have written : (renderNode false (.element tag attrs cs)).toList = (startTag tag attrs).toList ++
      ((renderNodes (isRawText tag) cs).toList ++ (endTag tag).toList) := by
    simp [renderNode, hvoid, String.toList_append]
  rw [written, List.append_assoc, List.append_assoc,
    readAll_of_readsAs (readsAs_startTag htag names), inside]
  cases readAll none rest <;> simp [Except.map, events, hvoid]

end Elements

mutual

theorem readAll_node : ∀ (n : Node) (rest : List Char), isWellFormed n = true →
    (isText n = true → EndsText rest) →
      readAll none ((renderNode false n).toList ++ rest) =
        (readAll none rest).map (events n ++ ·)
  | .text data, rest, formed, ends => by
    have nonempty : data ≠ "" := by simpa [isWellFormed] using formed
    exact readAll_text nonempty (ends rfl)
  | .comment data, rest, formed, _ => by
    have noBracket : '>' ∉ data.toList := by simpa [isWellFormed] using formed
    exact readAll_of_readsAs (readsAs_comment (cutAt_closeComment_of_noBracket noBracket)) rest
  | .element tag attrs cs, rest, formed, _ => by
    obtain ⟨name, names, -, content⟩ := isWellFormed_element_iff.1 formed
    have htag := readableTag_of_isTagName name
    have plain : ∀ a ∈ attrs, ReadableName a.1 := fun a ha =>
      readableName_of_isAttrName (names a ha)
    cases hvoid : isVoid tag with
    | true =>
      simp only [hvoid, if_true] at content
      subst content
      exact readAll_void hvoid htag plain rest
    | false =>
      refine readAll_element hvoid htag plain ?_
      cases hraw : isRawText tag with
      | true =>
        simp only [hvoid, hraw, Bool.false_eq_true, if_false, if_true] at content
        exact readAll_rawContent hraw content rest
      | false =>
        simp only [hvoid, hraw, Bool.false_eq_true, if_false] at content ⊢
        have closes := readsAs_endTag htag
        rw [endName_of_isTagName name] at closes
        rw [readAll_nodes cs _ content (endsText_of_readsAs closes rest),
          readAll_of_readsAs closes]
        cases readAll none rest <;> rfl
  | .directive _, _, formed, _ | .fragment _, _, formed, _ | .blank, _, formed, _ => by
    simp [isWellFormed] at formed

/-- Written nodes are read as their events, before what follows them. -/
theorem readAll_nodes : ∀ (ns : List Node) (rest : List Char), areWellFormed ns = true →
    EndsText rest → readAll none ((renderNodes false ns).toList ++ rest) =
      (readAll none rest).map (allEvents ns ++ ·)
  | [], rest, _, _ => by
    change readAll none rest = (readAll none rest).map (id ·)
    cases readAll none rest <;> rfl
  | n :: ns, rest, formed, ends => by
    simp only [areWellFormed, Bool.and_eq_true, Bool.not_eq_true', Bool.and_eq_false_iff] at formed
    obtain ⟨⟨formed_n, gap⟩, formed_ns⟩ := formed
    have later : isText n = true → EndsText ((renderNodes false ns).toList ++ rest) := fun text =>
      endsText_renderNodes formed_ns (gap.resolve_left (by simp [text])) ends
    rw [renderNodes, String.toList_append, List.append_assoc, readAll_node n _ formed_n later,
      readAll_nodes ns rest formed_ns ends]
    cases readAll none rest <;> simp [Except.map, allEvents]

end

/-- What is written of a well-formed forest is read as its events. -/
theorem readAll_render {t : List Node} (h : areWellFormed t = true) :
    readAll none (render t).toList = .ok (allEvents t) := by
  have source : readAll none [] = .ok [] := by
    simp [readAll, scan]
  have reads := readAll_nodes t [] h endsText_nil
  rw [List.append_nil, source] at reads
  rw [render, reads]
  simp [Except.map]

/-- The tree that is built of the events of a well-formed forest is the forest. -/
theorem Builder.tree_takeAll_allEvents {t : List Node} (h : areWellFormed t = true) :
    (({} : Builder).takeAll (allEvents t)).tree = t := by
  rw [Builder.takeAll_allEvents t {} h fun _ => rfl]
  simp [Builder.tree, Builder.setCurrent, Builder.current, Builder.closeMany]

/-- Reading what is written of a well-formed forest gives the forest. -/
theorem parse_render {t : List Node} (h : areWellFormed t = true) : parse (render t) = .ok t := by
  rw [parse_eq_readAll, readAll_render h]
  exact congrArg Except.ok (Builder.tree_takeAll_allEvents h)

/-- A page whose texts and values could break out of where they are. -/
def quotingPage : List Node :=
  [.comment " <b a=\"&amp;\" ",
    .element "p" [("title", "\"&quot;' >"), ("on:x.y_z", "")]
      [.text "1 < 2 &amp; </p>", .element "br" [] [], .text "\n&lt"],
    .element "script" [] [.text "a < b && c > \"&amp;\" // <p>"], .text "&#65"]

theorem parse_render_quotingPage :
    areWellFormed quotingPage = true ∧ parse (render quotingPage) = .ok quotingPage := by
  have formed : areWellFormed quotingPage = true := by decide +kernel
  exact ⟨formed, parse_render formed⟩

end HtmlTemplate.Markup
