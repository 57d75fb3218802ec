import HtmlTemplate.Proofs.Occurrence
import HtmlTemplate.Proofs.RawText
import HtmlTemplate.Proofs.Reading
import HtmlTemplate.Proofs.RoundTrip

/-!
# What a written tree is read as

A legible forest can be written and read again whatever it holds (`parse_render_of_legible`): its
names are names for the scanner, its comments and directives end where they are written to end, and
the text of its raw text elements holds no end tag of theirs. The reading is followed by a builder
that takes one node after another (`Builder.reread`): texts that stand next to each other are
joined, empty ones vanish, a conditional section gets another closing bracket, and an end tag closes
what its name closes.
-/

namespace HtmlTemplate.Markup

open HtmlTemplate.Text

/-! ### Legible nodes -/

/-- Data of a declaration, an instruction or a marked section as the scanner reports them. -/
inductive IsDirective : String → Prop
  | declaration {data : String} : Doctype data.toList → IsDirective ("!" ++ data)
  | instruction {data : String} : '>' ∉ data.toList → IsDirective ("?" ++ data)
  | markedSection {data : String} {close : List Char → Option (List Char)} :
    SectionText data.toList close → IsDirective ("![" ++ data ++ "]]")

/-- Whether a directive is a conditional section. -/
def isConditional (data : String) : Bool :=
  match data.toList with
  | '!' :: '[' :: cs => isConditionalKind (sectionKind cs)
  | _ => false

/-- The data of a directive after it has been written and read. -/
def rereadData (data : String) : String :=
  if isConditional data then data ++ "]" else data

/-- What a node must be like to be read as a node of its kind again; of the children only the text
of raw text elements counts. -/
def Legible : Node → Prop
  | .text _ => True
  | .comment data => cutAt closeComment data.toList = none
  | .directive data => IsDirective data
  | .element tag attrs cs =>
    ReadableTag tag ∧ (∀ a ∈ attrs, ReadableName a.1) ∧ attrs.names.Nodup ∧
      (isRawText tag = true → holdsEnd tag (renderNodes true cs).toList = false)
  | .fragment _ => False
  | .blank => False

theorem isConditional_declaration {data : String} (h : Doctype data.toList) :
    isConditional ("!" ++ data) = false := by
  unfold isConditional
  split
  · rename_i cs same
    rw [String.toList_append] at same
    have first : data.toList ++ [] = '[' :: cs := by simpa using same
    exact absurd first (h.append_ne ⟨by decide +kernel, by decide⟩ (by decide) _ _)
  · rfl

theorem isConditional_markedSection (data : String) :
    isConditional ("![" ++ data ++ "]]") = isConditionalKind (sectionKind data.toList) := by
  have chars : ("![" ++ data ++ "]]").toList = '!' :: '[' :: (data.toList ++ [']', ']']) := by
    simp [String.toList_append]
  rw [isConditional, chars]
  exact congrArg isConditionalKind (sectionKind_append_bracket data.toList [']'])

/-- A written directive is read as one, which has the data with what the reading adds to them. -/
theorem readsAs_directive {data : String} (h : IsDirective data) :
    ∃ e, ReadsAs ("<" ++ data ++ ">").toList e none ∧
      ∀ b : Builder, b.take e = b.add (.directive (rereadData data)) := by
  cases h with
  | @declaration data doctype =>
    have plain : rereadData ("!" ++ data) = "!" ++ data :=
      if_neg (Bool.eq_false_iff.1 (isConditional_declaration doctype))
    refine ⟨.declaration data, ⟨'!' :: (data.toList ++ ['>']), by simp [String.toList_append],
      fun rest => ?_⟩, fun b => by rw [plain]; rfl⟩
    have reads := scanDeclaration_doctype doctype rest
    rw [String.ofList_toList] at reads
    simpa [scanConstruct] using reads
  | @instruction data noBracket =>
    have plain : rereadData ("?" ++ data) = "?" ++ data := by
      simp [rereadData, isConditional, String.toList_append]
    refine ⟨.instruction data, ⟨'?' :: (data.toList ++ ['>']), by simp [String.toList_append],
      fun rest => ?_⟩, fun b => by rw [plain]; rfl⟩
    have reads := scanToBracket_written .instruction noBracket rest
    rw [String.ofList_toList] at reads
    simpa [scanConstruct] using reads
  | @markedSection data close text =>
    have kind := isConditional_markedSection data
    have written : ("<" ++ ("![" ++ data ++ "]]") ++ ">").toList =
        '<' :: '!' :: '[' :: (data.toList ++ [']', ']', '>']) := by
      simp [String.toList_append]
    rcases closeSection?_cases text.closes with ⟨plain, rfl⟩ | ⟨conditional, rfl⟩
    · refine ⟨.markedSection data, ⟨_, written, fun rest => ?_⟩, fun b => ?_⟩
      · have reads := scanSection_plain text rest
        rw [String.ofList_toList] at reads
        simpa [scanConstruct, scanDeclaration] using reads
      · rw [rereadData, if_neg (by simp [kind, plain])]
        rfl
    · refine ⟨.markedSection (data ++ "]"), ⟨_, written, fun rest => ?_⟩, fun b => ?_⟩
      · have reads := scanSection_conditional text rest
        have data' : String.ofList (data.toList ++ [']']) = data ++ "]" := by
          simp
        rw [data'] at reads
        simpa [scanConstruct, scanDeclaration] using reads
      · rw [rereadData, if_pos (by rw [kind, conditional])]
        change b.add (.directive _) = _
        simp [String.append_assoc]

/-! ### Building while reading -/

namespace Builder

/-- Puts text behind nodes, the latest first, unless it is empty. -/
def joinData (before : List Node) (data : String) : List Node :=
  if data = "" then before
  else match before with
    | .text last :: rest => .text (last ++ data) :: rest
    | _ => .text data :: before

/-- Adds text unless it is empty. -/
def addData (b : Builder) (data : String) : Builder :=
  b.setCurrent (joinData b.current data)

theorem addText_eq_addData (b : Builder) {data : String} (h : data ≠ "") :
    b.addText data = b.addData data := by
  unfold addText addData joinData
  rw [if_neg h]
  cases shown : b.current with
  | nil => simp only [add, shown]
  | cons first rest => cases first <;> simp only [add, shown]

@[simp]
theorem addData_empty (b : Builder) : b.addData "" = b := setCurrent_current b

theorem joinData_joinData (before : List Node) (s s' : String) :
    joinData (joinData before s) s' = joinData before (s ++ s') := by
  by_cases first : s = ""
  · simp [joinData, first]
  · by_cases second : s' = ""
    · simp [joinData, second]
    · simp only [joinData, first, second, String.append_eq_empty_iff, false_and, if_false]
      cases before with
      | nil => rfl
      | cons n ns => cases n <;> simp [String.append_assoc]

/-- Texts that come one after another are joined. -/
theorem addData_addData (b : Builder) (s s' : String) :
    (b.addData s).addData s' = b.addData (s ++ s') := by
  simp [addData, joinData_joinData]

mutual

/-- Takes what is read when a node is written. -/
def reread (b : Builder) : Node → Builder
  | .text data => b.addData data
  | .comment data => b.add (.comment data)
  | .directive data => b.add (.directive (rereadData data))
  | .element tag attrs cs =>
    let inside := b.take (.startTag tag (reportedAttrs attrs))
    if isVoid tag && cs.isEmpty then inside
    else if isRawText tag then (inside.addData (renderNodes true cs)).take (.endTag tag)
    else (rereadAll inside cs).take (.endTag (endName tag))
  | .fragment _ => b
  | .blank => b

/-- Takes what is read when nodes are written. -/
def rereadAll (b : Builder) : List Node → Builder
  | [] => b
  | n :: ns => rereadAll (b.reread n) ns

end

end Builder

/-- A builder that takes the events of a text. -/
def build (raw? : Option String) (b : Builder) (cs : List Char) : Except ScanError Builder :=
  (readAll raw? cs).map b.takeAll

theorem parse_eq_build (source : String) :
    parse source = (build none {} source.toList).map Builder.tree := by
  rw [parse_eq_readAll, build]
  cases readAll none source.toList <;> rfl

@[simp]
theorem build_nil (b : Builder) : build none b [] = .ok b := by
  simp [build, readAll, scan, Except.map, Builder.takeAll]

/-- A builder takes the first construct of a text after the text before it, and then the rest. -/
theorem build_construct {raw? : Option String} {cs before body : List Char} {s : Scanned}
    (next : nextConstruct raw? cs = some (before, '<' :: body))
    (reads : scanConstruct raw? body = .ok (some s)) (shorter : s.rest.length < cs.length)
    (b : Builder) :
    build raw? b cs =
      build s.raw? ((if before.isEmpty then b else b.take (dataEvent raw? before)).takeAll s.events)
        s.rest := by
  rw [build, readAll_construct next reads shorter, build]
  cases readAll s.raw? s.rest with
  | error e => rfl
  | ok more =>
    simp only [Except.map, Builder.takeAll_append]
    cases before.isEmpty <;> rfl

theorem build_of_readsAs {text : List Char} {e : Event} {raw? : Option String}
    (reads : ReadsAs text e raw?) (b : Builder) (rest : List Char) :
    build none b (text ++ rest) = build raw? (b.take e) rest := by
  rw [build, readAll_of_readsAs reads, build]
  cases readAll raw? rest <;> rfl

/-- An escaped text that ends is taken as the text. -/
theorem build_escapeText (data : String) (b : Builder) {rest : List Char} (ends : EndsText rest) :
    build none b ((escapeText data).toList ++ rest) = build none (b.addData data) rest := by
  by_cases empty : data = ""
  · subst empty
    rw [Builder.addData_empty]
    rfl
  · have shown : (escapeText data).toList ≠ [] := fun h =>
      empty ((escapeText_eq_nil_iff data).1 h)
    have event : dataEvent none (escapeText data).toList = .data data := by
      simp [dataEvent, decodeRefs_escapeText]
    rw [build, ends _ shown (not_mem_escapeText data), event, build,
      ← Builder.addText_eq_addData b empty]
    cases readAll none rest <;> rfl

/-- In raw text, the text before a construct is taken as it stands. -/
theorem take_dataEvent_raw (tag : String) (b : Builder) (before : List Char) :
    (if before.isEmpty then b else b.take (dataEvent (some tag) before)) =
      b.addData (String.ofList before) := by
  cases before with
  | nil => exact b.addData_empty.symm
  | cons c cs =>
    have nonempty : String.ofList (c :: cs) ≠ "" := by simp
    exact b.addText_eq_addData nonempty

section RawText

variable {tag : String} (raw : isRawText tag = true)

include raw

/-- Text in which the scanner does not stop is taken in one piece. -/
theorem build_rawText_of_none {data : List Char} (clear : cutAt (closeRaw tag) data = none)
    (b : Builder) (rest : List Char) :
    build (some tag) b (data ++ ((endTag tag).toList ++ rest)) =
      build none ((b.addData (String.ofList data)).take (.endTag tag)) rest := by
  have written : (endTag tag).toList ++ rest = '<' :: '/' :: (tag.toList ++ '>' :: rest) := by
    simp [toList_endTag]
  have next : nextConstruct (some tag) (data ++ ((endTag tag).toList ++ rest)) =
      some (data, '<' :: '/' :: (tag.toList ++ '>' :: rest)) := by
    rw [nextConstruct, cutAt_closeRaw_of_none raw clear, written]
    rfl
  have reads : scanConstruct (some tag) ('/' :: (tag.toList ++ '>' :: rest)) =
      .ok (some ⟨[.endTag tag], none, rest⟩) :=
    congrArg Except.ok (scanEndTag_endTag raw rest)
  rw [build_construct next reads (by
    simp only [List.length_append, written, List.length_cons]
    omega), take_dataEvent_raw]
  rfl

/-- Where the scanner stops at what is no end tag, it takes that as text and goes on behind it. -/
theorem build_rawText_of_some {data before from_ after : List Char}
    (cut : cutAt (closeRaw tag) data = some (before, from_, after))
    (noEnd : holdsEnd tag data = false) (b : Builder) (rest : List Char) :
    ∃ part, part ≠ [] ∧ data = part ++ after ∧
      build (some tag) b (data ++ ((endTag tag).toList ++ rest)) =
        build (some tag) (b.addData (String.ofList part))
          (after ++ ((endTag tag).toList ++ rest)) := by
  have cut' := cutAt_closeRaw_of_some raw cut rest
  obtain ⟨split, hit, -⟩ := cutAt_eq_some cut
  obtain ⟨inside, rfl, -, noBracket⟩ := closeRaw_eq_some raw hit
  rw [holdsEnd_eq_false_iff] at noEnd
  have fake := isEndOf_bracket (List.cons_ne_nil _ _) (noEnd _ ⟨before, split.symm⟩)
    ('/' :: (tag.toList ++ '>' :: rest))
  have written : (endTag tag).toList ++ rest = '<' :: '/' :: (tag.toList ++ '>' :: rest) := by
    simp [toList_endTag]
  rw [← written] at fake
  generalize htail : (endTag tag).toList ++ rest = tail at *
  simp only [List.cons_append, List.append_assoc] at cut' fake
  have next : nextConstruct (some tag) (data ++ tail) =
      some (before, '<' :: '/' :: (inside ++ '>' :: (after ++ tail))) := by
    rw [nextConstruct, cut']
    rfl
  have reads : scanConstruct (some tag) ('/' :: (inside ++ '>' :: (after ++ tail))) =
      .ok (some ⟨[.data (String.ofList ('<' :: '/' :: inside ++ ['>']))], some tag,
        after ++ tail⟩) := by
    rw [scanConstruct, scanEndTag_raw noBracket, fake, if_neg Bool.false_ne_true]
  have size := congrArg List.length split
  simp only [List.length_append, List.length_cons] at size
  refine ⟨before ++ ('<' :: '/' :: inside ++ ['>']), by simp, by rw [split]; simp, ?_⟩
  rw [build_construct next reads (by simp only [List.length_append]; omega), take_dataEvent_raw]
  change build (some tag) ((b.addData (String.ofList before)).addText _) (after ++ tail) = _
  rw [Builder.addText_eq_addData _ (by simp), Builder.addData_addData, ← String.ofList_append]

/-- The text of a raw text element is taken as it stands, up to the end tag of the element. -/
theorem build_rawText (rest : List Char) : ∀ (bound : Nat) (data : List Char),
    data.length ≤ bound → holdsEnd tag data = false → ∀ b : Builder,
      build (some tag) b (data ++ ((endTag tag).toList ++ rest)) =
        build none ((b.addData (String.ofList data)).take (.endTag tag)) rest := by
  intro bound
  induction bound with
  | zero =>
    intro data short _ b
    obtain rfl := List.length_eq_zero_iff.1 (Nat.le_zero.1 short)
    exact build_rawText_of_none raw rfl b rest
  | succ bound ih =>
    intro data short noEnd b
    cases cut : cutAt (closeRaw tag) data with
    | none => exact build_rawText_of_none raw cut b rest
    | some parts =>
      obtain ⟨before, from_, after⟩ := parts
      obtain ⟨part, nonempty, rfl, taken⟩ := build_rawText_of_some raw cut noEnd b rest
      have shorter := List.length_pos_iff.2 nonempty
      rw [List.length_append] at short
      rw [holdsEnd_eq_false_iff] at noEnd
      have later := ih after (by omega) (holdsEnd_eq_false_iff.2 fun left suffix =>
        noEnd left (suffix.trans (List.suffix_append part _)))
      rw [taken, later, Builder.addData_addData, ← String.ofList_append]

end RawText

/-! ### Reading nodes -/

/-- What is written of a node other than a text begins with a tag, a comment or a directive. -/
theorem exists_readsAs_of_legible {n : Node} (legible : Legible n) (noText : isText n = false) :
    ∃ text more e raw?, (renderNode false n).toList = text ++ more ∧ ReadsAs text e raw? := by
  cases n with
  | text data => cases noText
  | comment data =>
    exact ⟨_, [], _, _, (List.append_nil _).symm, readsAs_comment legible⟩
  | directive data =>
    obtain ⟨e, reads, -⟩ := readsAs_directive legible
    exact ⟨_, [], _, _, (List.append_nil _).symm, reads⟩
  | element tag attrs cs =>
    have reads := readsAs_startTag legible.1 legible.2.1
    rw [renderNode]
    split
    · exact ⟨_, [], _, _, (List.append_nil _).symm, reads⟩
    · rw [String.toList_append, String.toList_append, List.append_assoc]
      exact ⟨_, _, _, _, rfl, reads⟩
  | fragment cs => cases legible
  | blank => cases legible

theorem endsText_of_legible {n : Node} (legible : Legible n) (noText : isText n = false)
    (rest : List Char) : EndsText ((renderNode false n).toList ++ rest) := by
  obtain ⟨text, more, e, raw?, written, reads⟩ := exists_readsAs_of_legible legible noText
  rw [written, List.append_assoc]
  exact endsText_of_readsAs reads _

theorem exists_eq_text {n : Node} (h : isText n = true) : ∃ data, n = .text data := by
  cases n with
  | text data => exact ⟨data, rfl⟩
  | _ => cases h

theorem isVoid_of_isRawText {tag : String} (raw : isRawText tag = true) : isVoid tag = false := by
  rcases isRawText_cases raw with rfl | rfl <;> decide

section Elements

variable {tag : String} {attrs : Attrs} {cs : List Node}

/-- An element with raw text is read as its start tag, its text and its end tag. -/
theorem build_rawElement (raw : isRawText tag = true)
    (legible : Legible (.element tag attrs cs)) (b : Builder) (rest : List Char) :
    build none b ((renderNode false (.element tag attrs cs)).toList ++ rest) =
      build none (b.reread (.element tag attrs cs)) rest := by
  obtain ⟨htag, names, -, noEnd⟩ := legible
  have opens := readsAs_startTag htag names
  rw [raw, if_pos rfl] at opens
  have written : (renderNode false (.element tag attrs cs)).toList ++ rest =
      (startTag tag attrs).toList ++
        ((renderNodes true cs).toList ++ ((endTag tag).toList ++ rest)) := by
    simp [renderNode, isVoid_of_isRawText raw, raw, String.toList_append]
  rw [written, build_of_readsAs opens, build_rawText raw rest _ _ le_rfl (noEnd raw),
    String.ofList_toList, Builder.reread]
  simp [isVoid_of_isRawText raw, raw]

/-- An element is read as its start tag, what is between its tags, and its end tag. -/
theorem build_element (raw : isRawText tag = false)
    (legible : Legible (.element tag attrs cs)) {b : Builder}
    (inside : ∀ rest, EndsText rest →
      build none (b.take (.startTag tag (reportedAttrs attrs)))
          ((renderNodes false cs).toList ++ rest) =
        build none ((b.take (.startTag tag (reportedAttrs attrs))).rereadAll cs) rest)
    (rest : List Char) :
    build none b ((renderNode false (.element tag attrs cs)).toList ++ rest) =
      build none (b.reread (.element tag attrs cs)) rest := by
  obtain ⟨htag, names, -⟩ := legible
  have opens := readsAs_startTag htag names
  rw [raw, if_neg Bool.false_ne_true] at opens
  have closes := readsAs_endTag htag
  rw [renderNode, Builder.reread]
  split
  · exact build_of_readsAs opens b rest
  · rw [raw, String.toList_append, String.toList_append, List.append_assoc, List.append_assoc,
      build_of_readsAs opens, inside _ (endsText_of_readsAs closes rest), build_of_readsAs closes]
    rfl

end Elements

mutual

/-- A node that is no text is read by itself, whatever follows it. -/
theorem build_node : ∀ (n : Node) (b : Builder) (rest : List Char),
    (∀ m ∈ n.preorder, Legible m) → isText n = false →
      build none b ((renderNode false n).toList ++ rest) = build none (b.reread n) rest
  | .comment data, b, rest, legible, _ => by
    have head := legible (.comment data) (by simp [Node.preorder])
    exact build_of_readsAs (readsAs_comment head) b rest
  | .directive data, b, rest, legible, _ => by
    have head := legible (.directive data) (by simp [Node.preorder])
    obtain ⟨e, reads, taken⟩ := readsAs_directive head
    exact (build_of_readsAs reads b rest).trans (by rw [taken]; rfl)
  | .element tag attrs cs, b, rest, legible, _ => by
    have head := legible (.element tag attrs cs) (by simp [Node.preorder])
    cases raw : isRawText tag with
    | true => exact build_rawElement raw head b rest
    | false =>
      refine build_element raw head (fun rest ends => ?_) rest
      have inside := build_nodes cs "" (b.take (.startTag tag (reportedAttrs attrs))) rest
        (fun m hm => legible m (by simp [Node.preorder, hm])) ends
      rwa [Builder.addData_empty] at inside
  | .fragment cs, _, _, legible, _ => absurd (legible (.fragment cs) (by simp [Node.preorder])) id
  | .blank, _, _, legible, _ => absurd (legible .blank (by simp [Node.preorder])) id

/-- Nodes are read after the text that stands before them. -/
theorem build_nodes : ∀ (ns : List Node) (before : String) (b : Builder) (rest : List Char),
    (∀ m ∈ Node.preorders ns, Legible m) → EndsText rest →
      build none b ((escapeText before).toList ++ ((renderNodes false ns).toList ++ rest)) =
        build none ((b.addData before).rereadAll ns) rest
  | [], before, b, rest, _, ends => build_escapeText before b ends
  | n :: ns, before, b, rest, legible, ends => by
    have legible_ns : ∀ m ∈ Node.preorders ns, Legible m := fun m hm =>
      legible m (by simp [Node.preorders, hm])
    cases htext : isText n with
    | true =>
      obtain ⟨data, rfl⟩ := exists_eq_text htext
      have written : (escapeText before).toList ++
          ((renderNodes false (.text data :: ns)).toList ++ rest) =
          (escapeText (before ++ data)).toList ++ ((renderNodes false ns).toList ++ rest) := by
        simp [renderNodes, renderNode, escapeText, String.toList_append]
      rw [written, build_nodes ns (before ++ data) b rest legible_ns ends,
        ← Builder.addData_addData]
      rfl
    | false =>
      have legible_n : ∀ m ∈ n.preorder, Legible m := fun m hm =>
        legible m (by simp [Node.preorders, hm])
      have later := build_nodes ns "" ((b.addData before).reread n) rest legible_ns ends
      rw [Builder.addData_empty] at later
      rw [renderNodes, String.toList_append, List.append_assoc,
        build_escapeText before b
          (endsText_of_legible (legible_n n n.mem_preorder_self) htext _),
        build_node n _ _ legible_n htext]
      exact later

end

/-- A legible forest that is written can be read, by the builder that takes one node after
another. -/
theorem parse_render_of_legible {t : List Node} (legible : ∀ n ∈ Node.preorders t, Legible n) :
    parse (render t) = .ok (({} : Builder).rereadAll t).tree := by
  have reads := build_nodes t "" {} [] legible endsText_nil
  rw [Builder.addData_empty, build_nil, List.append_nil] at reads
  rw [parse_eq_build, render]
  change (build none {} ([] ++ (renderNodes false t).toList)).map Builder.tree = _
  rw [List.nil_append]
  exact congrArg (Except.map Builder.tree) reads

end HtmlTemplate.Markup
