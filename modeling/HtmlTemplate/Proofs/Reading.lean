import HtmlTemplate.Markup.Builder
import HtmlTemplate.Proofs.WrittenMarks
import HtmlTemplate.Proofs.WrittenTags

/-!
# Reading in parts

The events of a text are those of its first construct and then those of the rest
(`readAll_construct`). What the writer writes is read as one construct whatever follows it
(`ReadsAs`), and the text in front of such a construct is reported by itself (`EndsText`).
-/

namespace HtmlTemplate.Markup

open HtmlTemplate.Text

theorem Builder.takeAll_cons (b : Builder) (e : Event) (es : List Event) :
    b.takeAll (e :: es) = (b.take e).takeAll es :=
  rfl

theorem Builder.takeAll_append (b : Builder) (es es' : List Event) :
    b.takeAll (es ++ es') = (b.takeAll es).takeAll es' :=
  List.foldl_append

/-! ### Events of a text -/

/-- All events of a text: what a scanner reports that reads it in one chunk, and what it reports at
the end of the source. -/
def readAll (raw? : Option String) (cs : List Char) : Except ScanError (List Event) :=
  match scan false raw? cs with
  | .error e => .error e
  | .ok (reported, s) =>
    match scan true s.raw? s.pending with
    | .error e => .error e
    | .ok (more, _) => .ok (reported ++ more)

theorem parse_eq_readAll (source : String) :
    parse source =
      (readAll none source.toList).map fun es => (({} : Builder).takeAll es).tree := by
  unfold parse parseChunks parseChunks.go readAll
  change (match scan false none source.toList with | .error e => _ | .ok (reported, s) => _) = _
  cases scan false none source.toList with
  | error e => rfl
  | ok out =>
    obtain ⟨reported, s⟩ := out
    dsimp only
    unfold parseChunks.go
    change (match scan true s.raw? (s.pending ++ []) with | .error e => _ | .ok (more, _) => _) = _
    rw [List.append_nil]
    cases scan true s.raw? s.pending with
    | error e => rfl
    | ok out =>
      obtain ⟨more, s'⟩ := out
      simp [Except.map, Builder.takeAll_append]

theorem scan_construct {final : Bool} {raw? : Option String} {cs before body : List Char}
    {s : Scanned} (next : nextConstruct raw? cs = some (before, '<' :: body))
    (reads : scanConstruct raw? body = .ok (some s)) (shorter : s.rest.length < cs.length) :
    scan final raw? cs = (scan final s.raw? s.rest).map fun out =>
      ((if before.isEmpty then [] else [dataEvent raw? before]) ++ s.events ++ out.1, out.2) := by
  have nonempty : cs.isEmpty = false := by
    cases cs with
    | nil => simp at shorter
    | cons c cs => rfl
  rw [scan]
  simp only [nonempty, Bool.false_eq_true, if_false, next, List.drop_one, List.tail_cons, reads,
    shorter, dite_true]
  cases scan final s.raw? s.rest <;> rfl

/-- The first construct of a text is reported after the text before it, and then what follows. -/
theorem readAll_construct {raw? : Option String} {cs before body : List Char}
    {s : Scanned} (next : nextConstruct raw? cs = some (before, '<' :: body))
    (reads : scanConstruct raw? body = .ok (some s)) (shorter : s.rest.length < cs.length) :
    readAll raw? cs = (readAll s.raw? s.rest).map fun more =>
      (if before.isEmpty then [] else [dataEvent raw? before]) ++ s.events ++ more := by
  unfold readAll
  rw [scan_construct next reads shorter]
  cases scan false s.raw? s.rest with
  | error e => rfl
  | ok out =>
    obtain ⟨reported, state⟩ := out
    dsimp only [Except.map]
    cases scan true state.raw? state.pending with
    | error e => rfl
    | ok out => simp

/-- A text is read as one construct, whatever follows it. -/
def ReadsAs (text : List Char) (e : Event) (raw? : Option String) : Prop :=
  ∃ body, text = '<' :: body ∧
    ∀ rest, scanConstruct none (body ++ rest) = .ok (some ⟨[e], raw?, rest⟩)

/-- Text before this one is reported by itself. -/
def EndsText (rest : List Char) : Prop :=
  ∀ data, data ≠ [] → '<' ∉ data →
    readAll none (data ++ rest) = (readAll none rest).map (dataEvent none data :: ·)

theorem nextConstruct_none_append {data : List Char} (h : '<' ∉ data) (body : List Char) :
    nextConstruct none (data ++ '<' :: body) = some (data, '<' :: body) := by
  simp [nextConstruct, cutAt_closeChar h]

theorem readAll_of_readsAs {text : List Char} {e : Event} {raw? : Option String}
    (reads : ReadsAs text e raw?) (rest : List Char) :
    readAll none (text ++ rest) = (readAll raw? rest).map (e :: ·) := by
  obtain ⟨body, rfl, construct⟩ := reads
  have next : nextConstruct none ('<' :: (body ++ rest)) = some ([], '<' :: (body ++ rest)) :=
    nextConstruct_none_append List.not_mem_nil _
  rw [List.cons_append, readAll_construct next (construct rest)
    (by simp only [List.length_cons, List.length_append]; omega)]
  rfl

theorem endsText_of_readsAs {text : List Char} {e : Event} {raw? : Option String}
    (reads : ReadsAs text e raw?) (rest : List Char) : EndsText (text ++ rest) := by
  intro data nonempty noBracket
  rw [readAll_of_readsAs reads]
  obtain ⟨body, rfl, construct⟩ := reads
  rw [List.cons_append, readAll_construct (nextConstruct_none_append noBracket _) (construct rest)
    (by simp only [List.length_cons, List.length_append]; omega)]
  have shown : data.isEmpty = false := by simpa using nonempty
  cases readAll raw? rest <;> simp [Except.map, shown]

/-- At the end of a source no text waits any longer. -/
theorem endsText_nil : EndsText [] := by
  intro data nonempty noBracket
  have shown : data.isEmpty = false := by simpa using nonempty
  have next : nextConstruct none data = none := by
    simp [nextConstruct, cutAt_closeChar_eq_none_iff.2 noBracket]
  have empty (final : Bool) : scan final none [] = .ok ([], ⟨[], none⟩) := by
    rw [scan]
    rfl
  have atEnd : scan true none data = .ok ([dataEvent none data], ⟨[], none⟩) := by
    rw [scan]
    simp [shown, next]
  have before : scan false none data =
      if awaitsRef data then .ok ([], ⟨data, none⟩)
      else .ok ([dataEvent none data], ⟨[], none⟩) := by
    rw [scan]
    simp [shown, next]
  rw [List.append_nil]
  unfold readAll
  rw [before]
  cases awaitsRef data <;> simp [empty, atEnd, Except.map]

/-! ### Reading what is written -/

theorem toList_startTag (tag : String) (attrs : Attrs) :
    (startTag tag attrs).toList = '<' :: (tag.toList ++ ((renderAttrs attrs).toList ++ ['>'])) := by
  simp [startTag, String.toList_append]

theorem scanConstruct_of_isAlpha {c : Char} (h : c.isAlpha = true) (raw? : Option String)
    (cs : List Char) : scanConstruct raw? (c :: cs) = .ok (scanStartTag (c :: cs)) := by
  unfold scanConstruct
  split
  · rename_i empty
    cases empty
  -- None of the marks that other constructs begin with is a letter.
  iterate 3
    · rename_i same
      cases same
      exact absurd h (by decide)
  · rename_i same
    cases same
    rw [if_pos h]

/-- A start tag is read up to its bracket, and what follows as the text of its element. -/
theorem readsAs_startTag {tag : String} (htag : ReadableTag tag) {attrs : Attrs}
    (names : ∀ a ∈ attrs, ReadableName a.1) :
    ReadsAs (startTag tag attrs).toList (.startTag tag (reportedAttrs attrs))
      (if isRawText tag then some tag else none) := by
  refine ⟨_, toList_startTag tag attrs, fun rest => ?_⟩
  have reads := scanStartTag_written htag names rest
  obtain ⟨c, cs, chars, alpha⟩ := htag.first
  simp only [chars, List.cons_append, List.append_assoc, List.nil_append] at reads ⊢
  rw [scanConstruct_of_isAlpha alpha, reads]

theorem readsAs_endTag {tag : String} (htag : ReadableTag tag) :
    ReadsAs (endTag tag).toList (.endTag (endName tag)) none := by
  refine ⟨_, toList_endTag tag, fun rest => ?_⟩
  rw [List.cons_append, scanConstruct, List.append_assoc, List.singleton_append,
    scanEndTag_written htag]

theorem readsAs_comment {data : String} (h : cutAt closeComment data.toList = none) :
    ReadsAs ("<!--" ++ data ++ "-->").toList (.comment data) none := by
  refine ⟨'!' :: '-' :: '-' :: (data.toList ++ ['-', '-', '>']), by simp [String.toList_append],
    fun rest => ?_⟩
  have reads := scanDeclaration_comment h rest
  rw [String.ofList_toList] at reads
  simpa [scanConstruct] using reads

end HtmlTemplate.Markup
