import HtmlTemplate.Proofs.CollapsedText
import Mathlib.Data.List.DropRight

/-!
# Layout of what was laid out

What is read of lines is laid out in the same lines. Of two texts that are joined on the way one has
blanks only, so that the words are those of the other (`layoutNodes_joinData`). A node on a line of
its own is read as one node (`echoes_laid`), which is laid out like the node (`layoutNode_settled`):
whether an element stays on its line does not depend on blanks, and what is collapsed and trimmed
stays as it is when it is collapsed and trimmed again. So formatting twice is formatting once
(`format_format`), unless an element has a tag that its end tag is not read with.
-/

namespace HtmlTemplate.Markup

open HtmlTemplate.Text Node

/-! ### Content on a line -/

theorem inlinedAll_eq_map (ns : List Node) : inlinedAll ns = ns.map inlined := by
  induction ns with
  | nil => rfl
  | cons n ns ih => rw [inlinedAll, ih, List.map_cons]

theorem inlinedAll_append (ms ns : List Node) :
    inlinedAll (ms ++ ns) = inlinedAll ms ++ inlinedAll ns := by
  simp only [inlinedAll_eq_map, List.map_append]

theorem inlinedAll_reverse (ns : List Node) : inlinedAll ns.reverse = (inlinedAll ns).reverse := by
  simp only [inlinedAll_eq_map, List.map_reverse]

mutual

theorem inlined_inlined : ∀ n : Node, inlined (inlined n) = inlined n
  | .text data => by rw [inlined, inlined, (snug_collapse data).collapse_eq]
  | .element tag attrs cs => by rw [inlined, inlined, inlinedAll_inlinedAll cs]
  | .comment _ | .directive _ | .fragment _ | .blank => rfl

/-- What stands on its line stays as it is. -/
theorem inlinedAll_inlinedAll : ∀ ns : List Node, inlinedAll (inlinedAll ns) = inlinedAll ns
  | [] => rfl
  | n :: ns => by
    rw [inlinedAll, inlinedAll, inlined_inlined n, inlinedAll_inlinedAll ns]

end

theorem inlinedAll_cons_iff {n : Node} {ns : List Node} :
    inlinedAll (n :: ns) = n :: ns ↔ inlined n = n ∧ inlinedAll ns = ns := by
  rw [inlinedAll, List.cons.injEq]

theorem inlined_text_iff {data : String} : inlined (.text data) = .text data ↔ Snug data := by
  rw [inlined, Node.text.injEq, snug_iff]

theorem inlinedAll_trimFront {cut : String → String} (snug : ∀ data, Snug data → Snug (cut data))
    {ns : List Node} (h : inlinedAll ns = ns) :
    inlinedAll (trimFront cut ns) = trimFront cut ns := by
  fun_induction trimFront cut ns with
  | case1 data ns _ ih => exact ih (inlinedAll_cons_iff.1 h).2
  | case2 data ns _ =>
    obtain ⟨first, rest⟩ := inlinedAll_cons_iff.1 h
    exact inlinedAll_cons_iff.2 ⟨inlined_text_iff.2 (snug data (inlined_text_iff.1 first)), rest⟩
  | case3 ns _ => exact h

theorem inlinedAll_trimmed {ns : List Node} (h : inlinedAll ns = ns) :
    inlinedAll (trimmed ns) = trimmed ns := by
  have front := inlinedAll_trimFront (fun _ => snug_cutStart) h
  have turned : inlinedAll (trimFront cutStart ns).reverse = (trimFront cutStart ns).reverse := by
    rw [inlinedAll_reverse, front]
  rw [trimmed, inlinedAll_reverse, inlinedAll_trimFront (fun _ => snug_cutEnd) turned]

mutual

theorem inlinedAll_erased_nothing : ∀ n : Node, inlined n = n →
    inlinedAll (erased nothing n).toList = (erased nothing n).toList
  | .text data, h => by
    rw [erased, without_nothing, textNode]
    split
    · rfl
    · exact inlinedAll_cons_iff.2 ⟨h, rfl⟩
  | .element tag attrs cs, h => by
    have inside : inlinedAll cs = cs := by simpa [inlined] using h
    rw [erased, erasedIn_nothing]
    refine inlinedAll_cons_iff.2 ⟨?_, rfl⟩
    rw [inlined, inlinedAll_erasedAll_nothing cs inside]
  | .comment _, _ | .directive _, _ | .fragment _, _ | .blank, _ => rfl

theorem inlinedAll_erasedAll_nothing : ∀ ns : List Node, inlinedAll ns = ns →
    inlinedAll (erasedAll nothing ns) = erasedAll nothing ns
  | [], _ => rfl
  | n :: ns, h => by
    obtain ⟨first, rest⟩ := inlinedAll_cons_iff.1 h
    rw [erasedAll, inlinedAll_append, inlinedAll_erased_nothing n first,
      inlinedAll_erasedAll_nothing ns rest]

end

theorem allInline_eq_all (ns : List Node) : allInline ns = ns.all isInlineNode := by
  induction ns with
  | nil => rfl
  | cons n ns ih => rw [allInline, ih, List.all_cons]

theorem allInline_reverse (ns : List Node) : allInline ns.reverse = allInline ns := by
  simp only [allInline_eq_all, List.all_reverse]

mutual

theorem isInlineNode_inlined : ∀ n : Node, isInlineNode (inlined n) = isInlineNode n
  | .text _ => rfl
  | .element tag attrs cs => by
    rw [inlined, isInlineNode, isInlineNode, allInline_inlinedAll cs]
  | .comment _ | .directive _ | .fragment _ | .blank => rfl

theorem allInline_inlinedAll : ∀ ns : List Node, allInline (inlinedAll ns) = allInline ns
  | [] => rfl
  | n :: ns => by
    rw [inlinedAll, allInline, allInline, isInlineNode_inlined n, allInline_inlinedAll ns]

end

theorem allInline_trimFront (cut : String → String) (ns : List Node) :
    allInline (trimFront cut ns) = allInline ns := by
  fun_induction trimFront cut ns with
  | case1 data ns _ ih => exact ih
  | case2 data ns _ => rfl
  | case3 ns _ => rfl

theorem allInline_trimmed (ns : List Node) : allInline (trimmed ns) = allInline ns := by
  rw [trimmed, allInline_reverse, allInline_trimFront, allInline_reverse, allInline_trimFront]

mutual

theorem allInline_erased : ∀ (p : Char → Bool) (n : Node),
    allInline (erased p n).toList = isInlineNode n
  | p, .text data => by
    rw [erased, textNode]
    split <;> rfl
  | p, .element tag attrs cs => by
    simp [erased, allInline, isInlineNode, allInline_erasedAll (erasedIn tag p) cs]
  | p, .comment _ | p, .directive _ | p, .fragment _ | p, .blank => rfl

/-- Whether all is inline does not depend on characters of texts. -/
theorem allInline_erasedAll : ∀ (p : Char → Bool) (ns : List Node),
    allInline (erasedAll p ns) = allInline ns
  | _, [] => rfl
  | p, n :: ns => by
    have first := allInline_erased p n
    have rest := allInline_erasedAll p ns
    rw [allInline_eq_all] at first rest ⊢
    rw [erasedAll, List.all_append, first, rest, allInline]

end

theorem isText_inlined (n : Node) : isText (inlined n) = isText n := by cases n <;> rfl

mutual

theorem spread_children_inlined : ∀ n : Node, Spread n.children → Spread (inlined n).children
  | .text _, h | .comment _, h | .directive _, h | .fragment _, h | .blank, h => h
  | .element _ _ cs, h => spread_inlinedAll cs h

theorem spread_inlinedAll : ∀ ns : List Node, Spread ns → Spread (inlinedAll ns)
  | [], _ => spread_nil
  | n :: ns, h => by
    refine (spread_inlinedAll ns h.tail).cons (fun text => ?_)
      (spread_children_inlined n h.children)
    rw [isText_inlined] at text
    have behind := (apart_cons_iff.1 h.top).1 text
    cases ns with
    | nil => rfl
    | cons m ns => simpa [startsWithText, inlinedAll, isText_inlined] using behind

end

theorem Spread.trimFront {ns : List Node} (h : Spread ns) (cut : String → String) :
    Spread (trimFront cut ns) := by
  fun_induction Markup.trimFront cut ns with
  | case1 data ns _ ih => exact ih h.tail
  | case2 data ns _ => exact h.tail.cons (apart_cons_iff.1 h.top).1 spread_nil
  | case3 ns _ => exact h

theorem Spread.trimmed {ns : List Node} (h : Spread ns) : Spread (trimmed ns) :=
  ((h.trimFront cutStart).reverse.trimFront cutEnd).reverse

theorem dropWhile_trim (cs : List Char) : (trim cs).dropWhile isBlank = trim cs := by
  obtain ⟨cut, split⟩ : trim cs <+: cs.dropWhile isBlank := List.rdropWhile_prefix isBlank _
  have start := List.head?_dropWhile_not isBlank cs
  rw [← split] at start
  cases h : trim cs with
  | nil => rfl
  | cons c ds =>
    have visible : isBlank c = false := by simpa [h] using start
    rw [List.dropWhile_cons_of_neg (by simp [visible])]

theorem strip_strip (s : String) : strip (strip s) = strip s := by
  rw [strip, strip, String.toList_ofList, trim, trimWhile, dropWhile_trim]
  exact congrArg String.ofList (List.rdropWhile_idempotent isBlank (s.toList.dropWhile isBlank))

/-- The content of an element that stays on its line, as it is read there. -/
def onLine (cs : List Node) : List Node := erasedAll nothing (trimmed (inlinedAll cs))

theorem allInline_onLine (cs : List Node) : allInline (onLine cs) = allInline cs := by
  rw [onLine, allInline_erasedAll, allInline_trimmed, allInline_inlinedAll]

/-- What is read of a forest is written like it. -/
theorem renderNodes_reread {ns : List Node} (firm : Every Firm ns) :
    renderNodes false (echoes [] ns).reverse = renderNodes false ns := by
  rw [renderNodes_echoes ns [] fun n hn => (firm n hn).fit,
    rewordedAll_of_plain ns fun n hn => (firm n hn).plain]
  exact String.empty_append

theorem reread_of_spread {ns : List Node} (firm : Every Firm ns) (spread : Spread ns) :
    (echoes [] ns).reverse = erasedAll nothing ns := by
  rw [echoes_of_spread ns [] firm spread fun _ => rfl, List.append_nil, List.reverse_reverse]

/-- The content of an element that stays on its line is read without its empty texts. -/
theorem reread_trimmed {cs : List Node} (inline : allInline cs = true) (firm : Every Firm cs)
    (spread : Spread cs) : (echoes [] (trimmed (inlinedAll cs))).reverse = onLine cs :=
  reread_of_spread (relaid_inlinedAll cs inline firm).trimmed.firm
    (spread_inlinedAll cs spread).trimmed

theorem strip_renderInlines_onLine {cs : List Node} (inline : allInline cs = true)
    (firm : Every Firm cs) (spread : Spread cs) :
    strip (renderInlines (onLine cs)) = strip (renderInlines cs) := by
  have snug : inlinedAll (onLine cs) = onLine cs :=
    inlinedAll_erasedAll_nothing _ (inlinedAll_trimmed (inlinedAll_inlinedAll cs))
  have firm' : Every Firm (trimmed (inlinedAll cs)) :=
    (relaid_inlinedAll cs inline firm).trimmed.firm
  calc strip (renderInlines (onLine cs))
      = strip (renderNodes false (onLine cs)) := by
        rw [← renderNodes_inlinedAll _ ((allInline_onLine cs).trans inline), snug]
    _ = strip (strip (renderNodes false (inlinedAll cs))) := by
        rw [← reread_trimmed inline firm spread, renderNodes_reread firm',
          renderNodes_trimmed (isElement_of_mem_inlinedAll inline)]
    _ = strip (renderInlines cs) := by rw [strip_strip, renderNodes_inlinedAll cs inline]

/-! ### Lines that are read -/

/-- The content that an element on a line at a depth is laid out with. -/
def content (depth : Nat) (tag : String) (cs : List Node) : List Node :=
  if isVerbatim tag || (isVoid tag && cs.isEmpty) then cs
  else if allInline cs then trimmed (inlinedAll cs)
  else .text "\n" :: laidAll (depth + 1) cs ++ [.text (indentation depth)]

/-- What a node on a line at a depth is read as. -/
def settled (depth : Nat) : Node → Node
  | .element tag attrs cs => .element tag attrs (echoes [] (content depth tag cs)).reverse
  | n => n

theorem laid_element (depth : Nat) (tag : String) (attrs : Attrs) (cs : List Node) :
    laid depth (.element tag attrs cs) =
      line depth (.element tag attrs (content depth tag cs)) := by
  rw [laid, content]
  split_ifs <;> rfl

theorem firm_content {depth : Nat} {tag : String} {attrs : Attrs} {cs : List Node}
    (firm : Every Firm [.element tag attrs cs]) :
    Every Firm [.element tag attrs (content depth tag cs)] := by
  have firm' := (relaid_laid depth _ firm).firm
  rw [laid_element] at firm'
  exact firm'.of_mem (by simp [line])

theorem joinData_lineBreak {n : Node} (noText : isText n = false) (before : List Node) :
    Builder.joinData (n :: before) "\n" = .text "\n" :: n :: before :=
  joinData_of_noText (by simpa [startsWithText] using noText) "\n"

/-- An element is read with what is read of its content. -/
theorem echo_element {tag : String} {attrs : Attrs} {cs : List Node}
    (firm : Every Firm [.element tag attrs cs]) (spread : isRawText tag = true → Spread cs)
    (before : List Node) :
    echo before (.element tag attrs cs) = .element tag attrs (echoes [] cs).reverse :: before := by
  obtain ⟨head, inside⟩ := every_element_iff.1 firm
  rw [echo]
  split_ifs with void raw
  · obtain rfl : cs = [] := head.fit.void tag rfl void
    rfl
  · have texts : ∀ c ∈ cs, isText c = true := head.fit.raw tag rfl raw
    rw [joinData_rawContent texts (spread raw).top, reread_of_spread inside (spread raw)]
  · rfl

/-- A node on a line of its own is read as one node, with blanks around it. -/
theorem echoes_laid {depth : Nat} {n : Node} (firm : Every Firm [n]) (spread : Spread n.children)
    (noText : isText n = false) (before : List Node) : echoes before (laid depth n) =
      .text "\n" :: settled depth n :: Builder.joinData before (indentation depth) := by
  cases n with
  | text data => cases noText
  | comment data => exact joinData_lineBreak noText _
  | directive data =>
    have plain : isConditional data = false := firm.self.plain
    simp only [laid, line, echoes, echo, rereadData, plain, Bool.false_eq_true, if_false]
    exact joinData_lineBreak noText _
  | element tag attrs cs =>
    have whole (raw : isRawText tag = true) : Spread (content depth tag cs) := by
      rw [content, if_pos (by rw [isVerbatim_of_isRawText raw]; rfl)]
      exact spread
    simp only [laid_element, line, echoes, echo_element (firm_content firm) whole]
    exact joinData_lineBreak rfl _
  | fragment cs => exact absurd firm.self.fit.legible id
  | blank => exact absurd firm.self.fit.legible id

/-! ### Lines of lines -/

theorem layoutNodes_append (depth : Nat) (ms ns : List Node) :
    layoutNodes depth (ms ++ ns) = layoutNodes depth ms ++ layoutNodes depth ns := by
  induction ms with
  | nil => rfl
  | cons m ms ih => simp [layoutNodes, ih]

theorem layoutNodes_reverse_cons (depth : Nat) (n : Node) (before : List Node) :
    layoutNodes depth (n :: before).reverse =
      layoutNodes depth before.reverse ++ layoutNode depth n := by
  simp [layoutNodes_append, layoutNodes]

theorem layoutNode_text_congr {depth : Nat} {data data' : String}
    (h : squeeze data = squeeze data') : layoutNode depth (.text data) = layoutNode depth (.text data') := by
  simp only [layoutNode, h]

theorem layoutNode_blanks (depth : Nat) {data : String} (blank : isBlankText data = true) :
    layoutNode depth (.text data) = [] := by
  simp [layoutNode, squeeze_eq_empty_iff.2 blank]

/-- A text that a forest starts with has only blanks. -/
def StartsBlank (ns : List Node) : Prop :=
  ∀ data rest, ns = .text data :: rest → isBlankText data = true

theorem isBlankText_indentation (depth : Nat) : isBlankText (indentation depth) = true := by
  rw [← squeeze_eq_empty_iff, squeeze, words_of_blanks]
  · rfl
  · rw [List.all_eq_true]
    intro c hc
    obtain rfl : c = ' ' := List.eq_of_mem_replicate (by simpa [indentation] using hc)
    decide

theorem isBlankText_lineBreak : isBlankText "\n" = true := by decide

theorem startsBlank_nil : StartsBlank [] := fun _ _ h => absurd h.symm (List.cons_ne_nil _ _)

theorem startsBlank_lineBreak (ns : List Node) : StartsBlank (.text "\n" :: ns) := by
  rintro data rest h
  cases h
  exact isBlankText_lineBreak

/-- Joined texts have the lines of the texts when one of them has none. -/
theorem layoutNodes_joinData (depth : Nat) {before : List Node} {data : String}
    (blank : isBlankText data = true ∨ StartsBlank before) :
    layoutNodes depth (Builder.joinData before data).reverse =
      layoutNodes depth before.reverse ++ layoutNode depth (.text data) := by
  unfold Builder.joinData
  split_ifs with empty
  · subst empty
    have none : layoutNode depth (.text "") = [] := layoutNode_blanks depth rfl
    rw [none, List.append_nil]
  · split
    · rename_i last rest
      rw [layoutNodes_reverse_cons, layoutNodes_reverse_cons, List.append_assoc]
      refine congrArg _ ?_
      rcases blank with blank | starts
      · rw [layoutNode_blanks depth blank, List.append_nil]
        exact layoutNode_text_congr (squeeze_append_blanks last blank)
      · have first := starts last rest rfl
        rw [layoutNode_blanks depth first, List.nil_append]
        exact layoutNode_text_congr (squeeze_blanks_append first data)
    · rw [layoutNodes_reverse_cons]

/-- The content of an element on lines of its own is read with the blanks around it. -/
theorem echoes_lines (depth : Nat) (cs : List Node) :
    echoes [] (.text "\n" :: laidAll (depth + 1) cs ++ [.text (indentation depth)]) =
      Builder.joinData (echoes [.text "\n"] (laidAll (depth + 1) cs)) (indentation depth) := by
  rw [List.cons_append, echoes, echoes_append]
  rfl

theorem allInline_lines (depth : Nat) {cs : List Node} (firm : Every Firm cs) (spread : Spread cs) :
    allInline (echoes [] (.text "\n" :: laidAll (depth + 1) cs ++
      [.text (indentation depth)])).reverse = allInline cs := by
  have relaid :
      Relaid cs (.text "\n" :: laidAll (depth + 1) cs ++ [.text (indentation depth)]) := by
    have content := (relaid_laidAll (depth + 1) cs firm).append
      (relaid_blanks (without_indentation depth) (tidy_indentation depth))
    rw [List.append_nil] at content
    exact (relaid_blanks without_lineBreak tidy_lineBreak).append content
  rw [← allInline_erasedAll isBlank, erasedAll_reread spread firm relaid.firm relaid.same,
    allInline_erasedAll]

mutual

theorem layoutNode_settled : ∀ (depth : Nat) (n : Node), Every Firm [n] → Spread n.children →
    isText n = false → layoutNode depth (settled depth n) = layoutNode depth n
  | depth, .element tag attrs cs, firm, spread, _ => by
    obtain ⟨head, inside⟩ := every_element_iff.1 firm
    rw [settled, content, layoutNode.eq_def depth (.element tag attrs cs)]
    dsimp only
    split_ifs with whole inline
    · -- The content is laid out as it is, and what is read of it is written in the same way.
      have written : renderNode false (.element tag attrs (echoes [] cs).reverse) =
          renderNode false (.element tag attrs cs) := by
        have read := renderNodes_reread firm
        rw [echoes, echo_element firm fun _ => spread] at read
        simpa [echoes, renderNodes] using read
      have whole' : (isVerbatim tag || isVoid tag && (echoes [] cs).reverse.isEmpty) = true := by
        rcases Bool.or_eq_true_iff.1 whole with verbatim | void
        · rw [verbatim]
          rfl
        · rw [Bool.and_eq_true, List.isEmpty_iff] at void
          rw [void.2, void.1]
          exact Bool.or_true _
      rw [layoutNode, if_pos whole', written]
    · obtain ⟨loose, noVoid⟩ := head.notWhole whole
      rw [reread_trimmed inline inside spread, layoutNode, loose, noVoid, allInline_onLine, inline,
        strip_renderInlines_onLine inline inside spread]
      rfl
    · obtain ⟨loose, noVoid⟩ := head.notWhole whole
      have block : allInline cs = false := Bool.eq_false_iff.2 inline
      -- The line break behind the start tag is what the first line of the content comes behind.
      have lines := layoutNodes_echoes_laidAll (depth + 1) cs [.text "\n"] inside spread fun _ =>
        startsBlank_lineBreak []
      rw [layoutNode, loose, noVoid, allInline_lines depth inside spread, block, echoes_lines,
        layoutNodes_joinData (depth + 1) (.inl (isBlankText_indentation depth)), lines,
        layoutNode_blanks _ (isBlankText_indentation depth), List.append_nil]
      rfl
  | _, .text _, _, _, _ | _, .comment _, _, _, _ | _, .directive _, _, _, _
  | _, .fragment _, _, _, _ | _, .blank, _, _, _ => rfl

theorem layoutNodes_echoes_laid (depth : Nat) (n : Node) (before : List Node)
    (firm : Every Firm [n]) (spread : Spread n.children)
    (starts : isText n = true → StartsBlank before) :
    layoutNodes depth (echoes before (laid depth n)).reverse =
      layoutNodes depth before.reverse ++ layoutNode depth n := by
  cases text : isText n with
  | true =>
    obtain ⟨data, rfl⟩ := exists_eq_text text
    rw [laid]
    split_ifs with empty
    · rw [layoutNode, if_pos empty, List.append_nil]
      rfl
    · have same : squeeze (indentation depth ++ squeeze data ++ "\n") = squeeze data := by
        rw [squeeze_append_blanks _ isBlankText_lineBreak,
          squeeze_blanks_append (isBlankText_indentation depth), squeeze_squeeze]
      rw [echoes, echoes, echo, layoutNodes_joinData depth (.inr (starts rfl)),
        layoutNode_text_congr same]
  | false =>
    rw [echoes_laid firm spread text, layoutNodes_reverse_cons, layoutNodes_reverse_cons,
      layoutNode_settled depth n firm spread text,
      layoutNodes_joinData depth (.inl (isBlankText_indentation depth)),
      layoutNode_blanks depth (isBlankText_indentation depth),
      layoutNode_blanks depth isBlankText_lineBreak, List.append_nil, List.append_nil]

/-- What is read of the lines of a forest has the lines of the forest. -/
theorem layoutNodes_echoes_laidAll : ∀ (depth : Nat) (ns before : List Node), Every Firm ns →
    Spread ns → (startsWithText ns = true → StartsBlank before) →
      layoutNodes depth (echoes before (laidAll depth ns)).reverse =
        layoutNodes depth before.reverse ++ layoutNodes depth ns
  | depth, [], before, _, _, _ => by simp [laidAll, echoes, layoutNodes]
  | depth, n :: ns, before, firm, spread, gap => by
    obtain ⟨first, rest⟩ := every_cons_iff.1 firm
    -- Texts are apart, so that what the next text comes behind is the end of a line.
    have gap' : startsWithText ns = true → StartsBlank (echoes before (laid depth n)) := by
      intro text
      have noText : isText n = false := by
        cases h : isText n with
        | false => rfl
        | true => rw [(apart_cons_iff.1 spread.top).1 h] at text; cases text
      rw [echoes_laid first spread.children noText]
      exact startsBlank_lineBreak _
    rw [laidAll, echoes_append, layoutNodes_echoes_laidAll depth ns _ rest spread.tail gap',
      layoutNodes_echoes_laid depth n before first spread.children fun text =>
        gap (by simp [startsWithText, text]), layoutNodes, List.append_assoc]

end

/-! ### Formatting twice -/

/-- Where no marked section opens in a source and each element has a tag that its end tag is read
with, the nodes are read as they are written. -/
theorem firm_of_parse {source : String} {t : List Node} (reads : parse source = .ok t)
    (closed : ¬ OpensSection source.toList) (ends : EndsItself t) : Every Firm t := fun n hn =>
  ⟨fit_of_parse reads n hn, ends n hn, plain_of_parse reads closed n hn⟩

/-- A formatted source is read as what its lines are read as. -/
theorem parse_format {source : String} {t : List Node} (reads : parse source = .ok t)
    (firm : Every Firm t) : parse (format source).1 = .ok (echoes [] (laidAll 0 t)).reverse := by
  have firm' := (relaid_laidAll 0 t firm).firm
  have written : (format source).1 = render (laidAll 0 t) := by
    rw [format, reads, render, renderNodes_laidAll 0 t firm]
    rfl
  rw [written, parse_render_eq_echoes (fun n hn => (firm' n hn).fit.legible) fun n hn =>
    (firm' n hn).ends]

/-- When no marked section opens in a source and each element has a tag that its end tag is read
with, what was formatted is formatted already. -/
theorem format_format {source : String} (closed : ¬ OpensSection source.toList)
    (ends : ∀ t, parse source = .ok t → EndsItself t) :
    (format (format source).1).1 = (format source).1 := by
  cases reads : parse source with
  | error e =>
    have left : (format source).1 = source := by rw [format, reads]
    rw [left, left]
  | ok t =>
    have firm := firm_of_parse reads closed (ends t reads)
    have lines := layoutNodes_echoes_laidAll 0 t [] firm (spread_of_parse reads) fun _ =>
      startsBlank_nil
    rw [format, parse_format reads firm]
    dsimp only
    rw [layout, lines, format, reads]
    rfl

/-- Texts glued to elements, in an element that stays on its line and in one that does not. -/
def gluedSource : String := "<div><p>un<b>glued</b>!</p>re<i>cut</i></div>"

/-- The element of the source that stays on its line. -/
def gluedLine : Node :=
  .element "p" [] [.text "un", .element "b" [] [.text "glued"], .text "!"]

/-- The content of the source that comes on lines of its own. -/
def gluedLines : List Node := [gluedLine, .text "re", .element "i" [] [.text "cut"]]

theorem parse_gluedSource : parse gluedSource = .ok [.element "div" [] gluedLines] := by
  decide +kernel

theorem not_opensSection_gluedSource : ¬ OpensSection gluedSource.toList := by
  unfold OpensSection
  decide +kernel

theorem endsItself_gluedLines : EndsItself [.element "div" [] gluedLines] := by
  have table : ∀ n ∈ preorders [.element "div" [] gluedLines],
      n.tag?.all (fun tag => endName tag == tag) = true := by
    decide +kernel
  intro n hn tag named
  simpa [named] using table n hn

theorem format_format_gluedSource : ¬ OpensSection gluedSource.toList ∧
    (∀ t, parse gluedSource = .ok t → EndsItself t) ∧
      (format (format gluedSource).1).1 = (format gluedSource).1 := by
  have ends : ∀ t, parse gluedSource = .ok t → EndsItself t := by
    intro t reads
    rw [← Except.ok.inj (parse_gluedSource.symm.trans reads)]
    exact endsItself_gluedLines
  exact ⟨not_opensSection_gluedSource, ends, format_format not_opensSection_gluedSource ends⟩

example : format gluedSource =
    ("<div>\n  <p>un<b>glued</b>!</p>\n  re\n  <i>cut</i>\n</div>\n", none) := by
  decide +kernel

/-- A tag that ends with a vertical tab is not the one that its end tag is read with, so that the
element comes to hold what followed it. -/
theorem format_verticalTab :
    format "<p\x0b/>x" = ("<p\x0b></p\x0b>\nx\n", none) ∧
      format "<p\x0b></p\x0b>\nx\n" = ("<p\x0b>x</p\x0b>\n", none) := by
  decide +kernel

end HtmlTemplate.Markup
