import HtmlTemplate.Markup.Layout
import HtmlTemplate.Proofs.Erasure
import HtmlTemplate.Proofs.Remainders
import HtmlTemplate.Proofs.Segments

/-!
# What layout does to a tree

What is laid out is a written forest: `laidAll` puts texts of blanks around the nodes, squeezes the
texts, and trims the content of an element that stays on its line (`renderNodes_laidAll`). But for
blanks that is the forest itself (`relaid_laidAll`). So what is read of a source that was formatted
differs from what is read of the source in blanks only, and in other blanks than those of HTML
exactly when there are some outside the verbatim elements (`parse_format_iff`).
-/

namespace HtmlTemplate.Markup

open HtmlTemplate.Text Node

/-! ### Words -/

theorem flatten_words (cs : List Char) : (words cs).flatten = cs.filter (!isBlank ·) := by
  fun_induction words cs with
  | case1 => rfl
  | case2 c cs blank ih => simp [blank, ih]
  | case3 c blank => simp [blank]
  | case4 c blank d ds blank' ih => simp [blank, ih]
  | case5 c blank d ds blank' empty ih =>
    rw [empty] at ih ⊢
    rw [List.filter_cons_of_pos (by simp [blank]), ← ih]
    rfl
  | case6 c blank d ds blank' w ws split ih =>
    rw [split] at ih ⊢
    rw [List.filter_cons_of_pos (by simp [blank]), ← ih]
    rfl

theorem filter_intercalate_space (ws : List (List Char)) :
    (List.intercalate [' '] ws).filter (!isBlank ·) = ws.flatten.filter (!isBlank ·) := by
  induction ws with
  | nil => rfl
  | cons w ws ih =>
    cases ws with
    | nil => simp
    | cons v ws =>
      have space : isBlank ' ' = true := by decide
      rw [List.intercalate_cons_cons, List.filter_append, ih]
      simp [space]

theorem toList_squeeze (data : String) :
    (squeeze data).toList = List.intercalate [' '] (words data.toList) := by
  have letters : String.toList ∘ String.ofList = id := funext fun cs => String.toList_ofList
  simp [squeeze, String.toList_intercalate, letters]

theorem without_squeeze (data : String) : without isBlank (squeeze data) = without isBlank data := by
  rw [without, without, toList_squeeze, filter_intercalate_space, flatten_words, List.filter_filter]
  simp

/-- Whether the blanks among some characters are spaces and line breaks. -/
def Tidy (cs : List Char) : Prop := ∀ c ∈ cs, isBlank c = true → c = ' ' ∨ c = '\n'

theorem Tidy.append {cs ds : List Char} (h : Tidy cs) (h' : Tidy ds) : Tidy (cs ++ ds) :=
  fun c hc => (List.mem_append.1 hc).elim (h c) (h' c)

theorem Tidy.subset {cs ds : List Char} (h : Tidy cs) (sub : ds ⊆ cs) : Tidy ds :=
  fun c hc => h c (sub hc)

theorem tidy_space : Tidy " ".toList := fun _ hc _ => .inl (List.mem_singleton.1 hc)

theorem tidy_lineBreak : Tidy "\n".toList := fun _ hc _ => .inr (List.mem_singleton.1 hc)

theorem tidy_indentation (depth : Nat) : Tidy (indentation depth).toList := fun c hc _ =>
  .inl (List.eq_of_mem_replicate (by simpa [indentation] using hc))

theorem tidy_squeeze (data : String) : Tidy (squeeze data).toList := by
  intro c hc blank
  rw [toList_squeeze] at hc
  refine .inl ((Naming.mem_intercalate hc).resolve_right fun mem => ?_)
  rw [flatten_words, List.mem_filter, blank] at mem
  cases mem.2

theorem tidy_collapse (data : String) : Tidy (collapse data).toList := by
  have edge (b : Bool) : Tidy (if b then " " else "").toList := by
    cases b
    · exact fun c hc => absurd hc List.not_mem_nil
    · exact tidy_space
  unfold collapse
  dsimp only
  split
  · exact edge false
  · split
    · exact tidy_space
    · rw [String.toList_append, String.toList_append]
      exact ((edge _).append (tidy_squeeze data)).append (edge _)

/-- Of a text of blanks nothing is left. -/
theorem without_blanks {data : String} (h : data.toList.all isBlank = true) :
    without isBlank data = "" := by
  have none : data.toList.filter (!isBlank ·) = [] := by
    simpa [List.filter_eq_nil_iff] using h
  rw [without, none]

theorem without_indentation (depth : Nat) : without isBlank (indentation depth) = "" := by
  refine without_blanks (List.all_eq_true.2 fun c hc => ?_)
  obtain rfl : c = ' ' := List.eq_of_mem_replicate (by simpa [indentation] using hc)
  decide

theorem without_lineBreak : without isBlank "\n" = "" := without_blanks (by decide)

theorem without_collapse (data : String) :
    without isBlank (collapse data) = without isBlank data := by
  have edge (b : Bool) : without isBlank (if b then " " else "") = "" := by
    cases b <;> exact without_blanks (by decide)
  unfold collapse
  dsimp only
  split
  · rename_i empty
    rw [String.toList_eq_nil_iff.1 (List.isEmpty_iff.1 empty)]
  · split
    · rename_i blank
      rw [without_blanks blank]
      exact edge true
    · simp [edge, without_squeeze]

/-! ### Forests that differ in blanks -/

/-- A forest is another one but for blanks in its texts, its own blanks there are spaces and line
breaks, and it is read as it is written. -/
structure Relaid (ns ms : List Node) : Prop where
  same : erasedAll isBlank ms = erasedAll isBlank ns
  tidy : Tidy (allLooseChars ms)
  firm : Every Firm ms

namespace Relaid

theorem nil : Relaid [] [] := ⟨rfl, fun _ mem => absurd mem List.not_mem_nil, every_nil⟩

theorem append {ns ns' ms ms' : List Node} (h : Relaid ns ms) (h' : Relaid ns' ms') :
    Relaid (ns ++ ns') (ms ++ ms') := by
  refine ⟨?_, ?_, every_append_iff.2 ⟨h.firm, h'.firm⟩⟩
  · rw [erasedAll_append, erasedAll_append, h.same, h'.same]
  · rw [allLooseChars_append]
    exact h.tidy.append h'.tidy

theorem trans {ns ms ks : List Node} (h : Relaid ns ms) (h' : Relaid ms ks) : Relaid ns ks :=
  ⟨h'.same.trans h.same, h'.tidy, h'.firm⟩

end Relaid

theorem firm_text (data : String) : Firm (.text data) :=
  ⟨fit_text data, nofun, rfl⟩

/-- A text in place of one that differs in blanks. -/
theorem relaid_text {data data' : String} (same : without isBlank data' = without isBlank data)
    (tidy : Tidy data'.toList) : Relaid [.text data] [.text data'] := by
  refine ⟨?_, ?_, every_leaf rfl (firm_text data')⟩
  · simp only [erasedAll, erased, same]
  · simpa [allLooseChars, looseChars] using tidy

/-- A text of blanks in place of nothing. -/
theorem relaid_blanks {data : String} (blank : without isBlank data = "")
    (tidy : Tidy data.toList) : Relaid [] [.text data] := by
  have alone : Relaid [.text data] [.text data] := relaid_text rfl tidy
  refine ⟨?_, alone.tidy, alone.firm⟩
  simp [erasedAll, erased, blank, textNode]

/-- What has no characters that can be erased may stay as it is. -/
theorem relaid_self {n : Node} (bound : looseChars n = []) (firm : Every Firm [n]) :
    Relaid [n] [n] :=
  ⟨rfl, by simp [allLooseChars, bound, Tidy], firm⟩

/-- An element that is no raw text element and no void one may have any content. -/
theorem Firm.withChildren {tag : String} {attrs : Attrs} {cs : List Node}
    (h : Firm (.element tag attrs cs)) (noRaw : isRawText tag = false) {ds : List Node}
    (void : isVoid tag = true → ds = []) : Firm (.element tag attrs ds) := by
  obtain ⟨readable, names, distinct, -⟩ := h.fit.legible
  refine ⟨⟨⟨readable, names, distinct, fun raw => ?_⟩, fun tag' named isVoid_ => ?_,
    fun tag' named raw => ?_⟩, h.ends, rfl⟩
  · rw [noRaw] at raw
    cases raw
  · obtain rfl := Option.some.inj named
    exact void isVoid_
  · obtain rfl := Option.some.inj named
    rw [noRaw] at raw
    cases raw

theorem isRawText_of_not_isVerbatim {tag : String} (h : isVerbatim tag = false) :
    isRawText tag = false := by
  cases raw : isRawText tag with
  | false => rfl
  | true => rw [isVerbatim_of_isRawText raw] at h; cases h

/-- An element that is not laid out in one piece. -/
theorem Firm.notWhole {tag : String} {attrs : Attrs} {cs : List Node}
    (h : Firm (.element tag attrs cs)) (parts : ¬(isVerbatim tag || isVoid tag && cs.isEmpty) = true) :
    isVerbatim tag = false ∧ isVoid tag = false := by
  simp only [Bool.or_eq_true, Bool.and_eq_true, not_or, not_and, Bool.not_eq_true] at parts
  refine ⟨parts.1, Bool.eq_false_iff.2 fun void => ?_⟩
  have empty : cs = [] := h.fit.void tag rfl void
  rw [empty] at parts
  cases parts.2 void

/-- An element whose content is laid out. -/
theorem Relaid.element {tag : String} {attrs : Attrs} {cs ds : List Node} (h : Relaid cs ds)
    (loose : isVerbatim tag = false) (void : isVoid tag = true → ds = [])
    (firm : Firm (.element tag attrs cs)) :
    Relaid [.element tag attrs cs] [.element tag attrs ds] := by
  refine ⟨?_, ?_, every_element_iff.2
    ⟨firm.withChildren (isRawText_of_not_isVerbatim loose) void, h.firm⟩⟩
  · simp [erasedAll, erased, erasedIn, loose, h.same]
  · simpa [allLooseChars, looseChars, loose] using h.tidy

/-! ### Content on a line -/

mutual

/-- An inline node as it stands on its line. -/
def inlined : Node → Node
  | .text data => .text (collapse data)
  | .element tag attrs cs => .element tag attrs (inlinedAll cs)
  | n => n

/-- Inline nodes as they stand on their line. -/
def inlinedAll : List Node → List Node
  | [] => []
  | n :: ns => inlined n :: inlinedAll ns

end

theorem not_isVerbatim_of_isInline {tag : String} (h : isInline tag = true) :
    isVerbatim tag = false := by
  have table : ∀ tag ∈ inlineTags, isVerbatim tag = false := by decide +kernel
  exact table tag (by simpa [isInline] using h)

theorem isEmpty_inlinedAll (ns : List Node) : (inlinedAll ns).isEmpty = ns.isEmpty := by
  cases ns <;> rfl

mutual

theorem renderNode_inlined : ∀ n : Node, isInlineNode n = true →
    renderNode false (inlined n) = renderInline n
  | .text data, _ => rfl
  | .element tag attrs cs, inline => by
    rw [isInlineNode, Bool.and_eq_true] at inline
    have noRaw := isRawText_of_not_isVerbatim (not_isVerbatim_of_isInline inline.1)
    rw [inlined, renderNode, isEmpty_inlinedAll, noRaw, renderNodes_inlinedAll cs inline.2,
      renderInline]
  | .comment _, _ | .directive _, _ | .fragment _, _ | .blank, _ => rfl

theorem renderNodes_inlinedAll : ∀ ns : List Node, allInline ns = true →
    renderNodes false (inlinedAll ns) = renderInlines ns
  | [], _ => rfl
  | n :: ns, inline => by
    rw [allInline, Bool.and_eq_true] at inline
    rw [inlinedAll, renderNodes, renderNode_inlined n inline.1, renderNodes_inlinedAll ns inline.2,
      renderInlines]

end

mutual

theorem relaid_inlined : ∀ n : Node, isInlineNode n = true → Every Firm [n] →
    Relaid [n] [inlined n]
  | .text data, _, _ => relaid_text (without_collapse data) (tidy_collapse data)
  | .element tag attrs cs, inline, firm => by
    rw [isInlineNode, Bool.and_eq_true] at inline
    obtain ⟨head, inside⟩ := every_element_iff.1 firm
    refine (relaid_inlinedAll cs inline.2 inside).element (not_isVerbatim_of_isInline inline.1)
      (fun void => ?_) head
    obtain rfl : cs = [] := head.fit.void tag rfl void
    rfl
  | .comment _, inline, _ | .directive _, inline, _ | .fragment _, inline, _
  | .blank, inline, _ => by simp [isInlineNode] at inline

theorem relaid_inlinedAll : ∀ ns : List Node, allInline ns = true → Every Firm ns →
    Relaid ns (inlinedAll ns)
  | [], _, _ => .nil
  | n :: ns, inline, firm => by
    rw [allInline, Bool.and_eq_true] at inline
    obtain ⟨first, rest⟩ := every_cons_iff.1 firm
    exact (relaid_inlined n inline.1 first).append (relaid_inlinedAll ns inline.2 rest)

end

/-! ### Trimming -/

/-- A forest without the blank texts it begins with, and with the text after them cut. -/
def trimFront (cut : String → String) : List Node → List Node
  | .text data :: ns => if isBlankText data then trimFront cut ns else .text (cut data) :: ns
  | ns => ns

/-- A text without the blanks it begins with. -/
def cutStart (data : String) : String := String.ofList (data.toList.dropWhile isBlank)

/-- A text without the blanks it ends with. -/
def cutEnd (data : String) : String := String.ofList (dropEndWhile isBlank data.toList)

/-- A forest without the blanks it begins and ends with. -/
def trimmed (ns : List Node) : List Node :=
  (trimFront cutEnd (trimFront cutStart ns).reverse).reverse

theorem filter_dropWhile_blank (cs : List Char) :
    (cs.dropWhile isBlank).filter (!isBlank ·) = cs.filter (!isBlank ·) := by
  induction cs with
  | nil => rfl
  | cons c cs ih => cases blank : isBlank c <;> simp [blank, ih]

theorem without_cutStart (data : String) :
    without isBlank (cutStart data) = without isBlank data := by
  simp [without, cutStart, filter_dropWhile_blank]

theorem without_cutEnd (data : String) : without isBlank (cutEnd data) = without isBlank data := by
  simp [without, cutEnd, dropEndWhile, filter_dropWhile_blank]

theorem cutStart_subset (data : String) : (cutStart data).toList ⊆ data.toList := by
  simpa [cutStart] using (List.dropWhile_suffix isBlank).subset

theorem cutEnd_subset (data : String) : (cutEnd data).toList ⊆ data.toList := by
  intro c hc
  simp only [cutEnd, dropEndWhile, String.toList_ofList, List.mem_reverse] at hc
  simpa using (List.dropWhile_suffix isBlank).subset hc

theorem Relaid.trimFront {cut : String → String}
    (same : ∀ data, without isBlank (cut data) = without isBlank data)
    (sub : ∀ data, (cut data).toList ⊆ data.toList) {ns ms : List Node} (h : Relaid ns ms) :
    Relaid ns (trimFront cut ms) := by
  refine h.trans ?_
  obtain ⟨-, tidy, firm⟩ := h
  fun_induction Markup.trimFront cut ms with
  | case1 data ms blank ih =>
    obtain ⟨-, firm'⟩ := every_cons_iff.1 firm
    have shorter := ih (tidy.subset fun c hc => List.mem_append_right _ hc) firm'
    refine ⟨?_, shorter.tidy, shorter.firm⟩
    simp [shorter.same, erasedAll, erased, without_blanks blank, textNode]
  | case2 data ms _ =>
    obtain ⟨-, firm'⟩ := every_cons_iff.1 firm
    have first : Tidy (cut data).toList := tidy.subset fun c hc =>
      List.mem_append_left _ (sub data hc)
    have rest : Relaid ms ms := ⟨rfl, tidy.subset fun c hc => List.mem_append_right _ hc, firm'⟩
    exact (relaid_text (same data) first).append rest
  | case3 ms _ => exact ⟨rfl, tidy, firm⟩

theorem mem_allLooseChars_iff {c : Char} {ns : List Node} :
    c ∈ allLooseChars ns ↔ ∃ n ∈ ns, c ∈ looseChars n := by
  induction ns with
  | nil => simp [allLooseChars]
  | cons n ns ih => simp [allLooseChars, ih]

theorem Relaid.reverse {ns ms : List Node} (h : Relaid ns ms) : Relaid ns.reverse ms.reverse := by
  refine ⟨?_, h.tidy.subset fun c hc => ?_, h.firm.subset fun _ => List.mem_reverse.1⟩
  · rw [erasedAll_reverse, erasedAll_reverse, h.same]
  · simpa [mem_allLooseChars_iff] using hc

theorem Relaid.trimmed {ns ms : List Node} (h : Relaid ns ms) : Relaid ns (trimmed ms) := by
  have front := h.trimFront without_cutStart cutStart_subset
  have back := (front.reverse.trimFront without_cutEnd cutEnd_subset).reverse
  rwa [List.reverse_reverse] at back

/-- In writing the characters of a text, the blanks at its front stay at the front. -/
theorem dropWhile_flatMap_blank (write : Char → List Char)
    (blanks : ∀ c, isBlank c = true → write c = [c])
    (others : ∀ c, isBlank c = false → ∃ d ds, write c = d :: ds ∧ isBlank d = false)
    (cs : List Char) :
    (cs.flatMap write).dropWhile isBlank = (cs.dropWhile isBlank).flatMap write := by
  induction cs with
  | nil => rfl
  | cons c cs ih =>
    cases blank : isBlank c with
    | true => simp [blanks c blank, blank, ih]
    | false =>
      obtain ⟨d, ds, written, other⟩ := others c blank
      simp [written, other, blank]

theorem escapeTextChar_of_isBlank {c : Char} (h : isBlank c = true) : escapeTextChar c = [c] := by
  unfold escapeTextChar
  split
  · rename_i same
    exact absurd h (by subst same; decide)
  · split
    · rename_i same
      exact absurd h (by subst same; decide)
    · split
      · rename_i same
        exact absurd h (by subst same; decide)
      · rfl

/-- A character other than a blank is written with such characters at both ends. -/
theorem escapeTextChar_of_not_isBlank {c : Char} (h : isBlank c = false) :
    (∃ d ds, escapeTextChar c = d :: ds ∧ isBlank d = false) ∧
      ∃ d ds, (escapeTextChar c).reverse = d :: ds ∧ isBlank d = false := by
  unfold escapeTextChar
  split
  · exact ⟨⟨'&', _, rfl, by decide⟩, ⟨';', _, rfl, by decide⟩⟩
  · split
    · exact ⟨⟨'&', _, rfl, by decide⟩, ⟨';', _, rfl, by decide⟩⟩
    · split
      · exact ⟨⟨'&', _, rfl, by decide⟩, ⟨';', _, rfl, by decide⟩⟩
      · exact ⟨⟨c, [], rfl, h⟩, ⟨c, [], rfl, h⟩⟩

theorem toList_escapeText (data : String) :
    (escapeText data).toList = data.toList.flatMap escapeTextChar := by
  simp [escapeText]

theorem escapeText_cutStart (data : String) :
    (escapeText (cutStart data)).toList = (escapeText data).toList.dropWhile isBlank := by
  rw [toList_escapeText, toList_escapeText, dropWhile_flatMap_blank escapeTextChar
    (fun _ => escapeTextChar_of_isBlank) fun _ h => (escapeTextChar_of_not_isBlank h).1]
  simp [cutStart]

theorem escapeText_cutEnd (data : String) :
    (escapeText (cutEnd data)).toList.reverse =
      (escapeText data).toList.reverse.dropWhile isBlank := by
  have back := dropWhile_flatMap_blank (List.reverse ∘ escapeTextChar)
    (fun c h => by simp [escapeTextChar_of_isBlank h])
    (fun c h => (escapeTextChar_of_not_isBlank h).2) data.toList.reverse
  rw [toList_escapeText, toList_escapeText, List.reverse_flatMap, List.reverse_flatMap, back]
  simp [cutEnd, dropEndWhile]

theorem all_isBlank_escapeText (data : String) :
    (escapeText data).toList.all isBlank = isBlankText data := by
  rw [toList_escapeText, isBlankText, List.all_flatMap]
  congr 1
  funext c
  cases blank : isBlank c with
  | true => simp [escapeTextChar_of_isBlank blank, blank]
  | false =>
    obtain ⟨⟨d, ds, written, other⟩, -⟩ := escapeTextChar_of_not_isBlank blank
    simp [written, other]

/-- Trimming a forest at one end trims what is written of it there. -/
theorem flatMap_trimFront (write : Node → List Char) {cut : String → String}
    (texts : ∀ data, write (.text (cut data)) = (write (.text data)).dropWhile isBlank)
    (blanks : ∀ data, (write (.text data)).all isBlank = isBlankText data) (ns : List Node)
    (others : ∀ n ∈ ns, isText n = false → ∃ c cs, write n = c :: cs ∧ isBlank c = false) :
    (trimFront cut ns).flatMap write = (ns.flatMap write).dropWhile isBlank := by
  fun_induction trimFront cut ns with
  | case1 data ns blank ih =>
    have none : (write (.text data)).dropWhile isBlank = [] := by
      rw [List.dropWhile_eq_nil_iff, ← List.all_eq_true, blanks]
      exact blank
    rw [ih fun n hn => others n (List.mem_cons_of_mem _ hn), List.flatMap_cons,
      List.dropWhile_append, none]
    rfl
  | case2 data ns visible =>
    have some : (write (.text data)).dropWhile isBlank ≠ [] := fun none => by
      rw [List.dropWhile_eq_nil_iff, ← List.all_eq_true, blanks] at none
      exact visible none
    rw [List.flatMap_cons, List.flatMap_cons, List.dropWhile_append, texts,
      if_neg (by simpa using some)]
  | case3 ns other =>
    cases ns with
    | nil => rfl
    | cons n ns =>
      have noText : isText n = false := by
        cases n with
        | text data => exact absurd rfl (other data ns)
        | _ => rfl
      obtain ⟨c, cs, written, visible⟩ := others n List.mem_cons_self noText
      simp [written, visible]

theorem toList_renderNodes (raw : Bool) (ns : List Node) :
    (renderNodes raw ns).toList = ns.flatMap fun n => (renderNode raw n).toList := by
  induction ns with
  | nil => rfl
  | cons n ns ih => simp [renderNodes, ih]

/-- An element is written between brackets. -/
theorem exists_renderNode_element (tag : String) (attrs : Attrs) (cs : List Node) :
    (∃ inside, (renderNode false (.element tag attrs cs)).toList = '<' :: inside) ∧
      ∃ inside, (renderNode false (.element tag attrs cs)).toList.reverse = '>' :: inside := by
  rw [renderNode]
  split
  · rw [toList_startTag]
    exact ⟨⟨_, rfl⟩, _, by simp; rfl⟩
  · rw [String.toList_append, String.toList_append, toList_startTag, toList_endTag]
    exact ⟨⟨_, rfl⟩, _, by simp; rfl⟩

theorem mem_of_mem_trimFront {cut : String → String} {n : Node} {ns : List Node}
    (h : n ∈ trimFront cut ns) (noText : isText n = false) : n ∈ ns := by
  fun_induction trimFront cut ns with
  | case1 data ns _ ih => exact List.mem_cons_of_mem _ (ih h)
  | case2 data ns _ =>
    rcases List.mem_cons.1 h with rfl | h
    · cases noText
    · exact List.mem_cons_of_mem _ h
  | case3 ns _ => exact h

/-- Trimming a forest of texts and elements trims what is written of it. -/
theorem renderNodes_trimmed {ns : List Node}
    (elements : ∀ n ∈ ns, isText n = false → n.isElement = true) :
    renderNodes false (trimmed ns) = strip (renderNodes false ns) := by
  have written {n : Node} (hn : n ∈ ns) (noText : isText n = false) :
      (∃ cs, (renderNode false n).toList = '<' :: cs) ∧
        ∃ cs, (renderNode false n).toList.reverse = '>' :: cs := by
    cases n with
    | element tag attrs cs => exact exists_renderNode_element tag attrs cs
    | _ => cases elements _ hn noText
  have start := flatMap_trimFront (fun n => (renderNode false n).toList)
    escapeText_cutStart all_isBlank_escapeText ns fun n hn noText =>
      have ⟨⟨cs, shown⟩, _⟩ := written hn noText
      ⟨'<', cs, shown, by decide⟩
  have back := flatMap_trimFront (fun n => (renderNode false n).toList.reverse) escapeText_cutEnd
    (fun data => List.all_reverse.trans (all_isBlank_escapeText data))
    (trimFront cutStart ns).reverse fun n hn noText =>
      have ⟨_, cs, shown⟩ := written (mem_of_mem_trimFront (List.mem_reverse.1 hn) noText) noText
      ⟨'>', cs, shown, by decide⟩
  rw [← String.toList_inj, strip, String.toList_ofList, toList_renderNodes, toList_renderNodes,
    trim, trimWhile, dropEndWhile, ← start, List.reverse_flatMap, trimmed, List.flatMap_reverse]
  exact congrArg List.reverse back

/-! ### Lines -/

/-- A node on a line of its own. -/
def line (depth : Nat) (n : Node) : List Node :=
  [.text (indentation depth), n, .text "\n"]

mutual

/-- The nodes that the lines of a node at a depth are written from. -/
def laid (depth : Nat) : Node → List Node
  | .text data =>
    if (squeeze data).isEmpty then []
    else [.text (indentation depth ++ squeeze data ++ "\n")]
  | .element tag attrs cs =>
    if isVerbatim tag || (isVoid tag && cs.isEmpty) then line depth (.element tag attrs cs)
    else if allInline cs then line depth (.element tag attrs (trimmed (inlinedAll cs)))
    else
      line depth (.element tag attrs
        (.text "\n" :: laidAll (depth + 1) cs ++ [.text (indentation depth)]))
  | n => line depth n

/-- The nodes that the lines of a forest at a depth are written from. -/
def laidAll (depth : Nat) : List Node → List Node
  | [] => []
  | n :: ns => laid depth n ++ laidAll depth ns

end

theorem relaid_line {n m : Node} (h : Relaid [n] [m]) (depth : Nat) :
    Relaid [n] (line depth m) :=
  ((relaid_blanks (without_indentation depth) (tidy_indentation depth)).append h).append
    (relaid_blanks without_lineBreak tidy_lineBreak)

theorem relaid_laidText (depth : Nat) (data : String) :
    Relaid [.text data] (laid depth (.text data)) := by
  rw [laid]
  split
  · rename_i empty
    have none : without isBlank data = "" := by
      rw [← without_squeeze, String.isEmpty_iff.1 empty]
      rfl
    exact ⟨by simp [erasedAll, erased, none, textNode], Relaid.nil.tidy, every_nil⟩
  · refine relaid_text ?_ ?_
    · simp [without_indentation, without_lineBreak, without_squeeze]
    · rw [String.toList_append, String.toList_append]
      exact ((tidy_indentation depth).append (tidy_squeeze data)).append tidy_lineBreak

mutual

theorem relaid_laid (depth : Nat) : ∀ n : Node, Every Firm [n] → Relaid [n] (laid depth n)
  | .text data, _ => relaid_laidText depth data
  | .comment _, firm | .directive _, firm => relaid_line (relaid_self rfl firm) depth
  | .element tag attrs cs, firm => by
    obtain ⟨head, inside⟩ := every_element_iff.1 firm
    rw [laid]
    split
    · rename_i whole
      refine relaid_line (relaid_self ?_ firm) depth
      rw [looseChars]
      rcases Bool.or_eq_true_iff.1 whole with verbatim | void
      · rw [if_pos verbatim]
      · rw [List.isEmpty_iff.1 (Bool.and_eq_true_iff.1 void).2]
        exact ite_self []
    · rename_i parts
      obtain ⟨loose, noVoid⟩ := head.notWhole parts
      have bound {ds : List Node} (void : isVoid tag = true) : ds = [] := by simp [noVoid] at void
      split
      · rename_i inline
        exact relaid_line ((relaid_inlinedAll cs inline inside).trimmed.element loose bound head)
          depth
      · have content := (relaid_laidAll (depth + 1) cs inside).append
          (relaid_blanks (without_indentation depth) (tidy_indentation depth))
        rw [List.append_nil] at content
        exact relaid_line
          (((relaid_blanks without_lineBreak tidy_lineBreak).append content).element loose bound
            head) depth
  | .fragment _, firm | .blank, firm => absurd firm.self.fit.legible id

/-- But for blanks in texts, the nodes that lines are written from are the forest. -/
theorem relaid_laidAll (depth : Nat) : ∀ ns : List Node, Every Firm ns →
    Relaid ns (laidAll depth ns)
  | [], _ => .nil
  | n :: ns, firm => by
    obtain ⟨first, rest⟩ := every_cons_iff.1 firm
    exact (relaid_laid depth n first).append (relaid_laidAll depth ns rest)

end

/-! ### Writing the lines -/

theorem escapeText_append (s s' : String) : escapeText (s ++ s') = escapeText s ++ escapeText s' := by
  simp [escapeText]

/-- Blanks are written as they are. -/
theorem escapeText_of_blanks {data : String} (h : data.toList.all isBlank = true) :
    escapeText data = data := by
  rw [← String.toList_inj, toList_escapeText]
  rw [List.all_eq_true] at h
  generalize data.toList = cs at h
  induction cs with
  | nil => rfl
  | cons c cs ih =>
    rw [List.flatMap_cons, escapeTextChar_of_isBlank (h c List.mem_cons_self),
      ih fun d hd => h d (List.mem_cons_of_mem c hd)]
    rfl

theorem escapeText_indentation (depth : Nat) :
    escapeText (indentation depth) = indentation depth := by
  refine escapeText_of_blanks (List.all_eq_true.2 fun c hc => ?_)
  obtain rfl : c = ' ' := List.eq_of_mem_replicate (by simpa [indentation] using hc)
  decide

theorem escapeText_lineBreak : escapeText "\n" = "\n" := escapeText_of_blanks (by decide)

theorem renderNodes_line (depth : Nat) (n : Node) :
    renderNodes false (line depth n) = indentation depth ++ renderNode false n ++ "\n" := by
  simp [line, renderNodes, renderNode, escapeText_indentation, escapeText_lineBreak,
    String.append_assoc]

/-- Lines in one text, each ended by a line break. -/
def joinLines (lines : List String) : String := String.join (lines.map (· ++ "\n"))

@[simp]
theorem joinLines_nil : joinLines [] = "" := rfl

@[simp]
theorem joinLines_cons (l : String) (ls : List String) :
    joinLines (l :: ls) = l ++ "\n" ++ joinLines ls :=
  String.join_cons

@[simp]
theorem joinLines_append (ls ls' : List String) :
    joinLines (ls ++ ls') = joinLines ls ++ joinLines ls' := by
  induction ls with
  | nil => simp
  | cons l ls ih => simp [ih, String.append_assoc]

theorem isElement_of_mem_inlinedAll {ns : List Node} (inline : allInline ns = true) :
    ∀ n ∈ inlinedAll ns, isText n = false → n.isElement = true := by
  induction ns with
  | nil => exact fun n hn => absurd hn List.not_mem_nil
  | cons m ns ih =>
    rw [allInline, Bool.and_eq_true] at inline
    intro n hn noText
    rcases List.mem_cons.1 hn with rfl | hn
    · cases m with
      | text data => cases noText
      | element tag attrs cs => rfl
      | _ => cases inline.1
    · exact ih inline.2 n hn noText

mutual

theorem renderNodes_laid : ∀ (depth : Nat) (n : Node), Every Firm [n] →
    renderNodes false (laid depth n) = joinLines (layoutNode depth n)
  | depth, .text data, _ => by
    rw [laid, layoutNode]
    split
    · rfl
    · simp [renderNodes, renderNode, escapeText_append, escapeText_indentation,
        escapeText_lineBreak]
  | depth, .comment _, _ | depth, .directive _, _ => by
    simp only [laid, layoutNode, renderNodes_line, joinLines_cons, joinLines_nil,
      String.append_empty]
  | depth, .element tag attrs cs, firm => by
    obtain ⟨head, inside⟩ := every_element_iff.1 firm
    rw [laid, layoutNode]
    split
    · simp [renderNodes_line]
    · rename_i parts
      obtain ⟨loose, noVoid⟩ := head.notWhole parts
      have noRaw := isRawText_of_not_isVerbatim loose
      split
      · rename_i inline
        rw [renderNodes_line, renderNode]
        simp [noVoid, noRaw, renderNodes_trimmed (isElement_of_mem_inlinedAll inline),
          renderNodes_inlinedAll cs inline, String.append_assoc]
      · have lines := renderNodes_laidAll (depth + 1) cs inside
        rw [renderNodes_line, renderNode]
        simp [noVoid, noRaw, renderNodes, renderNode, renderNodes_append, lines,
          escapeText_lineBreak, escapeText_indentation, String.append_assoc]
  | _, .fragment _, firm | _, .blank, firm => absurd firm.self.fit.legible id

/-- The lines of a forest are written from the nodes that are laid out. -/
theorem renderNodes_laidAll : ∀ (depth : Nat) (ns : List Node), Every Firm ns →
    renderNodes false (laidAll depth ns) = joinLines (layoutNodes depth ns)
  | _, [], _ => rfl
  | depth, n :: ns, firm => by
    obtain ⟨first, rest⟩ := every_cons_iff.1 firm
    rw [laidAll, renderNodes_append, renderNodes_laid depth n first,
      renderNodes_laidAll depth ns rest, layoutNodes, joinLines_append]

end

/-! ### Reading the lines -/

/-- The white space of HTML. -/
def isHtmlBlank (c : Char) : Bool :=
  c == ' ' || c == '\t' || c == '\n' || c == '\x0c' || c == '\r'

theorem isBlank_of_isHtmlBlank {c : Char} (h : isHtmlBlank c = true) : isBlank c = true := by
  simp only [isHtmlBlank, Bool.or_eq_true, beq_iff_eq] at h
  rcases h with (((rfl | rfl) | rfl) | rfl) | rfl <;> decide

/-- In a tidy text all blanks are white space of HTML. -/
theorem Tidy.isHtmlBlank_eq {cs : List Char} (h : Tidy cs) :
    ∀ c ∈ cs, isHtmlBlank c = isBlank c := by
  intro c hc
  cases blank : isBlank c with
  | true => rcases h c hc blank with rfl | rfl <;> decide
  | false => exact Bool.eq_false_iff.2 fun html => by simp [isBlank_of_isHtmlBlank html] at blank

/-- A formatted source can be read. When no marked section opens in the source and each element has
a tag that its end tag is read with, what is read is, without white space, what the source is read
as without any blanks. So formatting leaves everything but white space exactly when outside the
verbatim elements there are no blanks but white space. -/
theorem parse_format_iff {source : String} {t : List Node} (reads : parse source = .ok t)
    (closed : ¬ OpensSection source.toList) (ends : EndsItself t) :
    ∃ t', parse (format source).1 = .ok t' ∧
      erasedAll isHtmlBlank t' = erasedAll isBlank t ∧
      (erasedAll isHtmlBlank t' = erasedAll isHtmlBlank t ↔
        ∀ c ∈ allLooseChars t, isBlank c = true → isHtmlBlank c = true) := by
  have fit := fit_of_parse reads
  have plain := plain_of_parse reads closed
  have firm : Every Firm t := fun n hn => ⟨fit n hn, ends n hn, plain n hn⟩
  have relaid := relaid_laidAll 0 t firm
  have written : (format source).1 = render (laidAll 0 t) := by
    rw [format, reads, render, renderNodes_laidAll 0 t firm]
    rfl
  have same : erasedAll isHtmlBlank (laidAll 0 t) = erasedAll isBlank t :=
    (erasedAll_congr _ relaid.tidy.isHtmlBlank_eq).trans relaid.same
  obtain ⟨t', again, rest⟩ := parse_render_of_erasedAll (spread_of_parse reads) firm relaid.firm same
  refine ⟨t', written ▸ again, rest, ?_⟩
  rw [rest, erasedAll_eq_iff]
  refine forall₂_congr fun c _ => ⟨fun agree blank => agree ▸ blank, fun html => ?_⟩
  cases blank : isBlank c with
  | true => exact (html blank).symm
  | false => exact (Bool.eq_false_iff.2 fun h => by simp [isBlank_of_isHtmlBlank h] at blank).symm

/-- A source with a content of each kind. -/
def spacedSource : String :=
  "<!DOCTYPE html><div>  a <b> c\td </b>\n<br> <!-- e  f --><p>\n g\x0ch </p></div>" ++
    "<pre> i\u00a0  <i> j </i></pre><script>\n k < l </script>"

/-- The tree of the source with a content of each kind. -/
def spacedTree : List Node :=
  [.directive "!DOCTYPE html",
    .element "div" []
      [.text "  a ", .element "b" [] [.text " c\td "], .text "\n", .element "br" [] [], .text " ",
        .comment " e  f ", .element "p" [] [.text "\n g\x0ch "]],
    .element "pre" [] [.text " i\u00a0  ", .element "i" [] [.text " j "]],
    .element "script" [] [.text "\n k < l "]]

theorem parse_format_spacedSource : parse spacedSource = .ok spacedTree ∧
    ∃ t', parse (format spacedSource).1 = .ok t' ∧
      erasedAll isHtmlBlank t' = erasedAll isHtmlBlank spacedTree := by
  have reads : parse spacedSource = .ok spacedTree := by decide +kernel
  have closed : ¬ OpensSection spacedSource.toList := by
    unfold OpensSection
    decide +kernel
  have ends : EndsItself spacedTree := by
    have table : ∀ n ∈ preorders spacedTree, n.tag?.all (fun tag => endName tag == tag) = true := by
      decide +kernel
    intro n hn tag named
    simpa [named] using table n hn
  have white : ∀ c ∈ allLooseChars spacedTree, isBlank c = true → isHtmlBlank c = true := by
    have table : (allLooseChars spacedTree).all (fun c => !isBlank c || isHtmlBlank c) = true := by
      decide +kernel
    intro c hc blank
    simpa [blank] using List.all_eq_true.1 table c hc
  obtain ⟨t', again, -, keeps⟩ := parse_format_iff reads closed ends
  exact ⟨reads, t', again, keeps.2 white⟩

/-- A no-break space in a text is formatted like a space. -/
theorem format_noBreakSpace :
    parse "a&#160;b" = .ok [.text "a\u00a0b"] ∧ format "a&#160;b" = ("a b\n", none) ∧
      parse "a b\n" = .ok [.text "a b\n"] ∧
      erasedAll isHtmlBlank [.text "a b\n"] ≠ erasedAll isHtmlBlank [.text "a\u00a0b"] := by
  decide +kernel

end HtmlTemplate.Markup
