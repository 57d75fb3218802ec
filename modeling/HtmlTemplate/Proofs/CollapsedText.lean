import HtmlTemplate.Proofs.LaidOut

/-!
# Collapsing what was collapsed

The words of a text stay the same when blanks come to its ends (`squeeze_blanks_append`,
`squeeze_append_blanks`) and when it is squeezed (`squeeze_squeeze`). What comes of collapsing is
`Snug`: nothing, a space, or a squeezed text with at most a space at either end. A snug text stays
as it is when it is collapsed (`Snug.collapse_eq`), and what is left of it when it is cut at an end
is snug (`snug_cutStart`, `snug_cutEnd`).
-/

namespace HtmlTemplate.Markup

open HtmlTemplate.Text

/-! ### Words of words -/

theorem words_of_blanks {bs : List Char} (blank : bs.all isBlank = true) : words bs = [] := by
  induction bs with
  | nil => rfl
  | cons b bs ih =>
    rw [List.all_cons, Bool.and_eq_true] at blank
    rw [words.eq_def]
    simp only [blank.1, if_true, ih blank.2]

theorem words_blanks_append {bs : List Char} (blank : bs.all isBlank = true) (cs : List Char) :
    words (bs ++ cs) = words cs := by
  induction bs with
  | nil => rfl
  | cons b bs ih =>
    rw [List.all_cons, Bool.and_eq_true] at blank
    rw [List.cons_append, words.eq_def]
    simp only [blank.1, if_true, ih blank.2]

theorem words_append_blanks (cs : List Char) {bs : List Char} (blank : bs.all isBlank = true) :
    words (cs ++ bs) = words cs := by
  -- A word is put together from its last character on, so only there the blanks are met.
  fun_induction words cs with
  | case1 => exact words_of_blanks blank
  | case2 c cs here ih =>
    rw [List.cons_append, words.eq_def]
    simp only [here, if_true, ih]
  | case3 c here =>
    cases bs with
    | nil =>
      rw [List.append_nil, words.eq_def]
      simp [here]
    | cons b bs =>
      have next : isBlank b = true := (Bool.and_eq_true_iff.1 (List.all_cons ▸ blank)).1
      rw [List.cons_append, words.eq_def]
      simp [here, next, words_of_blanks blank]
  | case4 c here d ds next ih =>
    rw [List.cons_append, words.eq_def]
    rw [List.cons_append] at ih ⊢
    simp [here, next, ih]
  | case5 c here d ds next empty ih =>
    rw [List.cons_append, words.eq_def]
    rw [List.cons_append, empty] at ih
    rw [List.cons_append, empty]
    simp [here, next, ih]
  | case6 c here d ds next w ws split ih =>
    rw [List.cons_append, words.eq_def]
    rw [List.cons_append, split] at ih
    rw [List.cons_append, split]
    simp [here, next, ih]

/-- A word is not empty and has no blanks. -/
def IsWord (w : List Char) : Prop := w ≠ [] ∧ ∀ c ∈ w, isBlank c = false

theorem isWord_of_mem_words (cs : List Char) : ∀ w ∈ words cs, IsWord w := by
  fun_induction words cs with
  | case1 => simp
  | case2 c cs blank ih => exact ih
  | case3 c blank => simp [IsWord, blank]
  | case4 c blank d ds blank' ih =>
    intro w hw
    rcases List.mem_cons.1 hw with rfl | hw
    · simp [IsWord, blank]
    · exact ih w hw
  | case5 c blank d ds blank' empty ih =>
    rw [empty]
    simp [IsWord, blank]
  | case6 c blank d ds blank' w ws split ih =>
    rw [split] at ih ⊢
    intro v hv
    rcases List.mem_cons.1 hv with rfl | hv
    · refine ⟨List.cons_ne_nil _ _, fun x hx => ?_⟩
      rcases List.mem_cons.1 hx with rfl | hx
      · simpa using blank
      · exact (ih w List.mem_cons_self).2 x hx
    · exact ih v (List.mem_cons_of_mem w hv)

/-- A word comes first when a blank or nothing follows it. -/
theorem words_word_append {w : List Char} (word : IsWord w) {rest : List Char}
    (stop : rest.head?.all isBlank = true) : words (w ++ rest) = w :: words rest := by
  obtain ⟨some_, visible⟩ := word
  induction w with
  | nil => exact absurd rfl some_
  | cons c w ih =>
    have here : isBlank c = false := visible c List.mem_cons_self
    cases w with
    | nil =>
      cases rest with
      | nil =>
        have none : words [] = [] := rfl
        rw [List.append_nil, words.eq_def]
        simp [here, none]
      | cons d rest =>
        have next : isBlank d = true := by simpa using stop
        rw [List.singleton_append, words.eq_def]
        simp [here, next]
    | cons d w =>
      have next : isBlank d = false := visible d (by simp)
      have inner := ih (List.cons_ne_nil _ _) fun x hx => visible x (List.mem_cons_of_mem c hx)
      rw [List.cons_append, words.eq_def]
      rw [List.cons_append] at inner ⊢
      simp [here, next, inner]

theorem words_intercalate {ws : List (List Char)} (h : ∀ w ∈ ws, IsWord w) :
    words (List.intercalate [' '] ws) = ws := by
  induction ws with
  | nil => rfl
  | cons w ws ih =>
    obtain ⟨first, rest⟩ := List.forall_mem_cons.1 h
    cases ws with
    | nil =>
      have alone : words (w ++ []) = [w] := words_word_append first rfl
      simpa using alone
    | cons v ws =>
      have space : isBlank ' ' = true := by decide
      rw [List.intercalate_cons_cons, List.append_assoc,
        words_word_append first (by simpa using space), words_blanks_append (by simpa using space),
        ih rest]

theorem words_squeeze (data : String) : words (squeeze data).toList = words data.toList := by
  rw [toList_squeeze, words_intercalate (isWord_of_mem_words _)]

theorem squeeze_congr {data data' : String} (h : words data.toList = words data'.toList) :
    squeeze data = squeeze data' := by
  rw [squeeze, squeeze, h]

theorem squeeze_squeeze (data : String) : squeeze (squeeze data) = squeeze data :=
  squeeze_congr (words_squeeze data)

theorem squeeze_blanks_append {blanks : String} (blank : isBlankText blanks = true)
    (data : String) : squeeze (blanks ++ data) = squeeze data := by
  refine squeeze_congr ?_
  rw [String.toList_append, words_blanks_append blank]

theorem squeeze_append_blanks (data : String) {blanks : String}
    (blank : isBlankText blanks = true) : squeeze (data ++ blanks) = squeeze data := by
  refine squeeze_congr ?_
  rw [String.toList_append, words_append_blanks _ blank]

theorem squeeze_eq_empty_iff {data : String} : squeeze data = "" ↔ isBlankText data = true := by
  refine ⟨fun empty => ?_, fun blank => ?_⟩
  · have none := congrArg String.toList ((without_squeeze data).symm.trans (congrArg _ empty))
    rw [toList_without, without_empty, String.toList_empty, List.filter_eq_nil_iff] at none
    simpa [isBlankText] using none
  · rw [squeeze, words_of_blanks blank]
    rfl

/-! ### Collapsed texts -/

/-- A space or nothing. -/
def edge (b : Bool) : String := if b then " " else ""

theorem isBlankText_edge (b : Bool) : isBlankText (edge b) = true := by cases b <;> decide

theorem collapse_of_visible {data : String} (visible : isBlankText data = false) :
    collapse data = edge (data.toList.head?.any isBlank) ++ squeeze data ++
      edge (data.toList.getLast?.any isBlank) := by
  have some_ : data.toList.isEmpty = false := by
    cases h : data.toList with
    | nil => simp [isBlankText, h] at visible
    | cons c cs => rfl
  rw [isBlankText] at visible
  simp [collapse, visible, some_, edge]

/-- Characters with no blank at either end, and at least one. -/
structure Bounded (cs : List Char) : Prop where
  nonempty : cs ≠ []
  first : cs.head?.any isBlank = false
  last : cs.getLast?.any isBlank = false

theorem bounded_intercalate {ws : List (List Char)} (some_ : ws ≠ []) (h : ∀ w ∈ ws, IsWord w) :
    Bounded (List.intercalate [' '] ws) := by
  induction ws with
  | nil => exact absurd rfl some_
  | cons w ws ih =>
    obtain ⟨⟨nonempty, letters⟩, rest⟩ := List.forall_mem_cons.1 h
    have first : w.head?.any isBlank = false := by
      cases w with
      | nil => rfl
      | cons c w => exact letters c List.mem_cons_self
    have last : w.getLast?.any isBlank = false := by
      rw [List.getLast?_eq_some_getLast nonempty]
      exact letters _ (List.getLast_mem nonempty)
    cases ws with
    | nil => simpa using Bounded.mk nonempty first last
    | cons v ws =>
      have inner := ih (List.cons_ne_nil v ws) rest
      rw [List.intercalate_cons_cons, List.append_assoc]
      refine ⟨by simp [nonempty], ?_, ?_⟩
      · rwa [List.head?_append_of_ne_nil _ nonempty]
      · rw [List.getLast?_append_of_ne_nil _ (by simp),
          List.getLast?_append_of_ne_nil _ inner.nonempty]
        exact inner.last

theorem bounded_squeeze {data : String} (visible : isBlankText data = false) :
    Bounded (squeeze data).toList := by
  rw [toList_squeeze]
  refine bounded_intercalate (fun none => ?_) (isWord_of_mem_words _)
  have empty : squeeze data = "" := by rw [squeeze, none]; rfl
  rw [squeeze_eq_empty_iff, visible] at empty
  cases empty

/-- A text between edges. -/
def framed (front : Bool) (core : String) (back : Bool) : String := edge front ++ core ++ edge back

/-- A text that collapsing leaves as it is. -/
inductive Snug : String → Prop
  | empty : Snug ""
  | space : Snug " "
  | framed (front back : Bool) {data : String} (visible : isBlankText data = false) :
    Snug (framed front (squeeze data) back)

theorem snug_collapse (data : String) : Snug (collapse data) := by
  cases visible : isBlankText data with
  | false =>
    rw [collapse_of_visible visible]
    exact .framed _ _ visible
  | true =>
    rw [isBlankText] at visible
    rw [collapse.eq_def]
    dsimp only
    split
    · exact .empty
    · exact .space

theorem toList_edge (b : Bool) : (edge b).toList = if b then [' '] else [] := by
  cases b <;> rfl

theorem Bounded.dropWhile_append {cs : List Char} (h : Bounded cs) (b : Bool) (ds : List Char) :
    ((edge b).toList ++ (cs ++ ds)).dropWhile isBlank = cs ++ ds := by
  have space : isBlank ' ' = true := by decide
  obtain ⟨nonempty, first, -⟩ := h
  cases cs with
  | nil => exact absurd rfl nonempty
  | cons c cs =>
    have visible : isBlank c = false := by simpa using first
    cases b <;> simp [edge, space, visible]

theorem Bounded.reverse {cs : List Char} (h : Bounded cs) : Bounded cs.reverse :=
  ⟨by simpa using h.nonempty, by simpa using h.last, by simpa using h.first⟩

theorem squeeze_framed_squeeze (front back : Bool) (data : String) :
    squeeze (framed front (squeeze data) back) = squeeze data := by
  rw [framed, squeeze_append_blanks _ (isBlankText_edge back),
    squeeze_blanks_append (isBlankText_edge front), squeeze_squeeze]

section Framed

variable {data : String} (visible : isBlankText data = false) (front back : Bool)
include visible

theorem head_framed : (framed front (squeeze data) back).toList.head?.any isBlank = front := by
  have core := bounded_squeeze visible
  have space : isBlank ' ' = true := by decide
  rw [framed, String.toList_append, String.toList_append, toList_edge, toList_edge]
  cases front with
  | true => simpa using space
  | false =>
    rw [if_neg Bool.false_ne_true, List.nil_append, List.head?_append_of_ne_nil _ core.nonempty]
    exact core.first

theorem last_framed : (framed front (squeeze data) back).toList.getLast?.any isBlank = back := by
  have core := bounded_squeeze visible
  have space : isBlank ' ' = true := by decide
  rw [framed, String.toList_append, String.toList_append, toList_edge, toList_edge]
  cases back with
  | true => simpa using space
  | false =>
    rw [if_neg Bool.false_ne_true, List.append_nil, List.getLast?_append_of_ne_nil _ core.nonempty]
    exact core.last

theorem isBlankText_framed : isBlankText (framed front (squeeze data) back) = false := by
  rw [← Bool.not_eq_true, ← squeeze_eq_empty_iff, squeeze_framed_squeeze,
    squeeze_eq_empty_iff, visible]
  exact Bool.false_ne_true

theorem cutStart_framed :
    cutStart (framed front (squeeze data) back) = framed false (squeeze data) back := by
  rw [← String.toList_inj, cutStart, String.toList_ofList, framed, framed, String.toList_append,
    String.toList_append, List.append_assoc, (bounded_squeeze visible).dropWhile_append]
  simp [edge]

theorem cutEnd_framed :
    cutEnd (framed front (squeeze data) back) = framed front (squeeze data) false := by
  have turned : (edge back).toList.reverse = (edge back).toList := by cases back <;> rfl
  rw [← String.toList_inj, cutEnd, String.toList_ofList, framed, framed, String.toList_append,
    String.toList_append, dropEndWhile, List.reverse_append, List.reverse_append, turned,
    (bounded_squeeze visible).reverse.dropWhile_append]
  simp [edge]

end Framed

theorem Snug.collapse_eq {data : String} (h : Snug data) : collapse data = data := by
  cases h with
  | empty => decide
  | space => decide
  | framed front back visible =>
    rw [collapse_of_visible (isBlankText_framed visible front back), head_framed visible,
      last_framed visible, squeeze_framed_squeeze]
    rfl

theorem snug_cutStart {data : String} (h : Snug data) : Snug (cutStart data) := by
  cases h with
  | empty => exact .empty
  | space => exact .empty
  | framed front back visible =>
    rw [cutStart_framed visible]
    exact .framed _ _ visible

theorem snug_cutEnd {data : String} (h : Snug data) : Snug (cutEnd data) := by
  cases h with
  | empty => exact .empty
  | space => exact .empty
  | framed front back visible =>
    rw [cutEnd_framed visible]
    exact .framed _ _ visible

theorem snug_iff {data : String} : Snug data ↔ collapse data = data :=
  ⟨Snug.collapse_eq, fun same => same ▸ snug_collapse data⟩

end HtmlTemplate.Markup
