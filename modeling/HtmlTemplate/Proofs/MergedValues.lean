import HtmlTemplate.Proofs.ReceivedAttributes
import HtmlTemplate.Proofs.SecondLayout

/-!
# Values that are merged again

A row of declarations is `Settled` when there is nothing at its ends but a semicolon behind it. Merging
styles settles both rows and puts them side by side; the row that comes of it is settled again, so it
does not matter which of several rows are merged first. Classes are merged word by word. Both are
instances of `Joins`, from which it follows that attributes may be merged with each other before they
are given to an element (`map_get?_foldl_assign`).
-/

namespace HtmlTemplate

open HtmlTemplate.Text HtmlTemplate.Markup

/-! ### Texts without blanks at their ends -/

theorem trim_of_bounded {cs : List Char} (h : Bounded cs) : trim cs = cs := by
  have kept {ds : List Char} (h : Bounded ds) : ds.dropWhile isBlank = ds := by
    simpa [edge] using h.dropWhile_append false []
  rw [trim, trimWhile, dropEndWhile, kept h, kept h.reverse, List.reverse_reverse]

theorem bounded_of_trim {cs : List Char} (trimmed : trim cs = cs) (nonempty : cs ≠ []) :
    Bounded cs := by
  have front : cs.dropWhile isBlank = cs := by
    rw [← trimmed]
    exact dropWhile_trim cs
  have back : cs.reverse.dropWhile isBlank = cs.reverse := by
    rw [trim, trimWhile, dropEndWhile, front] at trimmed
    rw [← List.reverse_eq_iff]
    exact trimmed
  have visible {ds : List Char} (h : ds.dropWhile isBlank = ds) :
      ds.head?.any isBlank = false := by
    have first := List.head?_dropWhile_not isBlank ds
    rw [h] at first
    cases ds with
    | nil => rfl
    | cons d ds => simpa using first
  exact ⟨nonempty, visible front, by simpa using visible back⟩

theorem strip_of_bounded {s : String} (h : Bounded s.toList) : strip s = s := by
  rw [strip, trim_of_bounded h, String.ofList_toList]

theorem bounded_of_strip {s : String} (stripped : strip s = s) (nonempty : s ≠ "") :
    Bounded s.toList := by
  refine bounded_of_trim ?_ (by simpa using nonempty)
  have chars := congrArg String.toList stripped
  rwa [strip, String.toList_ofList] at chars

/-- Only the ends of a text matter. -/
theorem bounded_append {cs ds : List Char} (hcs : Bounded cs) (hds : Bounded ds)
    (between : List Char) : Bounded (cs ++ between ++ ds) := by
  refine ⟨by simp [hcs.nonempty], ?_, ?_⟩
  · rw [List.append_assoc, List.head?_append_of_ne_nil _ hcs.nonempty]
    exact hcs.first
  · rw [List.getLast?_append_of_ne_nil _ hds.nonempty]
    exact hds.last

theorem endsWith_append {s ending : String} (front : String) (h : s.endsWith ending = true) :
    (front ++ s).endsWith ending = true := by
  rw [String.endsWith_eq_endsWith_toSlice, String.Slice.endsWith_string_iff] at h ⊢
  rw [String.copy_toSlice] at h ⊢
  rw [String.toList_append]
  exact h.trans (List.suffix_append _ _)

/-- The words on both sides of a blank. -/
theorem words_append_cons {b : Char} (blank : isBlank b = true) (cs ds : List Char) :
    words (cs ++ b :: ds) = words cs ++ words ds := by
  have blanks : [b].all isBlank = true := by simpa using blank
  have after_blank : words (b :: ds) = words ds := words_blanks_append blanks ds
  -- A word is put together from its last character on, so only there the blank is met.
  fun_induction words cs with
  | case1 => exact after_blank
  | case2 c cs here ih =>
    rw [List.cons_append, words.eq_def]
    simp only [here, if_true, ih]
  | case3 c here =>
    rw [List.singleton_append, words.eq_def]
    simp [here, blank, after_blank]
  | case4 c here d cs next ih =>
    rw [List.cons_append, words.eq_def]
    rw [List.cons_append] at ih ⊢
    simp [here, next, ih]
  | case5 c here d cs next empty ih =>
    have visible := flatten_words (d :: cs)
    simp [empty, next] at visible
  | case6 c here d cs next w ws split ih =>
    rw [List.cons_append, words.eq_def]
    rw [List.cons_append, split] at ih
    rw [List.cons_append]
    simp [here, next, ih, split]

theorem words_dropWhile (cs : List Char) : words (cs.dropWhile isBlank) = words cs := by
  conv_rhs => rw [← List.takeWhile_append_dropWhile (p := isBlank) (l := cs)]
  exact (words_blanks_append List.all_takeWhile _).symm

theorem words_trim (cs : List Char) : words (trim cs) = words cs := by
  rw [← words_dropWhile cs, trim, trimWhile]
  generalize cs.dropWhile isBlank = ds
  have split : dropEndWhile isBlank ds ++ ds.rtakeWhile isBlank = ds :=
    List.rdropWhile_append_rtakeWhile
  conv_rhs => rw [← split]
  refine (words_append_blanks _ ?_).symm
  rw [List.all_eq_true]
  exact fun c hc => List.mem_rtakeWhile_imp hc

/-! ### Rows of declarations -/

namespace MergeFunction

/-- A row of declarations has no blanks at its ends and ends with a semicolon, or it is empty. -/
structure Settled (row : String) : Prop where
  stripped : strip row = row
  ended : row = "" ∨ row.endsWith ";" = true

theorem settled_empty : Settled "" := ⟨by decide, .inl rfl⟩

theorem settled_terminated (s : String) : Settled (terminated s) := by
  unfold terminated
  dsimp only
  split
  · rename_i kept
    refine ⟨strip_strip s, ?_⟩
    simpa using kept
  · rename_i open_
    simp only [Bool.or_eq_true, String.isEmpty_iff, not_or] at open_
    have row := bounded_of_strip (strip_strip s) open_.1
    have semicolon : Bounded ";".toList := ⟨by decide, by decide, by decide⟩
    refine ⟨strip_of_bounded ?_, .inr (endsWith_append (strip s) (by decide +kernel))⟩
    simpa using bounded_append row semicolon []

theorem Settled.terminated_eq {row : String} (h : Settled row) : terminated row = row := by
  obtain ⟨stripped, ended⟩ := h
  unfold terminated
  rw [stripped]
  rcases ended with rfl | ended
  · rfl
  · simp [ended]

/-- Two rows of declarations with a space between them, if none is empty. -/
def beside (front back : String) : String :=
  String.intercalate " " ([front, back].filter (!·.isEmpty))

theorem beside_empty_left (row : String) : beside "" row = row := by
  by_cases h : row = "" <;> simp [beside, h]

theorem beside_empty_right (row : String) : beside row "" = row := by
  by_cases h : row = "" <;> simp [beside, h]

theorem beside_of_nonempty {front back : String} (hfront : front ≠ "") (hback : back ≠ "") :
    beside front back = front ++ " " ++ back := by
  simp [beside, hfront, hback]

theorem beside_assoc (a b c : String) : beside (beside a b) c = beside a (beside b c) := by
  by_cases ha : a = ""
  · rw [ha, beside_empty_left, beside_empty_left]
  by_cases hb : b = ""
  · rw [hb, beside_empty_left, beside_empty_right]
  by_cases hc : c = ""
  · rw [hc, beside_empty_right, beside_empty_right]
  have spaced (front back : String) : front ++ " " ++ back ≠ "" := by simp
  rw [beside_of_nonempty ha hb, beside_of_nonempty hb hc, beside_of_nonempty (spaced a b) hc,
    beside_of_nonempty ha (spaced b c)]
  simp only [String.append_assoc]

theorem Settled.beside {front back : String} (hfront : Settled front) (hback : Settled back) :
    Settled (beside front back) := by
  by_cases front_empty : front = ""
  · rwa [front_empty, beside_empty_left]
  by_cases back_empty : back = ""
  · rwa [back_empty, beside_empty_right]
  rw [beside_of_nonempty front_empty back_empty]
  have ends := bounded_append (bounded_of_strip hfront.stripped front_empty)
    (bounded_of_strip hback.stripped back_empty) [' ']
  refine ⟨strip_of_bounded (by simpa using ends), .inr (endsWith_append _ ?_)⟩
  exact hback.ended.resolve_left back_empty

/-- The row that merging styles comes to. -/
def styleRow (front back : String) : String := beside (terminated front) (terminated back)

theorem styles_eq (front? : Option String) (back : String) :
    styles front? back = .value (styleRow (front?.getD "") back) := rfl

theorem settled_styleRow (front back : String) : Settled (styleRow front back) :=
  (settled_terminated front).beside (settled_terminated back)

theorem styleRow_empty_left (row : String) : styleRow "" row = terminated row := by
  rw [styleRow, settled_empty.terminated_eq, beside_empty_left]

theorem styleRow_assoc (a b c : String) :
    styleRow (styleRow a b) c = styleRow a (styleRow b c) := by
  rw [styleRow, (settled_styleRow a b).terminated_eq, styleRow, beside_assoc, styleRow,
    (settled_styleRow b c).terminated_eq, styleRow]

/-! ### Classes -/

theorem exists_words_classes (existing? : Option String) (incoming : String) :
    ∃ s, classes existing? incoming = .value s ∧
      words s.toList = words (existing?.getD "").toList ++ words incoming.toList := by
  have space : " ".toList = [' '] := by decide
  refine ⟨_, rfl, ?_⟩
  rw [strip, String.toList_ofList, words_trim, String.toList_append, String.toList_append,
    List.append_assoc, space, List.singleton_append]
  exact words_append_cons (by decide) _ _

/-! ### Merging one after another -/

/-- What an attribute is after a value is merged in. -/
def held? (f : MergeFunction) (existing? : Option String) (incoming : String) : Option String :=
  match f existing? incoming with
  | .value s => some s
  | .present => some ""
  | .removed => none

/-- Merging joins the content of the values, and nothing comes of an absent value. -/
structure Joins {α : Type} (f : MergeFunction) (content : String → α) (join : α → α → α) :
    Prop where
  value : ∀ existing? incoming, ∃ s, f existing? incoming = .value s ∧
    content s = join (content (existing?.getD "")) (content incoming)
  assoc : ∀ a b c, join (join a b) c = join a (join b c)
  absorb : ∀ a b, join a (join (content "") b) = join a b

theorem joins_styles : Joins styles id styleRow where
  value existing? incoming := ⟨_, styles_eq existing? incoming, by simp only [id_eq]⟩
  assoc := styleRow_assoc
  absorb a b := by
    rw [id_eq, styleRow_empty_left, styleRow, (settled_terminated b).terminated_eq, styleRow]

theorem joins_classes : Joins classes (fun s => words s.toList) (· ++ ·) where
  value := exists_words_classes
  assoc a b c := List.append_assoc a b c
  absorb a b := by
    have none : words "".toList = [] := by simp [words]
    rw [none, List.nil_append]

namespace Joins

variable {α : Type} {f : MergeFunction} {content : String → α} {join : α → α → α}

theorem held?_eq (h : f.Joins content join) (existing? : Option String) (incoming : String) :
    ∃ s, f.held? existing? incoming = some s ∧
      content s = join (content (existing?.getD "")) (content incoming) := by
  obtain ⟨s, value, same⟩ := h.value existing? incoming
  exact ⟨s, by rw [held?, value], same⟩

theorem map_held? (h : f.Joins content join) (existing? : Option String) (incoming : String) :
    (f.held? existing? incoming).map content =
      some (join ((existing?.map content).getD (content "")) (content incoming)) := by
  obtain ⟨s, held, same⟩ := h.held?_eq existing? incoming
  rw [held, Option.map_some, same]
  cases existing? <;> rfl

/-- Values may be merged with the first of them before they are merged with what is there. -/
theorem map_foldl_held? (h : f.Joins content join) (existing? first? : Option String)
    (rest : List String) :
    (rest.foldl f.held? (first?.elim existing? (f.held? existing?))).map content =
      ((rest.foldl f.held? first?).elim existing? (f.held? existing?)).map content := by
  induction rest using List.reverseRecOn with
  | nil => rfl
  | append_singleton rest v ih =>
    simp only [List.foldl_append, List.foldl_cons, List.foldl_nil]
    rw [h.map_held?, ih]
    cases rest.foldl f.held? first? with
    | none =>
      obtain ⟨s, held, same⟩ := h.held?_eq none v
      rw [held, Option.elim_none, Option.elim_some, h.map_held?, same]
      exact congrArg some (h.absorb _ _).symm
    | some u =>
      obtain ⟨s, held, same⟩ := h.held?_eq (some u) v
      rw [held, Option.elim_some, Option.elim_some, h.map_held?, h.map_held?, same]
      exact congrArg some (h.assoc _ _ _)

end Joins

end MergeFunction

/-! ### Assigning one after another -/

namespace MergeRegistry

/-- A strategy that is always there decides about its attribute when no other has the name. -/
theorem resolve_of_standard {given : List MergeStrategy} {s : MergeStrategy} {name : String}
    (standard : s ∈ MergeStrategy.standard) (named : s.name? = some name)
    (unnamed : ∀ g ∈ given, g.name? ≠ some name) : (ofStrategies given).resolve name = s.merge := by
  have missed : given.find? (fun g => g.name? == some name) = none :=
    List.find?_eq_none.2 fun g hg => by simpa using unnamed g hg
  have found : (ofStrategies given).named? name = some s := by
    rw [named?, ofStrategies, List.find?_append, missed, Option.none_or, List.find?_filter]
    rw [MergeStrategy.standard, List.mem_cons, List.mem_singleton] at standard
    rcases standard with rfl | rfl <;> obtain rfl := Option.some.inj named <;>
      simpa [MergeStrategy.standard, MergeStrategy.name?] using unnamed
  rw [resolve, found]

theorem nodup_names_assignOne (r : MergeRegistry) {own : Bindings String}
    (distinct : own.names.Nodup) (name value : String) :
    (r.assignOne own name value).names.Nodup := by
  unfold assignOne
  cases r.resolve name (own.get? name) value with
  | value s => exact Bindings.nodup_names_put distinct name s
  | present => exact Bindings.nodup_names_put distinct name ""
  | removed => exact Bindings.nodup_names_erase distinct name

theorem nodup_names_assign (r : MergeRegistry) {own : Bindings String} (distinct : own.names.Nodup)
    (given : Bindings String) : (r.assign own given).names.Nodup := by
  induction given generalizing own with
  | nil => exact distinct
  | cons entry given ih => exact ih (r.nodup_names_assignOne distinct entry.1 entry.2)

variable (r : MergeRegistry) {first : Bindings String} {rest : List (Bindings String)}

theorem nodup_names_foldl_assign (distinct : first.names.Nodup) (rest : List (Bindings String)) :
    (rest.foldl r.assign first).names.Nodup := by
  induction rest generalizing first with
  | nil => exact distinct
  | cons given rest ih => exact ih (r.nodup_names_assign distinct given)

/-- What an attribute is when attributes are assigned depends on its own value only. -/
theorem get?_assign_eq_elim (distinct : first.names.Nodup) (own : Bindings String)
    (name : String) : (r.assign own first).get? name =
      (first.get? name).elim (own.get? name) ((r.resolve name).held? (own.get? name)) := by
  rw [get?_assign r distinct]
  cases first.get? name <;> rfl

theorem get?_foldl_assign (distinct : ∀ given ∈ rest, given.names.Nodup) (own : Bindings String)
    (name : String) : (rest.foldl r.assign own).get? name =
      (rest.filterMap (·.get? name)).foldl (r.resolve name).held? (own.get? name) := by
  induction rest generalizing own with
  | nil => rfl
  | cons given rest ih =>
    obtain ⟨here, others⟩ := List.forall_mem_cons.1 distinct
    rw [List.foldl_cons, ih others, r.get?_assign_eq_elim here, List.filterMap_cons]
    cases given.get? name <;> rfl

variable {r} {α : Type} {name : String} {content : String → α} {join : α → α → α}

/-- Attributes may be merged with each other before they are given to an element. -/
theorem map_get?_foldl_assign (joins : (r.resolve name).Joins content join)
    (distinct : ∀ given ∈ first :: rest, given.names.Nodup) (own : Bindings String) :
    (((first :: rest).foldl r.assign own).get? name).map content =
      ((r.assign own (rest.foldl r.assign first)).get? name).map content := by
  obtain ⟨here, others⟩ := List.forall_mem_cons.1 distinct
  rw [List.foldl_cons, r.get?_foldl_assign others, r.get?_assign_eq_elim here,
    r.get?_assign_eq_elim (r.nodup_names_foldl_assign here rest), r.get?_foldl_assign others]
  exact joins.map_foldl_held? _ _ _

end MergeRegistry

end HtmlTemplate
