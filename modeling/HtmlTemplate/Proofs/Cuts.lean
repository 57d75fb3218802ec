import HtmlTemplate.Markup.Scanner
import Mathlib.Data.List.Infix
import Mathlib.Data.List.TakeWhile

/-!
# Cuts

Where the scanner cuts a text: `cutAt close` stops at the first match of `close`
(`cutAt_eq_some_iff`). What closes a construct is read off the beginning of a text, so that a match
stays one whatever comes after the text (`Extends`); a text in front of a cut therefore holds no
match by itself (`Extends.cutAt_before`).
-/

namespace HtmlTemplate.Markup

open HtmlTemplate.Text

/-! ### Runs of characters -/

theorem takeWhile_append_cons {p : Char → Bool} {d : Char} (h : p d = false) (cs rest : List Char) :
    (cs ++ d :: rest).takeWhile p = cs.takeWhile p := by
  rw [List.takeWhile_append]
  split
  · rename_i whole
    have front : cs.takeWhile p <+: cs := List.takeWhile_prefix p
    rw [List.takeWhile_cons_of_neg (by simp [h]), List.append_nil]
    exact (front.eq_of_length whole).symm
  · rfl

theorem dropWhile_append_cons {p : Char → Bool} {d : Char} (h : p d = false) (cs rest : List Char) :
    (cs ++ d :: rest).dropWhile p = cs.dropWhile p ++ d :: rest := by
  rw [List.dropWhile_append]
  split
  · rename_i none
    rw [List.isEmpty_iff.1 none, List.dropWhile_cons_of_neg (by simp [h]), List.nil_append]
  · rfl

theorem not_mem_takeWhile {p : Char → Bool} {c : Char} (h : p c = false) (cs : List Char) :
    c ∉ cs.takeWhile p := fun mem => by
  rw [List.mem_takeWhile_imp mem] at h
  cases h

@[simp]
theorem isBlank_bracket : isBlank '>' = false := by decide

/-! ### The first match -/

/-- A text is cut at the first place that matches. -/
theorem cutAt_append {close : List Char → Option (List Char)} {before from_ after : List Char}
    (misses : ∀ gone left, before = gone ++ left → left ≠ [] → close (left ++ from_) = none)
    (hit : close from_ = some after) :
    cutAt close (before ++ from_) = some (before, from_, after) := by
  induction before with
  | nil =>
    cases from_ with
    | nil => simp [cutAt, hit]
    | cons c cs => simp [cutAt, hit]
  | cons c cs ih =>
    have miss : close (c :: (cs ++ from_)) = none := misses [] (c :: cs) rfl (List.cons_ne_nil c cs)
    have later := ih fun gone left split nonempty =>
      misses (c :: gone) left (by rw [split, List.cons_append]) nonempty
    simp [cutAt, miss, later]

theorem cutAt_eq_some {close : List Char → Option (List Char)} {cs before from_ after : List Char}
    (h : cutAt close cs = some (before, from_, after)) :
    cs = before ++ from_ ∧ close from_ = some after ∧
      ∀ gone left, before = gone ++ left → left ≠ [] → close (left ++ from_) = none := by
  induction cs generalizing before with
  | nil =>
    simp only [cutAt, Option.map_eq_some_iff, Prod.mk.injEq] at h
    obtain ⟨_, hit, rfl, rfl, rfl⟩ := h
    refine ⟨rfl, hit, fun gone left split nonempty => ?_⟩
    exact absurd (List.append_eq_nil_iff.1 split.symm).2 nonempty
  | cons c cs ih =>
    rw [cutAt] at h
    split at h
    · rename_i after' hit
      cases h
      refine ⟨rfl, hit, fun gone left split nonempty => ?_⟩
      exact absurd (List.append_eq_nil_iff.1 split.symm).2 nonempty
    · rename_i miss
      obtain ⟨cut, later, same⟩ := Option.map_eq_some_iff.1 h
      obtain ⟨rfl, rfl, rfl⟩ := Prod.mk.inj same |>.imp_right Prod.mk.inj
      obtain ⟨split, hit, misses⟩ := ih later
      refine ⟨by rw [split, List.cons_append], hit, fun gone left parts nonempty => ?_⟩
      cases gone with
      | nil =>
        rw [← (show c :: cut.1 = left from parts), List.cons_append, ← split]
        exact miss
      | cons d gone =>
        exact misses gone left (List.cons.inj parts).2 nonempty

theorem cutAt_eq_none_iff {close : List Char → Option (List Char)} {cs : List Char} :
    cutAt close cs = none ↔ ∀ left, left <:+ cs → close left = none := by
  induction cs with
  | nil => simp [cutAt]
  | cons c cs ih =>
    rw [cutAt]
    cases first : close (c :: cs) with
    | some after =>
      refine iff_of_false (fun h => nomatch h) fun none => ?_
      rw [none _ List.suffix_rfl] at first
      cases first
    | none =>
      simp only [Option.map_eq_none_iff, ih, List.suffix_cons_iff, forall_eq_or_imp, first,
        true_and]

/-- A text without a match is cut right behind it when none begins in it. -/
theorem cutAt_of_none {close : List Char → Option (List Char)} {data tail rest : List Char}
    (clear : cutAt close data = none)
    (crosses : ∀ left, left ≠ [] → close left = none → close (left ++ tail) = none)
    (hit : close tail = some rest) : cutAt close (data ++ tail) = some (data, tail, rest) :=
  cutAt_append (fun gone left split nonempty => crosses left nonempty
    (cutAt_eq_none_iff.1 clear left ⟨gone, split.symm⟩)) hit

theorem cutAt_closeChar {c : Char} {before : List Char} (h : c ∉ before) (rest : List Char) :
    cutAt (closeChar c) (before ++ c :: rest) = some (before, c :: rest, rest) := by
  refine cutAt_append (fun gone left split nonempty => ?_) (by simp [closeChar])
  cases left with
  | nil => exact absurd rfl nonempty
  | cons d ds =>
    have other : d ≠ c := by
      rintro rfl
      exact h (by simp [split])
    simp [closeChar, other]

theorem cutAt_closeChar_eq_none_iff {c : Char} {cs : List Char} :
    cutAt (closeChar c) cs = none ↔ c ∉ cs := by
  induction cs with
  | nil => simp [cutAt, closeChar]
  | cons d ds ih =>
    by_cases same : d = c
    · simp [cutAt, closeChar, same]
    · have other : ¬ c = d := fun h => same h.symm
      simp [cutAt, closeChar, same, other, ih]

theorem closeChar_eq_some {c : Char} {cs after : List Char} (h : closeChar c cs = some after) :
    cs = c :: after := by
  cases cs with
  | nil => cases h
  | cons d ds =>
    rw [closeChar] at h
    split at h
    · rename_i same
      rw [Option.some.inj h, same]
    · cases h

/-- A text is cut at the first occurrence of a character. -/
theorem cutAt_closeChar_eq_some {c : Char} {cs before from_ after : List Char}
    (h : cutAt (closeChar c) cs = some (before, from_, after)) :
    cs = before ++ c :: after ∧ from_ = c :: after ∧ c ∉ before := by
  obtain ⟨split, hit, misses⟩ := cutAt_eq_some h
  obtain rfl := closeChar_eq_some hit
  refine ⟨split, rfl, fun mem => ?_⟩
  obtain ⟨gone, left, parts⟩ := List.append_of_mem mem
  have := misses gone (c :: left) parts (List.cons_ne_nil c left)
  rw [List.cons_append, closeChar, if_pos rfl] at this
  cases this

/-! ### Matches and what comes after -/

/-- A match at the front of a text stays one when the text goes on. -/
structure Extends (close : List Char → Option (List Char)) : Prop where
  append : ∀ {cs after : List Char} (rest : List Char),
    close cs = some after → close (cs ++ rest) = some (after ++ rest)

/-- In front of a cut no match ends. -/
theorem Extends.cutAt_before {close : List Char → Option (List Char)} (ext : Extends close)
    (empty : close [] = none) {cs before from_ after : List Char}
    (h : cutAt close cs = some (before, from_, after)) : cutAt close before = none := by
  obtain ⟨-, -, misses⟩ := cutAt_eq_some h
  refine cutAt_eq_none_iff.2 fun left ⟨gone, split⟩ => ?_
  by_cases nonempty : left = []
  · rw [nonempty, empty]
  · cases hit : close left with
    | none => rfl
    | some after' =>
      have := misses gone left split.symm nonempty
      rw [ext.append from_ hit] at this
      cases this

theorem extends_closeChar (c : Char) : Extends (closeChar c) := by
  refine ⟨fun {cs after} rest h => ?_⟩
  cases cs with
  | nil => cases h
  | cons d ds =>
    rw [closeChar] at h
    split at h
    · rename_i same
      cases h
      rw [List.cons_append, closeChar, if_pos same]
    · cases h

/-- Skipping characters does not go past a match. -/
theorem Extends.skip {close : List Char → Option (List Char)} (ext : Extends close)
    (empty : close [] = none) (p : Char → Bool) : Extends fun cs => close (cs.dropWhile p) := by
  refine ⟨fun {cs after} rest h => ?_⟩
  have nonempty : cs.dropWhile p ≠ [] := by
    intro none
    rw [none, empty] at h
    cases h
  rw [List.dropWhile_append, if_neg (by simpa using nonempty)]
  exact ext.append rest h

/-- One match after another, each of a text that a match leaves. -/
theorem Extends.bind {close next : List Char → Option (List Char)} (ext : Extends close)
    (later : Extends next) : Extends fun cs => (close cs).bind next := by
  refine ⟨fun rest h => ?_⟩
  obtain ⟨mid, first, second⟩ := Option.bind_eq_some_iff.1 h
  rw [ext.append rest first, Option.bind_some, later.append rest second]

theorem closeSpaced_nil {marks : List Char} (h : marks ≠ []) : closeSpaced marks [] = none := by
  cases marks with
  | nil => exact absurd rfl h
  | cons c marks => rfl

theorem extends_closeSpaced (marks : List Char) : Extends (closeSpaced marks) := by
  induction marks with
  | nil =>
    refine ⟨fun {cs after} rest h => ?_⟩
    cases h
    rfl
  | cons c marks ih =>
    refine ⟨fun {cs after} rest h => ?_⟩
    rw [closeSpaced] at h
    split at h
    · cases h
    · rename_i mid first
      rw [closeSpaced, (extends_closeChar c).append rest first]
      dsimp only
      cases marks with
      | nil => exact ih.append rest h
      | cons d marks =>
        exact ih.skip (closeSpaced_nil (List.cons_ne_nil d marks)) isBlank |>.append rest h

theorem extends_closeComment : Extends closeComment := by
  refine ⟨fun {cs after} rest h => ?_⟩
  unfold closeComment at h
  split at h
  · exact (extends_closeChar '>').skip rfl isBlank |>.append rest h
  · cases h

theorem extends_closeWord (word : List Char) : Extends (closeWord word) := by
  induction word with
  | nil =>
    refine ⟨fun {cs after} rest h => ?_⟩
    cases h
    rfl
  | cons w ws ih =>
    refine ⟨fun {cs after} rest h => ?_⟩
    cases cs with
    | nil => cases h
    | cons c cs =>
      rw [closeWord] at h
      split at h
      · rename_i same
        rw [List.cons_append, closeWord, if_pos same, ih.append rest h]
      · cases h

/-- What follows the opening of an end tag that closes raw text. -/
theorem extends_closeRaw {tag : String} (named : tag ≠ "") : Extends (closeRaw tag) := by
  refine ⟨fun {cs after} rest h => ?_⟩
  unfold closeRaw at h
  split at h
  · rename_i body
    have empty : closeWord tag.toList [] = none := by
      cases chars : tag.toList with
      | nil => exact absurd (String.toList_eq_nil_iff.1 chars) named
      | cons w ws => rfl
    exact ((extends_closeWord tag.toList).skip empty isBlank).bind
      ((extends_closeChar '>').skip rfl isBlank) |>.append rest h
  · cases h

/-! ### Characters that no match goes past -/

/-- Whether a match ends before the character `d`: it depends on nothing from there on. -/
structure EndsBefore (close : List Char → Option (List Char)) (d : Char) : Prop where
  append : ∀ cs rest, close (cs ++ d :: rest) = (close cs).map (· ++ d :: rest)

theorem endsBefore_closeChar {c d : Char} (h : d ≠ c) : EndsBefore (closeChar c) d := by
  refine ⟨fun cs rest => ?_⟩
  cases cs with
  | nil => simp [closeChar, h]
  | cons e es =>
    rw [List.cons_append, closeChar, closeChar]
    split <;> rfl

theorem EndsBefore.skip {close : List Char → Option (List Char)} {d : Char}
    (ends : EndsBefore close d) {p : Char → Bool} (h : p d = false) :
    EndsBefore (fun cs => close (cs.dropWhile p)) d := by
  refine ⟨fun cs rest => ?_⟩
  rw [dropWhile_append_cons h]
  exact ends.append _ rest

theorem EndsBefore.bind {close next : List Char → Option (List Char)} {d : Char}
    (ends : EndsBefore close d) (later : EndsBefore next d) :
    EndsBefore (fun cs => (close cs).bind next) d := by
  refine ⟨fun cs rest => ?_⟩
  rw [ends.append]
  cases close cs with
  | none => rfl
  | some mid => exact later.append mid rest

theorem endsBefore_closeWord {word : List Char} {d : Char}
    (h : ∀ w ∈ word, sameLetter w d = false) : EndsBefore (closeWord word) d := by
  induction word with
  | nil => exact ⟨fun cs rest => rfl⟩
  | cons w ws ih =>
    refine ⟨fun cs rest => ?_⟩
    cases cs with
    | nil => simp [closeWord, h w List.mem_cons_self]
    | cons c cs =>
      rw [List.cons_append, closeWord, closeWord]
      split
      · exact (ih fun w hw => h w (List.mem_cons_of_mem _ hw)).append cs rest
      · rfl

end HtmlTemplate.Markup
