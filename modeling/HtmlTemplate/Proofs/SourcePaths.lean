import HtmlTemplate.Component.Loader
import HtmlTemplate.Proofs.Segments
import Mathlib.Tactic.SplitIfs

/-!
# Paths of component sources

What a path becomes when texts are followed from it (`joinAll_of_relative`,
`joinAll_of_absolute`), and where a path leads in a file tree (`follow_append`,
`eq_of_follow`). The paths that are tried for a component lie below the directory of the loader, and
lead to places below it, unless a segment of the name begins with a slash; then they start at the
root of all files, whatever the directory is (`candidate_below_iff`).
-/

namespace HtmlTemplate.Component

open Naming

/-! ### Joining -/

namespace Path

variable {p : Path} {s : String} {segments : List String}

@[simp]
theorem joinAll_nil (p : Path) : p.joinAll [] = p := rfl

@[simp]
theorem joinAll_cons (p : Path) (s : String) (segments : List String) :
    p.joinAll (s :: segments) = (p.join (ofString s)).joinAll segments := rfl

/-- A text denotes a path from the root of all files when it begins with a slash. -/
theorem absolute_ofString (s : String) :
    (ofString s).absolute = true ↔ s.toList.head? = some '/' := by
  have slashes (n : Nat) : Anchor.ofSlashes (n + 1) ≠ .here := by
    unfold Anchor.ofSlashes
    split <;> simp_all
  rw [absolute, bne_iff_ne, ofString]
  dsimp only
  cases s.toList with
  | nil => simp [Anchor.ofSlashes]
  | cons c cs =>
    by_cases slash : c = '/'
    · simp [slash, slashes]
    · simp [slash, Anchor.ofSlashes]

/-- Texts that denote no path from the root of all files add their parts. -/
theorem joinAll_of_relative (relative : ∀ s ∈ segments, (ofString s).absolute = false) :
    p.joinAll segments =
      ⟨p.anchor, p.parts ++ segments.flatMap fun s => (ofString s).parts⟩ := by
  induction segments generalizing p with
  | nil => simp
  | cons s segments ih =>
    have here : p.join (ofString s) = ⟨p.anchor, p.parts ++ (ofString s).parts⟩ := by
      rw [join, relative s List.mem_cons_self]
      rfl
    rw [joinAll_cons, ih fun s' hs => relative s' (List.mem_cons_of_mem s hs), here]
    simp

/-- A text that denotes a path from the root of all files discards what is before it. -/
theorem joinAll_of_absolute (top : ∃ s ∈ segments, (ofString s).absolute = true) (p q : Path) :
    p.joinAll segments = q.joinAll segments ∧ (p.joinAll segments).absolute = true := by
  induction segments generalizing p q with
  | nil => simp at top
  | cons s segments ih =>
    rw [joinAll_cons, joinAll_cons]
    by_cases later : ∃ s ∈ segments, (ofString s).absolute = true
    · exact ih later _ _
    · have first : (ofString s).absolute = true := by
        obtain ⟨s', hs, absolute⟩ := top
        rcases List.mem_cons.1 hs with rfl | hs
        · exact absolute
        · exact absurd ⟨s', hs, absolute⟩ later
      have relative : ∀ s ∈ segments, (ofString s).absolute = false := fun s hs =>
        Bool.eq_false_iff.2 fun absolute => later ⟨s, hs, absolute⟩
      have discards (p : Path) : p.join (ofString s) = ofString s := by
        rw [join, if_pos first]
      refine ⟨by rw [discards, discards], ?_⟩
      rw [discards, joinAll_of_relative relative]
      exact first

theorem mem_parts_ofString {part : String} :
    part ∈ (ofString s).parts ↔ part.toList ∈ splitAt '/' s.toList ∧ part ≠ "" ∧ part ≠ "." := by
  have texts : part ∈ (splitAt '/' s.toList).map String.ofList ↔
      part.toList ∈ splitAt '/' s.toList := by
    rw [List.mem_map]
    constructor
    · rintro ⟨segment, mem, rfl⟩
      rwa [String.toList_ofList]
    · exact fun mem => ⟨part.toList, mem, String.ofList_toList⟩
  simp [ofString, texts]

/-- A text with one dot at most has no part that leads upwards. -/
theorem not_mem_parts_of_count (h : s.toList.count '.' ≤ 1) : ".." ∉ (ofString s).parts := by
  intro mem
  have pieces := (sublist_of_mem_splitAt (mem_parts_ofString.1 mem).1).count_le '.'
  have two : "..".toList.count '.' = 2 := by decide
  omega

/-- A text with a character that is neither a dot nor a slash has a part. -/
theorem parts_ne_nil {c : Char} (mem : c ∈ s.toList) (slash : c ≠ '/') (dot : c ≠ '.') :
    (ofString s).parts ≠ [] := by
  obtain ⟨segment, hsegment, inside⟩ := exists_mem_splitAt mem slash
  have here : String.ofList segment ∈ (ofString s).parts := by
    refine mem_parts_ofString.2 ⟨by rwa [String.toList_ofList], fun empty => ?_, fun single => ?_⟩
    · have bare : segment = [] := by simpa using congrArg String.toList empty
      simp [bare] at inside
    · have bare : segment = ['.'] := by simpa using congrArg String.toList single
      simp [bare, dot] at inside
  exact List.ne_nil_of_mem here

/-- A path is another one with further parts behind, none of which leads upwards. -/
def Below (root p : Path) : Prop :=
  p.anchor = root.anchor ∧ ∃ rest, rest ≠ [] ∧ ".." ∉ rest ∧ p.parts = root.parts ++ rest

/-- Texts of which none begins with a slash or has two dots, and one has more than dots and slashes,
lead below a path. -/
theorem below_joinAll (relative : ∀ s ∈ segments, (ofString s).absolute = false)
    (level : ∀ s ∈ segments, s.toList.count '.' ≤ 1) (some : ∃ s ∈ segments, 'h' ∈ s.toList) :
    Below p (p.joinAll segments) := by
  rw [joinAll_of_relative relative]
  refine ⟨rfl, _, ?_, ?_, rfl⟩
  · obtain ⟨s, hs, letter⟩ := some
    have part := parts_ne_nil letter (by decide) (by decide)
    rw [ne_eq, List.flatMap_eq_nil_iff]
    exact fun none => part (none s hs)
  · rw [List.mem_flatMap]
    rintro ⟨s, hs, up⟩
    exact not_mem_parts_of_count (level s hs) up

end Path

/-! ### Following -/

namespace FileTree

variable {t : FileTree}

theorem follow_append (t : FileTree) (here ps qs : List String) :
    t.follow here (ps ++ qs) = (t.follow here ps).bind fun place => t.follow place qs := by
  induction ps generalizing here with
  | nil => rfl
  | cons p ps ih =>
    rw [List.cons_append, follow, follow]
    split_ifs
    · rfl
    · rfl
    · exact ih _
    · rfl
    · rfl
    · exact ih _

/-- Parts that do not lead upwards lead downwards. -/
theorem eq_of_follow {here place ps : List String} (down : ".." ∉ ps)
    (h : t.follow here ps = .ok place) : place = here ++ ps := by
  induction ps generalizing here with
  | nil =>
    rw [follow] at h
    simpa using (Except.ok.inj h).symm
  | cons p ps ih =>
    have notUp : p ≠ ".." := fun same => down (same ▸ List.mem_cons_self)
    rw [follow] at h
    simp only [beq_iff_eq, notUp, if_false] at h
    split_ifs at h
    rw [ih (fun mem => down (List.mem_cons_of_mem p mem)) h]
    simp

/-- What is below a path is below the place that it leads to. -/
theorem place_of_below {root p : Path} {top place : List String} (below : root.Below p)
    (htop : t.resolve root = .ok top) (h : t.resolve p = .ok place) :
    ∃ rest, rest ≠ [] ∧ place = top ++ rest := by
  obtain ⟨-, rest, some, down, parts⟩ := below
  have follows {q : Path} {dest : List String} (h : t.resolve q = .ok dest) :
      t.follow [] q.parts = .ok dest := by
    unfold resolve at h
    split_ifs at h
    exact h
  have walk := follows h
  rw [parts, follow_append, follows htop] at walk
  exact ⟨rest, some, eq_of_follow down walk⟩

end FileTree

/-! ### Candidates -/

namespace Loader

/-- What stands between the dots of a name. -/
def segments (name : String) : List String := (splitAt '.' name.toList).map String.ofList

/-- A segment of a name begins with a slash. -/
def StartsAtTop (name : String) : Prop := ∃ s ∈ segments name, s.toList.head? = some '/'

instance (name : String) : Decidable (StartsAtTop name) :=
  inferInstanceAs (Decidable (∃ s ∈ segments name, _))

variable {root c : Path} {name : String}

theorem count_dot_of_mem_segments {s : String} (h : s ∈ segments name) :
    s.toList.count '.' = 0 := by
  obtain ⟨segment, mem, rfl⟩ := List.mem_map.1 h
  rw [String.toList_ofList]
  exact List.count_eq_zero.2 (not_mem_of_mem_splitAt mem)

theorem exists_segments (name : String) : ∃ dirs last, segments name = dirs ++ [last] := by
  have some : segments name ≠ [] := by
    simpa [segments] using splitAt_ne_nil '.' name.toList
  obtain ⟨dirs, last, split⟩ := (List.eq_nil_or_concat (segments name)).resolve_left some
  exact ⟨dirs, last, split.trans List.concat_eq_append⟩

/-- The texts that are followed from the directory of a loader: the segments of a name, the last one
with an ending or with the index file behind it. -/
def attempts (name : String) : List (List String) :=
  let dirs := (segments name).dropLast
  let last := (segments name).getLastD ""
  [dirs ++ [last ++ ".html"], dirs ++ [last, "index.html"]]

theorem candidates_eq (root : Path) (name : String) :
    candidates root name = (attempts name).map root.joinAll := rfl

theorem mem_attempts_iff {dirs texts : List String} {last : String}
    (split : segments name = dirs ++ [last]) : texts ∈ attempts name ↔
      texts = dirs ++ [last ++ ".html"] ∨ texts = dirs ++ [last, "index.html"] := by
  simp [attempts, split]

theorem absolute_attempt_iff {texts : List String} (h : texts ∈ attempts name) :
    (∃ s ∈ texts, (Path.ofString s).absolute = true) ↔ StartsAtTop name := by
  obtain ⟨dirs, last, split⟩ := exists_segments name
  have file : (last ++ ".html").toList.head? = some '/' ↔ last.toList.head? = some '/' := by
    rw [String.toList_append]
    cases last.toList <;> simp
  have index : "index.html".toList.head? ≠ some '/' := by decide
  simp only [StartsAtTop, split, Path.absolute_ofString]
  rcases (mem_attempts_iff split).1 h with rfl | rfl <;>
    simp only [List.mem_append, List.mem_cons, List.not_mem_nil, or_false, or_and_right, exists_or,
      exists_eq_left, file, index]

theorem below_joinAll_attempt {texts : List String} (h : texts ∈ attempts name)
    (inside : ¬ StartsAtTop name) : root.Below (root.joinAll texts) := by
  obtain ⟨dirs, last, split⟩ := exists_segments name
  have level {s : String} (hs : s ∈ dirs ++ [last]) : s.toList.count '.' ≤ 1 := by
    rw [count_dot_of_mem_segments (split ▸ hs)]
    exact Nat.zero_le 1
  have file : (last ++ ".html").toList.count '.' ≤ 1 := by
    have mem : last ∈ segments name := split ▸ List.mem_append_right dirs List.mem_cons_self
    rw [String.toList_append, List.count_append, count_dot_of_mem_segments mem]
    decide
  have index : "index.html".toList.count '.' ≤ 1 := by decide
  refine Path.below_joinAll (fun s hs => ?_) (fun s hs => ?_) ?_
  · exact Bool.eq_false_iff.2 fun top => inside ((absolute_attempt_iff h).1 ⟨s, hs, top⟩)
  · rcases (mem_attempts_iff split).1 h with rfl | rfl <;>
      simp only [List.mem_append, List.mem_cons, List.not_mem_nil, or_false] at hs
    · rcases hs with hs | rfl
      · exact level (List.mem_append_left _ hs)
      · exact file
    · rcases hs with hs | rfl | rfl
      · exact level (List.mem_append_left _ hs)
      · exact level (List.mem_append_right dirs List.mem_cons_self)
      · exact index
  · rcases (mem_attempts_iff split).1 h with rfl | rfl
    · exact ⟨last ++ ".html", by simp, by simp⟩
    · exact ⟨"index.html", by simp, by decide⟩

/-- A path that is tried for a component is below the directory of the loader, unless a segment of
the name begins with a slash: then it starts at the root of all files and does not depend on the
directory. What is below the directory leads below its place in every file tree. -/
theorem candidate_below_iff (relative : root.absolute = false) (hc : c ∈ candidates root name) :
    (root.Below c ↔ ¬ StartsAtTop name) ∧
      (StartsAtTop name → c.absolute = true ∧ ∀ other, c ∈ candidates other name) ∧
      (¬ StartsAtTop name → ∀ (t : FileTree) top place, t.resolve root = .ok top →
        t.resolve c = .ok place → ∃ rest, rest ≠ [] ∧ place = top ++ rest) := by
  rw [candidates_eq] at hc
  obtain ⟨texts, htexts, rfl⟩ := List.mem_map.1 hc
  have outside (starts : StartsAtTop name) (other : Path) :
      root.joinAll texts = other.joinAll texts ∧ (root.joinAll texts).absolute = true :=
    Path.joinAll_of_absolute ((absolute_attempt_iff htexts).2 starts) root other
  have below (inside : ¬ StartsAtTop name) : root.Below (root.joinAll texts) :=
    below_joinAll_attempt htexts inside
  refine ⟨⟨fun inside starts => ?_, below⟩, fun starts => ?_,
    fun inside t top place htop hplace => ?_⟩
  · have anchor : (root.joinAll texts).absolute = root.absolute := by
      rw [Path.absolute, inside.1, Path.absolute]
    rw [(outside starts root).2, relative] at anchor
    cases anchor
  · refine ⟨(outside starts root).2, fun other => ?_⟩
    rw [candidates_eq, (outside starts other).1]
    exact List.mem_map_of_mem htexts
  · exact FileTree.place_of_below (below inside) htop hplace

theorem candidate_below_iff_nestedName :
    let root := Path.ofString "./components/../shared"
    let name := "a/b..c/"
    let c : Path := ⟨.here, ["components", "..", "shared", "a", "b", "c", ".html"]⟩
    root.absolute = false ∧ c ∈ candidates root name ∧ ¬ StartsAtTop name ∧ root.Below c :=
  have relative : (Path.ofString "./components/../shared").absolute = false := by decide +kernel
  have tried : (⟨.here, ["components", "..", "shared", "a", "b", "c", ".html"]⟩ : Path) ∈
      candidates (Path.ofString "./components/../shared") "a/b..c/" := by decide +kernel
  have inside : ¬ StartsAtTop "a/b..c/" := by decide +kernel
  ⟨relative, tried, inside, (candidate_below_iff relative tried).1.2 inside⟩

/-- A name that begins with a slash leads out of the directory of the loader. -/
theorem absolute_name_leads_out :
    let root := Path.ofString "components"
    let c : Path := ⟨.top, ["etc", "passwd.html"]⟩
    root.absolute = false ∧ c ∈ candidates root "/etc/passwd" ∧ c.text = "/etc/passwd.html" ∧
      ¬ root.Below c := by
  refine ⟨by decide +kernel, by decide +kernel, by decide +kernel, fun below => ?_⟩
  have apart : Anchor.top ≠ (Path.ofString "components").anchor := by decide +kernel
  exact apart below.1

end Loader

end HtmlTemplate.Component
