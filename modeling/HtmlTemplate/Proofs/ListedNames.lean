import HtmlTemplate.Proofs.DirectoryTrees
import Mathlib.Data.String.Basic

/-!
# Names of the files below a directory

The name of a file has the names of its directories for segments, cut at their dots. `ownFile` and
`indexFile` are the places that a name stands for in turn. They are where the file is that gave the
name its entry in a listing when no dot is in the directories (`leadsBack_of_regular`); in all
cases a name that is listed has a source exactly when it `LeadsBack`
(`exists_source_iff_leadsBack`).
-/

namespace HtmlTemplate.Component

open Naming Text

theorem Path.joinAll_of_plain {p : Path} {texts : List String}
    (plain : ∀ s ∈ texts, '/' ∉ s.toList ∧ s ≠ ".") :
    p.joinAll texts = p.down (texts.filter (· ≠ "")) := by
  have relative : ∀ s ∈ texts, (ofString s).absolute = false := by
    refine fun s hs => Bool.eq_false_iff.2 fun top => (plain s hs).1 ?_
    exact List.mem_of_mem_head? ((absolute_ofString s).1 top)
  have parts : (texts.flatMap fun s => (ofString s).parts) = texts.filter (· ≠ "") := by
    clear relative
    induction texts with
    | nil => rfl
    | cons s texts ih =>
      obtain ⟨slash, dot⟩ := plain s List.mem_cons_self
      rw [List.flatMap_cons, ih fun s' hs => plain s' (List.mem_cons_of_mem s hs), ofString,
        splitAt_of_not_mem slash]
      by_cases empty : s = "" <;> simp [empty, dot]
  rw [joinAll_of_relative relative, parts]
  rfl

namespace Loader

/-! ### Segments -/

theorem segments_of_not_mem {s : String} (h : '.' ∉ s.toList) : segments s = [s] := by
  rw [segments, splitAt_of_not_mem h, List.map_singleton, String.ofList_toList]

theorem segments_intercalate {pieces : List String} (some : pieces ≠ []) :
    segments (".".intercalate pieces) = pieces.flatMap segments := by
  have nonempty : pieces.map String.toList ≠ [] := by simpa using some
  have dot : ".".toList = ['.'] := by decide
  rw [segments, String.toList_intercalate, dot, splitAt_intercalate '.' nonempty,
    List.map_flatMap, List.flatMap_map]
  rfl

/-- The characters of a segment are among those of the name. -/
theorem sublist_of_mem_segments {name s : String} (h : s ∈ segments name) :
    s.toList.Sublist name.toList := by
  obtain ⟨segment, mem, rfl⟩ := List.mem_map.1 h
  rw [String.toList_ofList]
  exact sublist_of_mem_splitAt mem

/-! ### Places -/

/-- Every segment of a name may stand in the name of a file. -/
def Plain (name : String) : Prop :=
  ∀ s ∈ segments name, ('/' ∉ s.toList ∧ '\x00' ∉ s.toList) ∧ s.utf8ByteSize ≤ FileTree.nameLimit

/-- The file of a component that has a file for itself. -/
def ownFile (name : String) : List String :=
  (segments name).dropLast.filter (· ≠ "") ++ [(segments name).getLastD "" ++ ".html"]

/-- The file of a component that has a directory for itself. -/
def indexFile (name : String) : List String :=
  (segments name).filter (· ≠ "") ++ ["index.html"]

theorem ownFile_of_segments {name last : String} {dirs : List String}
    (split : segments name = dirs ++ [last]) :
    ownFile name = dirs.filter (· ≠ "") ++ [last ++ ".html"] := by
  rw [ownFile, split, List.dropLast_concat, List.getLastD_concat]

theorem candidates_of_plain {name : String} (plain : Plain name) (root : Path) :
    candidates root name = [root.down (ownFile name), root.down (indexFile name)] := by
  obtain ⟨dirs, last, split⟩ := exists_segments name
  have clean {s : String} (hs : s ∈ segments name) : '/' ∉ s.toList ∧ s ≠ "." := by
    refine ⟨(plain s hs).1.1, ?_⟩
    rintro rfl
    exact absurd (count_dot_of_mem_segments hs) (by decide)
  have inner {s : String} (hs : s ∈ dirs) : '/' ∉ s.toList ∧ s ≠ "." :=
    clean (split ▸ List.mem_append_left [last] hs)
  have hlast : '/' ∉ last.toList :=
    (clean (split ▸ List.mem_append_right dirs List.mem_cons_self)).1
  have letter : 'h' ∈ (last ++ ".html").toList := by simp
  have ending {s : String} (other : 'h' ∉ s.toList) : last ++ ".html" ≠ s := fun same =>
    other (same ▸ letter)
  have own : root.joinAll (dirs ++ [last ++ ".html"]) = root.down (ownFile name) := by
    rw [Path.joinAll_of_plain, ownFile_of_segments split, List.filter_append]
    · simp [ending (s := "") (by decide)]
    · intro s hs
      rcases List.mem_append.1 hs with hs | hs
      · exact inner hs
      · obtain rfl := List.mem_singleton.1 hs
        refine ⟨?_, ending (by decide)⟩
        rw [String.toList_append, List.mem_append, not_or]
        exact ⟨hlast, by decide⟩
  have index : root.joinAll (dirs ++ [last, "index.html"]) = root.down (indexFile name) := by
    have shape : dirs ++ [last, "index.html"] = segments name ++ ["index.html"] := by simp [split]
    rw [shape, Path.joinAll_of_plain, indexFile, List.filter_append]
    · rfl
    · intro s hs
      rcases List.mem_append.1 hs with hs | hs
      · exact clean hs
      · obtain rfl := List.mem_singleton.1 hs
        decide
  simp [candidates_eq, attempts, split, own, index]

/-- Of each part of the places that a name stands for it is known that it may be part of a path, and
that it leads downwards. -/
theorem mem_places {name part : String} (plain : Plain name)
    (h : part ∈ ownFile name ∨ part ∈ indexFile name) : '\x00' ∉ part.toList ∧ part ≠ ".." := by
  obtain ⟨dirs, last, split⟩ := exists_segments name
  have inner {s : String} (hs : s ∈ segments name) : '\x00' ∉ s.toList ∧ s ≠ ".." := by
    refine ⟨(plain s hs).1.2, ?_⟩
    rintro rfl
    exact absurd (count_dot_of_mem_segments hs) (by decide)
  have hlast : last ∈ segments name := split ▸ List.mem_append_right dirs List.mem_cons_self
  simp only [ownFile_of_segments split, indexFile, List.mem_append, List.mem_filter,
    List.mem_singleton] at h
  rcases h with (⟨hs, -⟩ | rfl) | ⟨hs, -⟩ | rfl
  · exact inner (split ▸ List.mem_append_left [last] hs)
  · refine ⟨?_, fun same => ?_⟩
    · rw [String.toList_append, List.mem_append, not_or]
      exact ⟨(inner hlast).1, by decide⟩
    · have letter : 'h' ∈ (last ++ ".html").toList := by simp
      rw [same] at letter
      exact absurd letter (by decide)
  · exact inner hs
  · decide

/-- The index file has no shorter path than the file of its own. -/
theorem utf8ByteSize_ownFile_le (root : Path) (name : String) :
    (root.down (ownFile name)).text.utf8ByteSize ≤
      (root.down (indexFile name)).text.utf8ByteSize := by
  obtain ⟨dirs, last, split⟩ := exists_segments name
  have html : ".html".utf8ByteSize = 5 := by decide
  have index : "index.html".utf8ByteSize = 10 := by decide
  apply Path.utf8ByteSize_text_down_le
  · simp [ownFile]
  · simp [indexFile]
  · rw [ownFile_of_segments split, indexFile, split, List.filter_append]
    by_cases empty : last = "" <;>
    · simp [empty, html, index]
      try omega

/-! ### Sources -/

section Reading

variable {t : FileTree} {encoding? : Option Encoding} {root : Path} {top : List String}
  {name : String}

/-- A name leads back to a file: to the one that it stands for first, when it is there and is a
text, or else to the index file. -/
def LeadsBack (t : FileTree) (encoding? : Option Encoding) (root : Path) (name : String) : Prop :=
  (ownFile name ∈ t.walk root ∧
      ∃ text, t.read encoding? (root.down (ownFile name)) = .ok text) ∨
    (ownFile name ∉ t.walk root ∧ indexFile name ∈ t.walk root ∧
      ∀ part ∈ ownFile name, part.utf8ByteSize ≤ FileTree.nameLimit)

theorem exists_source_iff (plain : Plain name) :
    (∃ found, source t name (.directory root encoding?) = .ok found) ↔
      (∃ text, t.read encoding? (root.down (ownFile name)) = .ok text) ∨
        (t.read encoding? (root.down (ownFile name)) = .error .missing ∧
          ∃ text, t.read encoding? (root.down (indexFile name)) = .ok text) := by
  simp only [source, candidates_of_plain plain, readFirst]
  cases own : t.read encoding? (root.down (ownFile name)) with
  | ok text => simp
  | error e =>
    cases e with
    | missing =>
      cases index : t.read encoding? (root.down (indexFile name)) with
      | ok text => simp
      | error e => cases e <;> simp
    | _ => simp

/-- A text that is read below a directory is in a file that walking comes to. -/
theorem mem_walk_of_read {parts : List String} {text : String} (sound : t.Sound)
    (htop : t.resolve root = .ok top)
    (down : ∀ part ∈ parts, '\x00' ∉ part.toList ∧ part ≠ "..")
    (h : t.read encoding? (root.down parts) = .ok text) : parts ∈ t.walk root := by
  obtain ⟨place, bytes, hplace, there⟩ := FileTree.exists_file_of_read h
  rw [FileTree.resolve_down htop fun part mem => (down part mem).1] at hplace
  split_ifs at hplace
  have level : ".." ∉ parts := fun mem => (down ".." mem).2 rfl
  rw [FileTree.eq_of_follow level hplace] at there
  exact (FileTree.mem_walk_iff sound htop).2 ⟨bytes, there⟩

/-- A file that stands at its place is not missing, whether or not it can be read. -/
theorem read_ne_missing_of_mem_walk {parts : List String} (sound : t.Sound)
    (htop : t.resolve root = .ok top)
    (clean : ∀ part ∈ parts, '\x00' ∉ part.toList) (mem : parts ∈ t.walk root) :
    t.read encoding? (root.down parts) ≠ .error .missing := by
  obtain ⟨bytes, there⟩ := (FileTree.mem_walk_iff sound htop).1 mem
  have place := FileTree.resolve_down htop clean
  rw [sound.follow_of_at there] at place
  split_ifs at place
  · rw [FileTree.read_of_resolve_error place]
    simp
  · exact FileTree.read_ne_missing place there

/-- A name whose own file would have too long a name cannot be looked for beside its index file. -/
theorem read_ownFile_ne_missing (sound : t.Sound) (htop : t.resolve root = .ok top)
    (plain : Plain name) (index : indexFile name ∈ t.walk root)
    (long : ∃ part ∈ ownFile name, FileTree.nameLimit < part.utf8ByteSize) :
    t.read encoding? (root.down (ownFile name)) ≠ .error .missing := by
  obtain ⟨dirs, last, split⟩ := exists_segments name
  have own := ownFile_of_segments split
  obtain ⟨part, mem, long⟩ := long
  rw [own, List.mem_append, List.mem_filter, List.mem_singleton] at mem
  have here : part = last ++ ".html" := by
    refine mem.resolve_left fun mem => ?_
    have short := (plain part (split ▸ List.mem_append_left [last] mem.1)).2
    omega
  subst here
  have some : last ≠ "" := by
    rintro rfl
    exact absurd long (by decide)
  have shape : indexFile name = dirs.filter (· ≠ "") ++ [last, "index.html"] := by
    rw [indexFile, split, List.filter_append]
    simp [some]
  obtain ⟨bytes, there⟩ := (FileTree.mem_walk_iff sound htop).1 index
  rw [shape, ← List.append_assoc] at there
  have dir := sound.directory_of_below (by simp) there
  have clean : ∀ part ∈ ownFile name, '\x00' ∉ part.toList := fun part mem =>
    (mem_places plain (.inl mem)).1
  have level : last ++ ".html" ≠ ".." :=
    (mem_places plain (.inl (own ▸ List.mem_append_right _ List.mem_cons_self))).2
  have place := FileTree.resolve_down htop clean
  rw [own, sound.follow_of_long dir level long, ite_self, ← own] at place
  rw [FileTree.read_of_resolve_error place]
  simp

/-- Where nothing stands at the place of its own file, that file is missing, since its path is no
longer than that of an index file that can be read. -/
theorem read_ownFile_missing {text : String} (sound : t.Sound) (htop : t.resolve root = .ok top)
    (plain : Plain name) (absent : ownFile name ∉ t.walk root)
    (free : t.isDirectory (root.down (ownFile name)) ≠ .ok true)
    (short : ∀ part ∈ ownFile name, part.utf8ByteSize ≤ FileTree.nameLimit)
    (index : t.read encoding? (root.down (indexFile name)) = .ok text) :
    t.read encoding? (root.down (ownFile name)) = .error .missing := by
  have down {part : String} (mem : part ∈ ownFile name) := mem_places plain (.inl mem)
  obtain ⟨place, -, hplace, -⟩ := FileTree.exists_file_of_read index
  rw [FileTree.resolve_down htop fun _ mem => (mem_places plain (.inr mem)).1] at hplace
  have fits : ¬ FileTree.pathLimit < (root.down (ownFile name)).text.utf8ByteSize := by
    have le := utf8ByteSize_ownFile_le root name
    split_ifs at hplace
    omega
  have own := FileTree.resolve_down htop fun (part : String) (mem : part ∈ ownFile name) =>
    (down mem).1
  rw [if_neg fits] at own
  have nothing : t.at? (top ++ ownFile name) = none := by
    cases there : t.at? (top ++ ownFile name) with
    | none => rfl
    | some entry =>
      rw [sound.follow_of_at there] at own
      cases entry with
      | file bytes => exact absurd ((FileTree.mem_walk_iff sound htop).2 ⟨bytes, there⟩) absent
      | directory => exact absurd (by simp [FileTree.isDirectory, own, there]) free
  have some : ownFile name ≠ [] := by simp [ownFile]
  have level : ".." ∉ ownFile name := fun mem => (down mem).2 rfl
  rw [FileTree.follow_of_absent some nothing level short] at own
  exact FileTree.read_of_resolve_error own

/-- A name has a source exactly when it leads back to a file. -/
theorem exists_source_iff_leadsBack (sound : t.Sound) (htop : t.resolve root = .ok top)
    (plain : Plain name)
    (readable : indexFile name ∈ t.walk root →
      ∃ text, t.read encoding? (root.down (indexFile name)) = .ok text)
    (free : t.isDirectory (root.down (ownFile name)) ≠ .ok true) :
    (∃ found, source t name (.directory root encoding?) = .ok found) ↔
      LeadsBack t encoding? root name := by
  rw [exists_source_iff plain, LeadsBack]
  constructor
  · rintro (⟨text, read⟩ | ⟨missing, text, read⟩)
    · exact .inl ⟨mem_walk_of_read sound htop (fun _ mem => mem_places plain (.inl mem)) read,
        text, read⟩
    · have index := mem_walk_of_read sound htop (fun _ mem => mem_places plain (.inr mem)) read
      refine .inr ⟨fun mem => ?_, index, fun part mem => ?_⟩
      · have clean : ∀ part ∈ ownFile name, '\x00' ∉ part.toList := fun _ mem =>
          (mem_places plain (.inl mem)).1
        exact read_ne_missing_of_mem_walk sound htop clean mem missing
      · by_contra long
        exact read_ownFile_ne_missing sound htop plain index ⟨part, mem, Nat.not_le.1 long⟩ missing
  · rintro (⟨-, text, read⟩ | ⟨absent, index, short⟩)
    · exact .inl ⟨text, read⟩
    · obtain ⟨text, read⟩ := readable index
      exact .inr ⟨read_ownFile_missing sound htop plain absent free short read, text, read⟩

end Reading

/-! ### Names of files -/

/-- The characters that the name of a source may have before its ending. -/
def isStemChar (c : Char) : Bool := isWordChar c || c == '-'

theorem stem?_eq_some {file stem : String} (h : stem? file = some stem) :
    (file = stem ++ ".html" ∨ file = stem ++ ".html\n") ∧ stem ≠ "" ∧
      stem.toList.all isStemChar = true := by
  unfold stem? at h
  dsimp only at h
  generalize hcs :
    (if file.toList.getLast? == some '\n' then file.toList.dropLast else file.toList) = cs at h
  split_ifs at h with ending letters
  obtain ⟨pre, rfl⟩ := List.isSuffixOf_iff_suffix.1 ending
  rw [List.length_append, Nat.add_sub_cancel, List.take_left] at h letters
  obtain rfl := Option.some.inj h
  simp only [Bool.and_eq_true, Bool.not_eq_true', List.isEmpty_eq_false_iff] at letters
  refine ⟨?_, ?_, by simpa [isStemChar] using letters.2⟩
  · split_ifs at hcs with newline
    · right
      apply String.toList_injective
      obtain ⟨before, split⟩ := List.getLast?_eq_some_iff.1 (beq_iff_eq.1 newline)
      rw [split, List.dropLast_concat] at hcs
      rw [split, hcs]
      simp
    · left
      apply String.toList_injective
      rw [hcs]
      simp
  · simpa using letters.1

theorem stem?_append_html {stem : String} (some : stem ≠ "")
    (letters : stem.toList.all isStemChar = true) : stem? (stem ++ ".html") = .some stem := by
  have last : (stem ++ ".html").toList.getLast? ≠ Option.some '\n' := by simp
  have ending : ".html".toList.isSuffixOf (stem ++ ".html").toList = true := by
    rw [List.isSuffixOf_iff_suffix, String.toList_append]
    exact List.suffix_append _ _
  unfold stem?
  simp only [beq_iff_eq, last, if_false, ending, if_true]
  have cut : (stem ++ ".html").toList.take
      ((stem ++ ".html").toList.length - ".html".toList.length) = stem.toList := by
    rw [String.toList_append, List.length_append, Nat.add_sub_cancel, List.take_left]
  have nonempty : stem.toList.isEmpty = false := by simpa using some
  have all : (stem.toList.all fun c => isWordChar c || c == '-') = true := letters
  rw [cut, nonempty, all, String.ofList_toList]
  rfl

/-- A name is put together of the directories on the way to a file, and of its stem or not. -/
theorem nameOf?_eq_some {parts : List String} {name : String} (h : nameOf? parts = some name) :
    ∃ stem, stem? (parts.getLastD "") = some stem ∧
      ((stem = "index" ∧ parts.dropLast ≠ [] ∧ name = ".".intercalate parts.dropLast) ∨
        name = ".".intercalate (parts.dropLast ++ [stem])) := by
  obtain ⟨stem, hstem, rfl⟩ := Option.map_eq_some_iff.1 h
  refine ⟨stem, hstem, ?_⟩
  split_ifs with index
  · simp only [Bool.and_eq_true, beq_iff_eq, Bool.not_eq_true', List.isEmpty_eq_false_iff] at index
    exact .inl ⟨index.1, index.2, rfl⟩
  · exact .inr rfl

theorem nameOf?_indexFile (name : String) : (nameOf? (indexFile name)).isSome := by
  have index : stem? "index.html" = some "index" := by decide +kernel
  rw [nameOf?, indexFile, List.getLastD_concat, index]
  rfl

/-- The name of a file whose parts may be names of files may be looked for. -/
theorem plain_of_nameOf? {parts : List String} {name : String} (h : nameOf? parts = some name)
    (named : ∀ part ∈ parts, FileTree.IsFileName part) : Plain name := by
  have sub {s whole : String} (hs : s.toList.Sublist whole.toList)
      (hwhole : FileTree.IsFileName whole) :
      ('/' ∉ s.toList ∧ '\x00' ∉ s.toList) ∧ s.utf8ByteSize ≤ FileTree.nameLimit := by
    refine ⟨⟨fun mem => hwhole.2.1.1 (hs.subset mem), fun mem => hwhole.2.1.2 (hs.subset mem)⟩, ?_⟩
    refine Nat.le_trans ?_ hwhole.2.2
    rw [← String.utf8Len_toList, ← String.utf8Len_toList]
    exact String.utf8Len_le_of_sublist hs
  have piece {pieces : List String} (some : pieces ≠ [])
      (inside : ∀ p ∈ pieces, ∃ part ∈ parts, p.toList.Sublist part.toList) :
      Plain (".".intercalate pieces) := by
    intro s hs
    rw [segments_intercalate some, List.mem_flatMap] at hs
    obtain ⟨p, hp, hs⟩ := hs
    obtain ⟨part, hpart, hsub⟩ := inside p hp
    exact sub ((sublist_of_mem_segments hs).trans hsub) (named part hpart)
  have dirs {p : String} (hp : p ∈ parts.dropLast) : ∃ part ∈ parts, p.toList.Sublist part.toList :=
    ⟨p, List.dropLast_subset parts hp, List.Sublist.refl _⟩
  obtain ⟨stem, hstem, ⟨-, some, rfl⟩ | rfl⟩ := nameOf?_eq_some h
  · exact piece some fun p => dirs
  · refine piece (by simp) fun p hp => ?_
    rcases List.mem_append.1 hp with hp | hp
    · exact dirs hp
    · obtain rfl := List.mem_singleton.1 hp
      obtain ⟨file, some, -⟩ := stem?_eq_some hstem
      have nonempty : parts ≠ [] := by
        rintro rfl
        rcases file with file | file <;> simpa using congrArg String.toList file
      refine ⟨parts.getLastD "", ?_, ?_⟩
      · rw [List.getLastD_eq_getLast?, List.getLast?_eq_some_getLast nonempty]
        exact List.getLast_mem nonempty
      · rcases file with file | file <;>
        · rw [file, String.toList_append]
          exact List.sublist_append_left _ _

/-- A file in directories whose names could be those of sources, with no line feed behind its
ending. -/
def Regular (parts : List String) : Prop :=
  (∀ dir ∈ parts.dropLast, dir.toList.all isStemChar = true ∧
      (dir ++ ".html").utf8ByteSize ≤ FileTree.nameLimit) ∧
    (parts.getLastD "").toList.getLast? ≠ some '\n'

instance (parts : List String) : Decidable (Regular parts) :=
  inferInstanceAs (Decidable (_ ∧ _))

theorem segments_of_stem {s : String} (letters : s.toList.all isStemChar = true) :
    segments s = [s] := by
  refine segments_of_not_mem fun mem => ?_
  have dot : isStemChar '.' = false := by decide +kernel
  simp [List.all_eq_true.1 letters _ mem] at dot

theorem segments_intercalate_stems {pieces : List String} (some : pieces ≠ [])
    (letters : ∀ p ∈ pieces, p.toList.all isStemChar = true) :
    segments (".".intercalate pieces) = pieces := by
  rw [segments_intercalate some]
  clear some
  induction pieces with
  | nil => rfl
  | cons p pieces ih =>
    rw [List.flatMap_cons, segments_of_stem (letters p List.mem_cons_self),
      ih fun q hq => letters q (List.mem_cons_of_mem p hq)]
    rfl

section Regular

variable {t : FileTree} {encoding? : Option Encoding} {root : Path} {dirs : List String}
  (readable : ∀ parts ∈ t.walk root, (nameOf? parts).isSome →
    ∃ text, t.read encoding? (root.down parts) = .ok text)
  (named : ∀ dir ∈ dirs, FileTree.IsFileName dir)
  (letters : ∀ dir ∈ dirs, dir.toList.all isStemChar = true)
include readable named letters

/-- The name of an index file leads back to it, or to the file that stands for the name first. -/
theorem leadsBack_of_index (some : dirs ≠ [])
    (short : ∀ dir ∈ dirs, (dir ++ ".html").utf8ByteSize ≤ FileTree.nameLimit)
    (mem : dirs ++ ["index.html"] ∈ t.walk root) :
    LeadsBack t encoding? root (".".intercalate dirs) := by
  have segments := segments_intercalate_stems some letters
  have nonempty : ∀ dir ∈ dirs, dir ≠ "" := fun dir hdir => (named dir hdir).1.1
  obtain ⟨above, last, rfl⟩ : ∃ above last, dirs = above ++ [last] :=
    ⟨_, _, (List.dropLast_concat_getLast some).symm⟩
  have hlast : last ∈ above ++ [last] := List.mem_append_right above List.mem_cons_self
  have own := ownFile_of_segments segments
  rw [List.filter_eq_self.2 fun dir hdir => by simpa using nonempty dir (by simp [hdir])] at own
  have index :
      indexFile (".".intercalate (above ++ [last])) = above ++ [last] ++ ["index.html"] := by
    rw [indexFile, segments, List.filter_eq_self.2 fun dir hdir => by simpa using nonempty dir hdir]
  by_cases here : ownFile (".".intercalate (above ++ [last])) ∈ t.walk root
  · refine .inl ⟨here, readable _ here ?_⟩
    rw [own, nameOf?, List.getLastD_concat,
      stem?_append_html (nonempty last hlast) (letters last hlast)]
    rfl
  · refine .inr ⟨here, index ▸ mem, fun part hpart => ?_⟩
    rw [own, List.mem_append, List.mem_singleton] at hpart
    rcases hpart with hpart | rfl
    · exact (named part (List.mem_append_left _ hpart)).2.2
    · exact short last hlast

/-- The name of a file with a name of its own leads back to it. -/
theorem leadsBack_of_own {stem : String} (hstem : stem.toList.all isStemChar = true)
    (isNamed : (nameOf? (dirs ++ [stem ++ ".html"])).isSome)
    (mem : dirs ++ [stem ++ ".html"] ∈ t.walk root) :
    LeadsBack t encoding? root (".".intercalate (dirs ++ [stem])) := by
  have segments : segments (".".intercalate (dirs ++ [stem])) = dirs ++ [stem] := by
    refine segments_intercalate_stems (by simp) fun p hp => ?_
    rcases List.mem_append.1 hp with hp | hp
    · exact letters p hp
    · exact List.mem_singleton.1 hp ▸ hstem
  have own := ownFile_of_segments segments
  rw [List.filter_eq_self.2 fun dir hdir => by simpa using (named dir hdir).1.1] at own
  exact .inl ⟨own ▸ mem, own ▸ readable _ mem isNamed⟩

end Regular

/-- The name of a regular file leads back, to that file or to the one that stands for the name
first. -/
theorem leadsBack_of_regular {t : FileTree} {encoding? : Option Encoding} {root : Path}
    {top parts : List String} {name : String} (sound : t.Sound) (htop : t.resolve root = .ok top)
    (some : parts ≠ []) (mem : parts ∈ t.walk root) (h : nameOf? parts = .some name)
    (readable : ∀ parts ∈ t.walk root, (nameOf? parts).isSome →
      ∃ text, t.read encoding? (root.down parts) = .ok text)
    (regular : Regular parts) : LeadsBack t encoding? root name := by
  obtain ⟨bytes, there⟩ := (FileTree.mem_walk_iff sound htop).1 mem
  obtain ⟨dirs, file, rfl⟩ : ∃ dirs file, parts = dirs ++ [file] :=
    ⟨_, _, (List.dropLast_concat_getLast some).symm⟩
  have named : ∀ dir ∈ dirs, FileTree.IsFileName dir := fun dir hdir =>
    sound.isFileName there dir (List.mem_append_left [file] hdir)
  obtain ⟨stem, hstem, name_eq⟩ := nameOf?_eq_some h
  simp only [Regular, List.dropLast_concat, List.getLastD_concat] at regular hstem name_eq
  obtain ⟨hfile, -, letters⟩ := stem?_eq_some hstem
  obtain rfl : file = stem ++ ".html" := by
    refine hfile.resolve_right ?_
    rintro rfl
    exact regular.2 (by simp)
  have dirLetters : ∀ dir ∈ dirs, dir.toList.all isStemChar = true := fun dir hdir =>
    (regular.1 dir hdir).1
  rcases name_eq with ⟨rfl, dirs_ne, rfl⟩ | rfl
  · exact leadsBack_of_index readable named dirLetters dirs_ne
      (fun dir hdir => (regular.1 dir hdir).2) mem
  · exact leadsBack_of_own readable named dirLetters letters (by rw [h]; rfl) mem

end Loader

end HtmlTemplate.Component
