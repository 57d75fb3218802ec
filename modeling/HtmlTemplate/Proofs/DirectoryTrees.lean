import HtmlTemplate.Proofs.SourcePaths

/-!
# Trees of directories

A file tree is `Sound` when it is one that a disk can hold: its names are names of files, every
place is taken once, and everything is in a directory. In a sound tree a path that goes down from a
directory leads to what stands there and nowhere else (`follow_of_at`, `follow_of_absent`), and
walking below a directory comes to the files below it (`mem_walk_iff`).
-/

namespace HtmlTemplate.Component

namespace Path

/-- The path to what stands at some parts below a directory. -/
def down (root : Path) (parts : List String) : Path := ⟨root.anchor, root.parts ++ parts⟩

@[simp]
theorem parts_down (root : Path) (parts : List String) :
    (root.down parts).parts = root.parts ++ parts := rfl

@[simp]
theorem absolute_down (root : Path) (parts : List String) :
    (root.down parts).absolute = root.absolute := rfl

/-- The length of parts with slashes between them. -/
theorem utf8ByteSize_intercalate (parts : List String) :
    ("/".intercalate parts).utf8ByteSize =
      (String.join parts).utf8ByteSize + (parts.length - 1) := by
  induction parts with
  | nil => rfl
  | cons p ps ih =>
    cases ps with
    | nil => simp
    | cons q qs =>
      have slash : "/".utf8ByteSize = 1 := by decide
      have joined : String.join (p :: q :: qs) = p ++ String.join (q :: qs) := String.join_cons
      rw [String.intercalate_cons_cons, joined]
      simp only [String.utf8ByteSize_append, ih, slash, List.length_cons]
      omega

/-- A path whose parts are no longer, taken together, is no longer as a text. -/
theorem utf8ByteSize_text_down_le (root : Path) {parts parts' : List String} (some : parts ≠ [])
    (some' : parts' ≠ [])
    (le : (String.join parts).utf8ByteSize + parts.length ≤
      (String.join parts').utf8ByteSize + parts'.length) :
    (root.down parts).text.utf8ByteSize ≤ (root.down parts').text.utf8ByteSize := by
  have body : ("/".intercalate (root.parts ++ parts)).utf8ByteSize ≤
      ("/".intercalate (root.parts ++ parts')).utf8ByteSize := by
    have := List.length_pos_iff.2 some
    have := List.length_pos_iff.2 some'
    simp only [utf8ByteSize_intercalate, String.join_append, String.utf8ByteSize_append,
      List.length_append]
    omega
  have nonempty : (root.parts ++ parts).isEmpty = false := by simp [some]
  have nonempty' : (root.parts ++ parts').isEmpty = false := by simp [some']
  unfold text
  simp only [parts_down, nonempty, nonempty']
  rw [show (root.down parts).anchor = root.anchor from rfl,
    show (root.down parts').anchor = root.anchor from rfl]
  cases root.anchor with
  | here => exact body
  | top => simpa only [String.utf8ByteSize_append] using Nat.add_le_add_left body _
  | doubleTop => simpa only [String.utf8ByteSize_append] using Nat.add_le_add_left body _

end Path

namespace FileTree

/-- A name that a file or directory may have. -/
def IsFileName (part : String) : Prop :=
  (part ≠ "" ∧ part ≠ "." ∧ part ≠ "..") ∧ ('/' ∉ part.toList ∧ '\x00' ∉ part.toList) ∧
    part.utf8ByteSize ≤ nameLimit

/-- A file tree that a disk can hold. -/
structure Sound (t : FileTree) : Prop where
  named : ∀ e ∈ t.entries, e.1 ≠ [] ∧ ∀ part ∈ e.1, IsFileName part
  distinct : (t.entries.map Prod.fst).Nodup
  above : ∀ e ∈ t.entries, ∀ dir ∈ ancestors e.1, t.entries.lookup dir = some .directory

instance (part : String) : Decidable (IsFileName part) :=
  inferInstanceAs (Decidable (_ ∧ _))

instance (t : FileTree) : Decidable t.Sound :=
  decidable_of_iff
    ((∀ e ∈ t.entries, e.1 ≠ [] ∧ ∀ part ∈ e.1, IsFileName part) ∧
      (t.entries.map Prod.fst).Nodup ∧
      ∀ e ∈ t.entries, ∀ dir ∈ ancestors e.1, t.entries.lookup dir = some .directory)
    ⟨fun ⟨named, distinct, above⟩ => ⟨named, distinct, above⟩,
      fun ⟨named, distinct, above⟩ => ⟨named, distinct, above⟩⟩

theorem mem_ancestors {dir more : List String} (some : dir ≠ []) (below : more ≠ []) :
    dir ∈ ancestors (dir ++ more) := by
  have := List.length_pos_iff.2 some
  have := List.length_pos_iff.2 below
  refine List.mem_filterMap.2 ⟨dir.length, List.mem_range.2 ?_, ?_⟩
  · rw [List.length_append]
    omega
  · rw [if_neg (by omega), List.take_left]

theorem at?_of_ne_nil {t : FileTree} {parts : List String} (some : parts ≠ []) :
    t.at? parts = t.entries.lookup parts := by
  rw [at?, List.isEmpty_eq_false_iff.2 some]
  rfl

namespace Sound

variable {t : FileTree} (sound : t.Sound) {here dir rest : List String} {entry : FileEntry}
include sound

/-- What stands at a place is the entry for it. -/
theorem at?_eq_some_iff (some : rest ≠ []) :
    t.at? rest = .some entry ↔ (rest, entry) ∈ t.entries := by
  rw [at?_of_ne_nil some, List.lookup_eq_some_iff]
  constructor
  · rintro ⟨before, after, split, -⟩
    exact split ▸ List.mem_append_right before List.mem_cons_self
  · intro mem
    obtain ⟨before, after, split⟩ := List.append_of_mem mem
    refine ⟨before, after, split, fun e he => bne_iff_ne.2 fun same => ?_⟩
    have distinct := sound.distinct
    rw [split, List.map_append, List.map_cons, List.nodup_append] at distinct
    exact distinct.2.2 _ (List.mem_map_of_mem he) rest List.mem_cons_self same.symm

/-- Files, unlike directories, are all among the entries. -/
theorem at?_eq_file_iff {place : List String} {bytes : List UInt8} :
    t.at? place = some (.file bytes) ↔ (place, .file bytes) ∈ t.entries := by
  by_cases some : place = []
  · subst some
    constructor
    · exact fun h => nomatch h
    · exact fun mem => absurd rfl (sound.named _ mem).1
  · exact sound.at?_eq_some_iff some

/-- What has something below it is a directory. -/
theorem directory_of_below (below : rest ≠ []) (h : t.at? (dir ++ rest) = some entry) :
    t.at? dir = some .directory := by
  by_cases some : dir = []
  · subst some
    rfl
  · have mem := (sound.at?_eq_some_iff (by simp [some])).1 h
    rw [at?_of_ne_nil some]
    exact sound.above _ mem dir (mem_ancestors some below)

theorem isFileName (h : t.at? (here ++ rest) = some entry) : ∀ part ∈ rest, IsFileName part := by
  intro part mem
  have mem' := (sound.at?_eq_some_iff (by simp [List.ne_nil_of_mem mem])).1 h
  exact (sound.named _ mem').2 part (List.mem_append_right here mem)

/-- A path that goes down leads to what stands there. -/
theorem follow_of_at (h : t.at? (here ++ rest) = some entry) :
    t.follow here rest = .ok (here ++ rest) := by
  induction rest generalizing here with
  | nil => simp [follow]
  | cons p ps ih =>
    have dir := sound.directory_of_below (List.cons_ne_nil p ps) h
    obtain ⟨⟨-, -, notUp⟩, -, short⟩ := sound.isFileName h p List.mem_cons_self
    have split : here ++ p :: ps = here ++ [p] ++ ps := by simp
    have found : (t.at? (here ++ [p])).isNone = false := by
      cases ps with
      | nil => rw [h]; rfl
      | cons q qs =>
        rw [sound.directory_of_below (List.cons_ne_nil q qs) (split ▸ h)]
        rfl
    rw [follow, dir]
    simp only [bne_self_eq_false, Bool.false_eq_true, if_false, beq_iff_eq, notUp, found,
      Nat.not_lt.2 short]
    rw [ih (split ▸ h), split]

/-- A name that is too long cannot be asked about in a directory. -/
theorem follow_of_long {part : String} (h : t.at? (here ++ dir) = some .directory)
    (level : part ≠ "..") (long : nameLimit < part.utf8ByteSize) :
    t.follow here (dir ++ [part]) = .error .longName := by
  rw [follow_append, sound.follow_of_at h]
  change t.follow (here ++ dir) [part] = _
  rw [follow, h]
  simp [level, long]

end Sound

/-- A path down to a place where nothing stands leads nowhere. -/
theorem follow_of_absent {t : FileTree} {here rest : List String} (some : rest ≠ [])
    (absent : t.at? (here ++ rest) = none) (level : ".." ∉ rest)
    (short : ∀ part ∈ rest, part.utf8ByteSize ≤ nameLimit) :
    t.follow here rest = .error .missing := by
  induction rest generalizing here with
  | nil => exact absurd rfl some
  | cons p ps ih =>
    have notUp : p ≠ ".." := fun same => level (same ▸ List.mem_cons_self)
    have split : here ++ p :: ps = here ++ [p] ++ ps := by simp
    rw [split] at absent
    rw [follow]
    simp only [beq_iff_eq, notUp, if_false, Nat.not_lt.2 (short p List.mem_cons_self)]
    split_ifs with file here'
    · rfl
    · rfl
    · have more : ps ≠ [] := by
        rintro rfl
        rw [List.append_nil] at absent
        simp [absent] at here'
      exact ih more absent (fun mem => level (List.mem_cons_of_mem p mem))
        fun part mem => short part (List.mem_cons_of_mem p mem)

/-! ### Reading and walking -/

section Root

variable {t : FileTree} {encoding? : Option Text.Encoding} {root : Path}
  {top parts : List String}

/-- Where a path leads that goes down from a directory. -/
theorem resolve_down (htop : t.resolve root = .ok top)
    (plain : ∀ part ∈ parts, '\x00' ∉ part.toList) :
    t.resolve (root.down parts) =
      if pathLimit < (root.down parts).text.utf8ByteSize then .error .longName
      else t.follow top parts := by
  unfold resolve at htop ⊢
  split_ifs at htop with bad long absolute
  have clean : ((root.down parts).parts.any fun part => part.toList.contains '\x00') = false := by
    rw [Path.parts_down, List.any_append, Bool.eq_false_iff.2 bad, Bool.false_or]
    exact List.any_eq_false.2 fun part mem => by simpa using plain part mem
  rw [clean, Path.absolute_down, Bool.eq_false_iff.2 absolute, Path.parts_down, follow_append, htop]
  rfl

theorem read_of_resolve_error {p : Path} {e : FileError} (h : t.resolve p = .error e) :
    t.read encoding? p = .error e := by
  unfold read
  rw [h]
  rfl

/-- A file is read where a path leads to one. -/
theorem exists_file_of_read {p : Path} {text : String} (h : t.read encoding? p = .ok text) :
    ∃ place bytes, t.resolve p = .ok place ∧ t.at? place = some (.file bytes) := by
  unfold read at h
  cases hplace : t.resolve p with
  | error e =>
    rw [hplace] at h
    cases h
  | ok place =>
    simp only [hplace, bind, Except.bind] at h
    split at h
    · cases h
    · cases h
    · rename_i bytes hbytes
      exact ⟨place, bytes, rfl, hbytes⟩

/-- What is read where something stands is not missing. -/
theorem read_ne_missing {p : Path} {place : List String} {entry : FileEntry}
    (h : t.resolve p = .ok place) (there : t.at? place = some entry) :
    t.read encoding? p ≠ .error .missing := by
  simp only [read, h, there, bind, Except.bind]
  cases entry with
  | directory => simp
  | file bytes =>
    dsimp only
    split
    · simp
    · split <;> simp

/-- Walking below a directory comes to the files there. -/
theorem mem_walk_iff (sound : t.Sound) (htop : t.resolve root = .ok top) :
    parts ∈ t.walk root ↔ ∃ bytes, t.at? (top ++ parts) = .some (.file bytes) := by
  unfold walk
  rw [htop]
  simp only [List.mem_filterMap, sound.at?_eq_file_iff]
  constructor
  · rintro ⟨⟨place, entry⟩, mem, found⟩
    cases entry with
    | directory => cases found
    | file bytes =>
      dsimp only at found
      split_ifs at found with below
      obtain ⟨rest, rfl⟩ := List.isPrefixOf_iff_prefix.1 below
      rw [List.drop_left, Option.some.injEq] at found
      exact ⟨bytes, found ▸ mem⟩
  · rintro ⟨bytes, mem⟩
    exact ⟨_, mem, by simp⟩

end Root

end FileTree

end HtmlTemplate.Component
