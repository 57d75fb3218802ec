import HtmlTemplate.Proofs.Coherence
import HtmlTemplate.Proofs.ListedNames

/-!
# Listing and preloading

A directory lists the names of the files below it, each once and in order (`mem_names_iff`).
Preloading asks for them one after another, so it ends exactly when each of them has a source
(`ends_preload_iff`), and then the cache holds just these sources beside what it held before
(`Filled`). For a directory that is so exactly when every name that it lists leads back to a file
(`preload_listed_iff`).
-/

namespace HtmlTemplate.Component

open Expand Text

/-! ### Listing -/

namespace Loader

theorem mem_distinct {names : List String} {name : String} :
    name ∈ distinct names ↔ name ∈ names := by
  have step (found : List String) : name ∈ names.foldl (fun found n =>
      if found.contains n then found else found ++ [n]) found ↔ name ∈ found ∨ name ∈ names := by
    induction names generalizing found with
    | nil => simp
    | cons n names ih =>
      rw [List.foldl_cons, ih, List.mem_cons, ← or_assoc]
      by_cases h : n ∈ found
      · rw [if_pos (List.contains_iff_mem.2 h)]
        refine or_congr_left ⟨Or.inl, ?_⟩
        rintro (old | rfl)
        · exact old
        · exact h
      · rw [if_neg (mt List.contains_iff_mem.1 h), List.mem_append, List.mem_singleton]
  rw [distinct, step]
  simp

theorem nodup_distinct (names : List String) : (distinct names).Nodup := by
  have step (found : List String) (h : found.Nodup) : (names.foldl (fun found n =>
      if found.contains n then found else found ++ [n]) found).Nodup := by
    induction names generalizing found with
    | nil => exact h
    | cons n names ih =>
      rw [List.foldl_cons]
      apply ih
      by_cases mem : n ∈ found
      · rwa [if_pos (List.contains_iff_mem.2 mem)]
      · rw [if_neg (mt List.contains_iff_mem.1 mem)]
        refine List.nodup_append.2 ⟨h, List.pairwise_singleton _ n, fun m hm n' hn => ?_⟩
        rintro rfl
        exact mem (List.mem_singleton.1 hn ▸ hm)
  exact step [] List.nodup_nil

theorem mem_sortTexts {names : List String} {name : String} :
    name ∈ sortTexts names ↔ name ∈ names := List.mem_mergeSort

theorem nodup_sortTexts {names : List String} (h : names.Nodup) : (sortTexts names).Nodup :=
  (List.mergeSort_perm names _).nodup_iff.2 h

theorem pairwise_sortTexts (names : List String) : (sortTexts names).Pairwise (· ≤ ·) := by
  have sorted : (sortTexts names).Pairwise fun a b => decide (a ≤ b) := List.pairwise_mergeSort
    (fun a b c hab hbc => by
      simpa using String.le_trans (by simpa using hab) (by simpa using hbc))
    (fun a b => by simpa using String.le_total a b) names
  simpa using sorted

/-- Sorted texts are determined by what is among them. -/
theorem sortTexts_eq {names names' : List String} (distinct : names.Nodup)
    (distinct' : names'.Nodup) (sorted : names'.Pairwise (· ≤ ·))
    (same : ∀ name, name ∈ names ↔ name ∈ names') : sortTexts names = names' := by
  have perm : (sortTexts names).Perm names' :=
    (List.mergeSort_perm names _).trans ((List.perm_ext_iff_of_nodup distinct distinct').2 same)
  exact perm.eq_of_pairwise (fun _ _ _ _ => String.le_antisymm) (pairwise_sortTexts names) sorted

end Loader

/-! ### Preloading -/

namespace Lookup

variable {loader : Loader} {names : List String} {r r' : RegistryState}

/-- Asks a loader for a component and keeps its source. -/
def load (loader : Loader) (name : String) : Lookup Unit := do
  let found ← ask loader name
  remember name found.text

/-- A registry that has asked its loader for a component and keeps the source. -/
def keeping (r : RegistryState) (name text : String) : RegistryState :=
  { r with
    registry := { r.registry with cache := r.registry.cache.put name text }
    asked := name :: r.asked }

@[simp]
theorem files_keeping (r : RegistryState) (name text : String) :
    (keeping r name text).files = r.files := rfl

@[simp]
theorem cache_keeping (r : RegistryState) (name text : String) :
    (keeping r name text).registry.cache = r.registry.cache.put name text := rfl

theorem ends_load_iff {name : String} {u : Unit} : Ends (load loader name) r u r' ↔
    ∃ found, loader.source r.files name = .ok found ∧ keeping r name found.text = r' := by
  simp only [load, ends_bind_iff, ends_ask_iff]
  constructor
  · rintro ⟨found, _, ⟨hfound, rfl⟩, run⟩
    exact ⟨found, hfound, ends_modify_iff.1 run⟩
  · rintro ⟨found, hfound, run⟩
    exact ⟨found, _, ⟨hfound, rfl⟩, ends_modify_iff.2 run⟩

/-- A registry keeps what its loader gives for some names, beside what it kept before. -/
structure Filled (loader : Loader) (names : List String) (r r' : RegistryState) : Prop where
  files : r'.files = r.files
  registry : r'.registry = { r.registry with cache := r'.registry.cache }
  cache : ∀ name, r'.registry.cache.get? name =
    if name ∈ names then (loader.source r.files name).toOption.map Source.text
    else r.registry.cache.get? name
  distinct : r.registry.cache.names.Nodup → r'.registry.cache.names.Nodup

theorem ends_forM_load_cons_iff {name : String} {u : Unit} :
    Ends ((name :: names).forM (load loader)) r u r' ↔
      ∃ found, loader.source r.files name = .ok found ∧
        Ends (names.forM (load loader)) (keeping r name found.text) u r' := by
  change Ends (load loader name >>= fun _ => names.forM (load loader)) r u r' ↔ _
  simp only [ends_bind_iff, ends_load_iff]
  constructor
  · rintro ⟨⟨⟩, _, ⟨found, hfound, rfl⟩, run⟩
    exact ⟨found, hfound, run⟩
  · rintro ⟨found, hfound, run⟩
    exact ⟨⟨⟩, _, ⟨found, hfound, rfl⟩, run⟩

/-- Loading names one after another ends exactly when each of them has a source. -/
theorem exists_ends_forM_load_iff {u : Unit} : (∃ r', Ends (names.forM (load loader)) r u r') ↔
    ∀ name ∈ names, ∃ found, loader.source r.files name = .ok found := by
  induction names generalizing r with
  | nil =>
    exact ⟨fun _ _ mem => absurd mem List.not_mem_nil,
      fun _ => ⟨r, ends_pure_iff.2 ⟨rfl, rfl⟩⟩⟩
  | cons name names ih =>
    simp only [List.forall_mem_cons, ends_forM_load_cons_iff]
    constructor
    · rintro ⟨r', found, hfound, run⟩
      exact ⟨⟨found, hfound⟩, (ih (r := keeping r name found.text)).1 ⟨r', run⟩⟩
    · rintro ⟨⟨found, hfound⟩, rest⟩
      obtain ⟨r', run⟩ := (ih (r := keeping r name found.text)).2 rest
      exact ⟨r', found, hfound, run⟩

theorem filled_of_ends_forM_load {u : Unit} (run : Ends (names.forM (load loader)) r u r') :
    Filled loader names r r' := by
  induction names generalizing r with
  | nil =>
    obtain ⟨-, rfl⟩ := ends_pure_iff.1 run
    exact ⟨rfl, rfl, fun name => (if_neg List.not_mem_nil).symm, id⟩
  | cons name names ih =>
    obtain ⟨found, hfound, run⟩ := ends_forM_load_cons_iff.1 run
    have rest := ih run
    refine ⟨rest.files, rest.registry, fun n => ?_, fun distinct => rest.distinct ?_⟩
    · rw [rest.cache n, files_keeping, cache_keeping, Bindings.get?_put]
      by_cases later : n ∈ names
      · simp [later]
      · by_cases here : n = name
        · simp [here, hfound, Except.toOption]
        · simp [later, here]
    · exact Bindings.nodup_names_put distinct name found.text

/-- Preloading from a loader that lists names ends exactly when each of them has a source; it gives
their number. -/
theorem exists_ends_preload_iff (hloader : r.registry.loader? = some loader)
    (hnames : loader.list? r.files = .ok (some names)) :
    (∃ n r', Ends preload r n r') ↔
      ∀ name ∈ names, ∃ found, loader.source r.files name = .ok found := by
  rw [← exists_ends_forM_load_iff (u := ⟨⟩), preload]
  simp only [ends_get_bind_iff, hloader, hnames]
  constructor
  · rintro ⟨n, r', run⟩
    obtain ⟨⟨⟩, r', run, -⟩ := ends_bind_iff.1 run
    exact ⟨r', run⟩
  · rintro ⟨r', run⟩
    exact ⟨_, _, ends_bind_iff.2 ⟨⟨⟩, r', run, ends_bind_iff.2 ⟨⟨⟩, _, ends_modify_iff.2 rfl,
      ends_pure_iff.2 ⟨rfl, rfl⟩⟩⟩⟩

theorem filled_of_ends_preload {n : Nat} (hloader : r.registry.loader? = some loader)
    (hnames : loader.list? r.files = .ok (some names)) (run : Ends preload r n r') :
    n = names.length ∧ Filled loader names r r' := by
  rw [preload] at run
  simp only [ends_get_bind_iff, hloader, hnames] at run
  obtain ⟨⟨⟩, r₁, load, run⟩ := ends_bind_iff.1 run
  obtain ⟨⟨⟩, _, noted, run⟩ := ends_bind_iff.1 run
  obtain ⟨rfl, rfl⟩ := ends_pure_iff.1 run
  rw [← ends_modify_iff.1 noted]
  have filled := filled_of_ends_forM_load load
  exact ⟨rfl, filled.files, filled.registry, filled.cache, filled.distinct⟩

/-- A cache that was empty holds the names that were loaded. -/
theorem Filled.cachedNames_eq (filled : Filled loader names r r') (empty : r.registry.cache = [])
    (distinct : names.Nodup) (sorted : names.Pairwise (· ≤ ·))
    (found : ∀ name ∈ names, ∃ found, loader.source r.files name = .ok found) :
    r'.registry.cachedNames = names := by
  refine Loader.sortTexts_eq (filled.distinct (by simp [empty, Bindings.names])) distinct sorted
    fun name => ?_
  rw [← Bindings.isSome_get?_iff, filled.cache name, empty]
  by_cases mem : name ∈ names
  · obtain ⟨source, hsource⟩ := found name mem
    simp [mem, hsource, Except.toOption]
  · simp [mem, Bindings.get?]

end Lookup

/-! ### Directories -/

namespace Loader

variable {t : FileTree} {encoding? : Option Encoding} {root : Path}

theorem exists_resolve_of_isDirectory (h : t.isDirectory root = .ok true) :
    ∃ top, t.resolve root = .ok top ∧ t.at? top = some .directory := by
  unfold FileTree.isDirectory at h
  cases place : t.resolve root with
  | ok top =>
    rw [place] at h
    exact ⟨top, rfl, by simpa using h⟩
  | error e =>
    rw [place] at h
    cases e <;> cases h

/-- The directory itself is no file below it. -/
theorem ne_nil_of_mem_walk {parts : List String} (sound : t.Sound)
    (dir : t.isDirectory root = .ok true) (mem : parts ∈ t.walk root) : parts ≠ [] := by
  obtain ⟨top, htop, there⟩ := exists_resolve_of_isDirectory dir
  rintro rfl
  obtain ⟨bytes, file⟩ := (FileTree.mem_walk_iff sound htop).1 mem
  rw [List.append_nil, there] at file
  cases file

/-- What a directory lists: the name of every file below it that has one, once and in order. -/
theorem exists_list?_directory (encoding? : Option Encoding) (dir : t.isDirectory root = .ok true) :
    ∃ names, list? t (.directory root encoding?) = .ok (some names) ∧ names.Nodup ∧
      names.Pairwise (· ≤ ·) ∧
        ∀ name, name ∈ names ↔ ∃ parts ∈ t.walk root, nameOf? parts = some name := by
  refine ⟨sortTexts (distinct ((t.walk root).filterMap nameOf?)), ?_,
    nodup_sortTexts (nodup_distinct _), pairwise_sortTexts _, fun name => ?_⟩
  · rw [list?, dir]
    rfl
  · rw [mem_sortTexts, mem_distinct, List.mem_filterMap]

/-- Names that a directory lists have sources exactly when they lead back to files, and preloading
ends exactly when all of them do. Then it gives their number, and the cache holds the sources of
these names beside what it held before. Names of regular files lead back. -/
theorem preload_listed_iff (sound : t.Sound) (dir : t.isDirectory root = .ok true)
    (readable : ∀ parts ∈ t.walk root, (nameOf? parts).isSome →
      ∃ text, t.read encoding? (root.down parts) = .ok text)
    (free : ∀ parts ∈ t.walk root, ∀ name ∈ nameOf? parts, ∀ c ∈ candidates root name,
      t.isDirectory c ≠ .ok true) :
    ∃ names, list? t (.directory root encoding?) = .ok (some names) ∧
      (names.Nodup ∧ names.Pairwise (· ≤ ·) ∧
        ∀ name, name ∈ names ↔ ∃ parts ∈ t.walk root, nameOf? parts = some name) ∧
      (∀ name ∈ names, (∃ found, source t name (.directory root encoding?) = .ok found) ↔
        LeadsBack t encoding? root name) ∧
      (∀ r : RegistryState, r.files = t →
        r.registry.loader? = some (.directory root encoding?) →
          ((∃ n r', Ends Lookup.preload r n r') ↔ ∀ name ∈ names, LeadsBack t encoding? root name) ∧
          ∀ n r', Ends Lookup.preload r n r' → n = names.length ∧
            Lookup.Filled (.directory root encoding?) names r r' ∧
              (r.registry.cache = [] → r'.registry.cachedNames = names)) ∧
      ∀ parts ∈ t.walk root, Regular parts → ∀ name, nameOf? parts = some name →
        LeadsBack t encoding? root name := by
  obtain ⟨top, htop, there⟩ := exists_resolve_of_isDirectory dir
  obtain ⟨names, hnames, distinct, sorted, mem_iff⟩ := exists_list?_directory encoding? dir
  have leads : ∀ name ∈ names, (∃ found, source t name (.directory root encoding?) = .ok found) ↔
      LeadsBack t encoding? root name := by
    intro name hname
    obtain ⟨parts, mem, hname⟩ := (mem_iff name).1 hname
    obtain ⟨bytes, there⟩ := (FileTree.mem_walk_iff sound htop).1 mem
    have plain := plain_of_nameOf? hname (sound.isFileName there)
    refine exists_source_iff_leadsBack sound htop plain (fun mem => ?_) ?_
    · exact readable _ mem (nameOf?_indexFile name)
    · exact free parts mem name hname _ (by simp [candidates_of_plain plain])
  refine ⟨names, hnames, ⟨distinct, sorted, mem_iff⟩, leads, ?_,
    fun parts mem regular name hname => ?_⟩
  · rintro r rfl hloader
    have ends := Lookup.exists_ends_preload_iff hloader hnames
    refine ⟨ends.trans (forall₂_congr leads), fun n r' run => ?_⟩
    obtain ⟨count, filled⟩ := Lookup.filled_of_ends_preload hloader hnames run
    exact ⟨count, filled, fun empty =>
      filled.cachedNames_eq empty distinct sorted (ends.1 ⟨n, r', run⟩)⟩
  · have down := ne_nil_of_mem_walk sound dir mem
    exact leadsBack_of_regular sound htop down mem hname readable regular

/-- A directory of components with an index file in one directory, and a dot in the name of
another. -/
def dottedTree : FileTree :=
  ((FileTree.mk []).put ["components", "nav", "index.html"] (.file [110])).put
    ["components", "a.b", "card.html"] (.file [120])

theorem preload_listed_iff_dottedTree :
    let t := dottedTree
    let root := Path.ofString "components"
    let loader := Loader.directory root (some .utf8)
    (t.Sound ∧ t.isDirectory root = .ok true ∧
      (∀ parts ∈ t.walk root, (nameOf? parts).isSome →
        ∃ text, t.read (some .utf8) (root.down parts) = .ok text) ∧
      ∀ parts ∈ t.walk root, ∀ name ∈ nameOf? parts, ∀ c ∈ candidates root name,
        t.isDirectory c ≠ .ok true) ∧
      ∃ names, list? t loader = .ok (some names) ∧ "nav" ∈ names ∧
        LeadsBack t (some .utf8) root "nav" ∧ ∃ found, source t "nav" loader = .ok found := by
  intro t root loader
  have sound : t.Sound := by decide +kernel
  have dir : t.isDirectory root = .ok true := by decide +kernel
  have readable : ∀ parts ∈ t.walk root, (nameOf? parts).isSome →
      ∃ text, t.read (some .utf8) (root.down parts) = .ok text := by
    have texts : ∀ parts ∈ t.walk root, (nameOf? parts).isSome →
        (t.read (some .utf8) (root.down parts)).toOption.isSome := by decide +kernel
    intro parts mem named
    obtain ⟨text, htext⟩ := Option.isSome_iff_exists.1 (texts parts mem named)
    exact ⟨text, eq_ok_of_toOption htext⟩
  have free : ∀ parts ∈ t.walk root, ∀ name ∈ nameOf? parts, ∀ c ∈ candidates root name,
      t.isDirectory c ≠ .ok true := by decide +kernel
  obtain ⟨names, hnames, ⟨-, -, listed⟩, leads, -, regular⟩ :=
    preload_listed_iff sound dir readable free
  have walked : ["nav", "index.html"] ∈ t.walk root := by decide +kernel
  have named : nameOf? ["nav", "index.html"] = some "nav" := by decide +kernel
  have back : LeadsBack t (some .utf8) root "nav" :=
    regular _ walked (by decide +kernel) "nav" named
  have mem : "nav" ∈ names := (listed "nav").2 ⟨_, walked, named⟩
  exact ⟨⟨sound, dir, readable, free⟩, names, hnames, mem, back, (leads "nav" mem).2 back⟩

/-- The name of a source in a directory with a dot in its name is listed and has no source, so
preloading stops. -/
theorem dotted_directory_not_loaded :
    let t := dottedTree
    let root := Path.ofString "components"
    let loader := Loader.directory root (some .utf8)
    (t.Sound ∧ t.isDirectory root = .ok true ∧
      (∀ parts ∈ t.walk root, (t.read (some .utf8) (root.down parts)).toOption.isSome) ∧
      ∀ parts ∈ t.walk root, ∀ name ∈ nameOf? parts, ∀ c ∈ candidates root name,
        t.isDirectory c ≠ .ok true) ∧
      list? t loader = .ok (some ["a.b.card", "nav"]) ∧
      source t "a.b.card" loader = .error (.notFound "a.b.card"
        ["components/a/b/card.html", "components/a/b/card/index.html"] none) ∧
      ¬ ∃ n r', Ends Lookup.preload ⟨Registry.make [] (some loader) true, t, [], []⟩ n r' := by
  intro t root loader
  have lost : source t "a.b.card" loader = .error (.notFound "a.b.card"
      ["components/a/b/card.html", "components/a/b/card/index.html"] none) := by decide +kernel
  have names : distinct ((t.walk root).filterMap nameOf?) = ["nav", "a.b.card"] := by
    decide +kernel
  have listed : list? t loader = .ok (some ["a.b.card", "nav"]) := by
    have dir : t.isDirectory root = .ok true := by decide +kernel
    have sorted : sortTexts ["nav", "a.b.card"] = ["a.b.card", "nav"] :=
      sortTexts_eq (by decide) (by decide) (by decide) (by simp [or_comm])
    rw [list?, dir, names, sorted]
    rfl
  refine ⟨by decide +kernel, listed, lost, fun ends => ?_⟩
  obtain ⟨found, hfound⟩ := (Lookup.exists_ends_preload_iff rfl listed).1 ends "a.b.card"
    List.mem_cons_self
  rw [lost] at hfound
  cases hfound

end Loader

end HtmlTemplate.Component
