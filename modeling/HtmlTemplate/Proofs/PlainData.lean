import HtmlTemplate.Proofs.Bindings
import HtmlTemplate.Script.Datum
import Mathlib.Algebra.Field.Rat
import Mathlib.Tactic.FieldSimp
import Mathlib.Data.List.Nodup
import Mathlib.Tactic.NormNum

/-!
# Equality of plain data

Plain data are built from nothing, truth values, numbers, texts, lists, tuples and dictionaries whose
keys are texts. What equality looks at is the `Content` of a datum: a number is a rational number,
and a dictionary is what it gives for its keys. A plain datum is equal to the data with the same
content (`equalAt_iff`), and strictly equal to those of them that are truth values when it is one and
no truth values otherwise (`strictEqual_iff`).
-/

namespace HtmlTemplate

/-- Bindings that give the same for the names of one of them, and are equally many, give the same for
all names. -/
theorem Bindings.get?_eq_of_subset {α : Type} {b b' : Bindings α} (distinct : b.names.Nodup)
    (many : b.length = b'.length) (sub : ∀ e ∈ b, b'.get? e.1 = some e.2) : b.get? = b'.get? := by
  have names : b.names.Perm b'.names := by
    refine (List.subperm_of_subset distinct fun n hn => ?_).perm_of_length_le (by
      simp [Bindings.names, many])
    obtain ⟨e, he, rfl⟩ := List.mem_map.1 hn
    exact (Bindings.isSome_get?_iff b' e.1).1 (by simp [sub e he])
  funext n
  cases h : b.get? n with
  | some v => exact (sub (n, v) (Bindings.mem_of_get? h)).symm
  | none =>
    rw [Bindings.get?_eq_none_iff, names.mem_iff] at h
    exact (Bindings.get?_eq_none_iff.2 h).symm

theorem Bindings.length_eq_of_get? {α : Type} {b b' : Bindings α} (distinct : b.names.Nodup)
    (distinct' : b'.names.Nodup) (same : b.get? = b'.get?) : b.length = b'.length := by
  have names : b.names.Perm b'.names := by
    refine (List.perm_ext_iff_of_nodup distinct distinct').2 fun n => ?_
    rw [← Bindings.isSome_get?_iff, ← Bindings.isSome_get?_iff, same]
  simpa [Bindings.names] using names.length_eq

namespace Number.Binary64

/-! ### The numbers that are denoted -/

/-- The number that a finite number denotes. -/
def value (x : Binary64) : ℚ :=
  (if x.isNegative then -1 else 1) * x.significand * 2 ^ x.exponent

theorem signedRatio_pos (x : Binary64) : 0 < x.signedRatio.2 := by
  change 0 < x.ratio.2
  unfold ratio
  split
  · exact Nat.one_pos
  · exact Nat.pow_pos (by decide)

theorem value_eq_signedRatio (x : Binary64) :
    x.value = (x.signedRatio.1 : ℚ) / (x.signedRatio.2 : ℚ) := by
  have sized : (x.ratio.1 : ℚ) / (x.ratio.2 : ℚ) = x.significand * 2 ^ x.exponent := by
    unfold ratio
    split
    · rename_i nonneg
      obtain ⟨k, hk⟩ := Int.eq_ofNat_of_zero_le nonneg
      simp [hk]
    · rename_i negative
      obtain ⟨k, hk⟩ := Int.eq_ofNat_of_zero_le (Int.neg_nonneg.2 (Int.not_le.1 negative).le)
      rw [← Int.neg_neg x.exponent, hk]
      simp [div_eq_mul_inv]
  rw [value, mul_assoc, ← sized]
  unfold signedRatio
  split <;> simp [neg_div]

theorem fractionEq_iff {p q : Int × Nat} (hp : 0 < p.2) (hq : 0 < q.2) :
    fractionEq p q = true ↔ (p.1 : ℚ) / (p.2 : ℚ) = (q.1 : ℚ) / (q.2 : ℚ) := by
  have p_ne : (p.2 : ℚ) ≠ 0 := by exact_mod_cast hp.ne'
  have q_ne : (q.2 : ℚ) ≠ 0 := by exact_mod_cast hq.ne'
  rw [div_eq_div_iff p_ne q_ne, fractionEq, beq_iff_eq]
  exact_mod_cast Iff.rfl

theorem equalInt_iff {x : Binary64} (finite : x.isFinite = true) (n : Int) :
    x.equalInt n = true ↔ x.value = n := by
  rw [equalInt, finite, Bool.true_and, fractionEq_iff x.signedRatio_pos Nat.one_pos,
    ← value_eq_signedRatio]
  simp

theorem equal_iff {x y : Binary64} (hx : x.isFinite = true) (hy : y.isFinite = true) :
    x.equal y = true ↔ x.value = y.value := by
  have number {z : Binary64} (hz : z.isFinite = true) : z.isNaN = false := by
    simp only [isFinite, bne_iff_ne] at hz
    simp [isNaN, hz]
  simp only [equal, number hx, number hy, hx, hy, Bool.or_self, Bool.and_self, if_true,
    Bool.false_eq_true, if_false]
  rw [fractionEq_iff x.signedRatio_pos y.signedRatio_pos, ← value_eq_signedRatio,
    ← value_eq_signedRatio]

end Number.Binary64

namespace Script

open HtmlTemplate.Number

/-! ### Contents -/

/-- What equality looks at in plain data. -/
inductive Content
  | nothing
  | number (q : ℚ)
  | text (s : String)
  | list (items : List Content)
  | tuple (items : List Content)
  /-- What a dictionary gives for its keys. -/
  | dict (entries : String → Option Content)

namespace Datum

mutual

/-- Built from nothing, truth values, finite numbers, texts, lists, tuples and dictionaries whose keys
are texts. -/
def Plain : Datum → Prop
  | nothing => True
  | bool _ => True
  | int _ => True
  | float _ x => x.isFinite = true
  | str _ => True
  | list items => PlainAll items
  | tuple items => PlainAll items
  | dict entries => PlainEntries entries
  | _ => False

def PlainAll : List Datum → Prop
  | [] => True
  | x :: xs => Plain x ∧ PlainAll xs

/-- A dictionary has each key once. -/
def PlainEntries : List (Datum × Datum) → Prop
  | [] => True
  | (k, v) :: es => (∃ s, k = .str s ∧ ∀ e ∈ es, e.1 ≠ .str s) ∧ Plain v ∧ PlainEntries es

end

/-- The letters of a text. -/
def letters? : Datum → Option String
  | str s => some s
  | _ => none

theorem letters?_eq_some_iff {d : Datum} {s : String} : d.letters? = some s ↔ d = .str s := by
  cases d <;> simp [letters?]

mutual

/-- The content of a datum that is equal to a plain one. -/
def content? : Datum → Option Content
  | nothing => some .nothing
  | bool b => some (.number b.toNat)
  | int n => some (.number n)
  | float _ x => if x.isFinite then some (.number x.value) else none
  | complex _ z => if z.im.isZero && z.re.isFinite then some (.number z.re.value) else none
  | str s => some (.text s)
  | list items => (contents? items).map .list
  | tuple items => (contents? items).map .tuple
  | dict entries => (entryContents? entries).bind fun b =>
    if b.names.Nodup then some (.dict b.get?) else none
  | _ => none

def contents? : List Datum → Option (List Content)
  | [] => some []
  | x :: xs => (content? x).bind fun c => (contents? xs).map (c :: ·)

def entryContents? : List (Datum × Datum) → Option (Bindings Content)
  | [] => some []
  | (k, v) :: es => (letters? k).bind fun s => (content? v).bind fun c =>
    (entryContents? es).map ((s, c) :: ·)

end

theorem content?_dict_eq_some_iff {es : List (Datum × Datum)} {c : Content} :
    content? (.dict es) = some c ↔
      ∃ b, entryContents? es = some b ∧ b.names.Nodup ∧ c = .dict b.get? := by
  simp only [content?, Option.bind_eq_some_iff, Option.ite_none_right_eq_some, Option.some.injEq,
    eq_comm (a := c)]

theorem contents?_cons_eq_some_iff {x : Datum} {xs : List Datum} {cs : List Content} :
    contents? (x :: xs) = some cs ↔
      ∃ c cs', content? x = some c ∧ contents? xs = some cs' ∧ c :: cs' = cs := by
  simp only [contents?, Option.bind_eq_some_iff, Option.map_eq_some_iff, exists_and_left]

/-- What a datum with a content is. -/
inductive Shape : Datum → Content → Prop
  | nothing : Shape .nothing .nothing
  | number {d : Datum} {q : ℚ} (number : d.isNumber = true) : Shape d (.number q)
  | text (s : String) : Shape (.str s) (.text s)
  | list {items : List Datum} {cs : List Content} (known : contents? items = some cs) :
    Shape (.list items) (.list cs)
  | tuple {items : List Datum} {cs : List Content} (known : contents? items = some cs) :
    Shape (.tuple items) (.tuple cs)
  | dict (es : List (Datum × Datum)) (entries : String → Option Content) :
    Shape (.dict es) (.dict entries)

theorem shape_of_content? {d : Datum} {c : Content} (h : d.content? = some c) : Shape d c := by
  cases d with
  | nothing => obtain rfl := Option.some.inj h; exact .nothing
  | bool t => obtain rfl := Option.some.inj h; exact .number rfl
  | int n => obtain rfl := Option.some.inj h; exact .number rfl
  | float m x =>
    obtain ⟨-, h⟩ := Option.ite_none_right_eq_some.1 h
    obtain rfl := Option.some.inj h
    exact .number rfl
  | complex m z =>
    obtain ⟨-, h⟩ := Option.ite_none_right_eq_some.1 h
    obtain rfl := Option.some.inj h
    exact .number rfl
  | str s => obtain rfl := Option.some.inj h; exact .text s
  | list items =>
    obtain ⟨cs, known, rfl⟩ := Option.map_eq_some_iff.1 h
    exact .list known
  | tuple items =>
    obtain ⟨cs, known, rfl⟩ := Option.map_eq_some_iff.1 h
    exact .tuple known
  | dict es =>
    obtain ⟨b, -, -, rfl⟩ := content?_dict_eq_some_iff.1 h
    exact .dict es b.get?
  | _ => cases h

/-! ### Numbers -/

/-- The number that a whole or a floating-point number denotes. -/
def exactly : Sum Int Binary64 → ℚ
  | .inl n => n
  | .inr x => x.value

/-- A number that is not infinite. -/
def Finite : Sum Int Binary64 → Prop
  | .inl _ => True
  | .inr x => x.isFinite = true

theorem numbersEqual_iff {x y : Sum Int Binary64} (hx : Finite x) :
    numbersEqual x y = true ↔ Finite y ∧ exactly x = exactly y := by
  cases x with
  | inl m =>
    cases y with
    | inl n => simp [numbersEqual, exactly, Finite]
    | inr y =>
      rw [numbersEqual, exactly, exactly, Finite]
      cases finite : y.isFinite with
      | true => rw [Binary64.equalInt_iff finite, eq_comm]; simp
      | false => simp [Binary64.equalInt, finite]
  | inr x =>
    cases y with
    | inl n =>
      rw [numbersEqual, Binary64.equalInt_iff hx]
      simp [exactly, Finite]
    | inr y =>
      rw [numbersEqual, exactly, exactly, Finite]
      cases finite : y.isFinite with
      | true => rw [Binary64.equal_iff hx finite]; simp
      | false =>
        have other : x.bits ≠ y.bits := by
          intro same
          obtain rfl : x = y := by cases x; cases y; exact congrArg _ same
          exact absurd hx (by simp [Finite, finite])
        simp [Binary64.equal, finite, other]

/-- A finite number is equal to the data with the same content. -/
theorem any_numbersEqual_iff {x : Sum Int Binary64} (hx : Finite x) (b : Datum) :
    (b.real?).any (numbersEqual x) = true ↔ some (.number (exactly x)) = b.content? := by
  cases b with
  | bool t => simp [real?, number?, numbersEqual_iff hx, content?, exactly, Finite]
  | int n => simp [real?, number?, numbersEqual_iff hx, content?, exactly, Finite]
  | float m y => simp [real?, number?, numbersEqual_iff hx, content?, exactly, Finite]
  | complex m z =>
    cases h : z.im.isZero <;> simp [real?, h, numbersEqual_iff hx, content?, exactly, Finite]
  | dict es =>
    refine iff_of_false (by simp [real?, number?]) fun h => ?_
    obtain ⟨b, -, -, other⟩ := content?_dict_eq_some_iff.1 h.symm
    cases other
  | _ => simp [real?, number?, content?]

/-! ### Dictionaries -/

/-- Whether an entry with a key and a content is in a dictionary. -/
def HasEntry (es : List (Datum × Datum)) (p : String × Content) : Prop :=
  ∃ e ∈ es, e.1 = .str p.1 ∧ content? e.2 = some p.2

theorem entryContents?_cons_eq_some_iff {e : Datum × Datum} {es : List (Datum × Datum)}
    {b : Bindings Content} : entryContents? (e :: es) = some b ↔
      ∃ p b', e.1 = .str p.1 ∧ content? e.2 = some p.2 ∧ entryContents? es = some b' ∧
        p :: b' = b := by
  obtain ⟨k, v⟩ := e
  simp only [entryContents?, Option.bind_eq_some_iff, letters?_eq_some_iff, Option.map_eq_some_iff]
  constructor
  · rintro ⟨s, key, c, value, b', rest, rfl⟩
    exact ⟨(s, c), b', key, value, rest, rfl⟩
  · rintro ⟨⟨s, c⟩, b', key, value, rest, rfl⟩
    exact ⟨s, key, c, value, b', rest, rfl⟩

theorem map_letters?_of_entryContents? {es : List (Datum × Datum)} {b : Bindings Content}
    (known : entryContents? es = some b) : es.map (fun e => e.1.letters?) = b.names.map some := by
  induction es generalizing b with
  | nil => obtain rfl := Option.some.inj known; rfl
  | cons e es ih =>
    obtain ⟨p, b', key, -, rest, rfl⟩ := entryContents?_cons_eq_some_iff.1 known
    simp [Bindings.names, letters?_eq_some_iff.2 key, ih rest]

theorem hasEntry_of_entryContents? {es : List (Datum × Datum)} {b : Bindings Content}
    (known : entryContents? es = some b) {p : String × Content} (mem : p ∈ b) : HasEntry es p := by
  induction es generalizing b with
  | nil => obtain rfl := Option.some.inj known; cases mem
  | cons e es ih =>
    obtain ⟨q, b', key, value, rest, rfl⟩ := entryContents?_cons_eq_some_iff.1 known
    rcases List.mem_cons.1 mem with rfl | mem
    · exact ⟨e, List.mem_cons_self, key, value⟩
    · obtain ⟨e', he', entry⟩ := ih rest mem
      exact ⟨e', List.mem_cons_of_mem e he', entry⟩

/-- Entries whose keys and contents are among the given ones have a content, which is among them. -/
theorem exists_entryContents? {es : List (Datum × Datum)} {among : Bindings Content}
    (known : ∀ e ∈ es, ∃ p ∈ among, e.1 = .str p.1 ∧ content? e.2 = some p.2) :
    ∃ b, entryContents? es = some b ∧ ∀ p ∈ b, p ∈ among := by
  induction es with
  | nil => exact ⟨[], rfl, fun p hp => absurd hp List.not_mem_nil⟩
  | cons e es ih =>
    obtain ⟨⟨p, hp, key, value⟩, others⟩ := List.forall_mem_cons.1 known
    obtain ⟨b, rest, sub⟩ := ih others
    exact ⟨p :: b, entryContents?_cons_eq_some_iff.2 ⟨p, b, key, value, rest, rfl⟩,
      List.forall_mem_cons.2 ⟨hp, sub⟩⟩

/-- A dictionary that has the entries of another one, and no more, has the same content. -/
theorem content?_dict_eq_iff {as bs : List (Datum × Datum)} {ca : Bindings Content}
    (known : entryContents? as = some ca) (distinct : ca.names.Nodup) :
    (as.length = bs.length ∧ ∀ p ∈ ca, HasEntry bs p) ↔
      content? (.dict as) = content? (.dict bs) := by
  have length_of {es : List (Datum × Datum)} {b : Bindings Content}
      (known : entryContents? es = some b) : es.length = b.length := by
    simpa [Bindings.names] using congrArg List.length (map_letters?_of_entryContents? known)
  have content_as : content? (.dict as) = some (.dict ca.get?) :=
    content?_dict_eq_some_iff.2 ⟨ca, known, distinct, rfl⟩
  rw [content_as, eq_comm (a := some _), content?_dict_eq_some_iff]
  constructor
  · rintro ⟨many, has⟩
    -- the keys of the one dictionary are all keys of the other, and there are no more of them, so
    -- these are distinct texts too
    have distinct_keys : (ca.names.map some).Nodup :=
      (List.nodup_map_iff (Option.some_injective String)).2 distinct
    have keys : (ca.names.map some).Perm (bs.map fun e => e.1.letters?) := by
      refine (List.subperm_of_subset distinct_keys fun s? hs => ?_).perm_of_length_le (by
        simp [Bindings.names, ← length_of known, many])
      obtain ⟨s, named, rfl⟩ := List.mem_map.1 hs
      obtain ⟨p, hp, rfl⟩ := List.mem_map.1 named
      obtain ⟨e, he, key, -⟩ := has p hp
      exact List.mem_map.2 ⟨e, he, letters?_eq_some_iff.2 key⟩
    have distinct_bs := keys.nodup distinct_keys
    have among : ∀ e ∈ bs, ∃ p ∈ ca, e.1 = .str p.1 ∧ content? e.2 = some p.2 := by
      intro e he
      obtain ⟨s, hs, letters⟩ := List.mem_map.1 (keys.symm.subset (List.mem_map_of_mem he))
      obtain ⟨p, hp, rfl⟩ := List.mem_map.1 hs
      obtain ⟨e', he', key, value⟩ := has p hp
      obtain rfl := List.inj_on_of_nodup_map distinct_bs he' he
        ((letters?_eq_some_iff.2 key).trans letters)
      exact ⟨p, hp, key, value⟩
    obtain ⟨cb, known', sub⟩ := exists_entryContents? among
    have distinct' : cb.names.Nodup := by
      rw [map_letters?_of_entryContents? known'] at distinct_bs
      exact List.Nodup.of_map _ distinct_bs
    refine ⟨cb, known', distinct', congrArg Content.dict ?_⟩
    refine (Bindings.get?_eq_of_subset distinct' ?_ fun p hp =>
      Bindings.get?_of_mem distinct (sub p hp)).symm
    rw [← length_of known', ← many, length_of known]
  · rintro ⟨cb, known', distinct', same⟩
    have same : ca.get? = cb.get? := Content.dict.inj same
    refine ⟨?_, fun p hp => ?_⟩
    · rw [length_of known, length_of known']
      exact Bindings.length_eq_of_get? distinct distinct' same
    · exact hasEntry_of_entryContents? known'
        (Bindings.mem_of_get? (same ▸ Bindings.get?_of_mem distinct hp))

/-! ### Plain data have a content -/

mutual

theorem exists_content? : ∀ {d : Datum}, d.Plain → ∃ c, d.content? = some c
  | .nothing, _ => ⟨_, rfl⟩
  | .bool _, _ => ⟨_, rfl⟩
  | .int _, _ => ⟨_, rfl⟩
  | .float _ x, h => ⟨.number x.value, by
    rw [Plain] at h
    simp [content?, h]⟩
  | .str _, _ => ⟨_, rfl⟩
  | .list items, h => by
    obtain ⟨cs, hcs⟩ := exists_contents? (show PlainAll items from h)
    exact ⟨.list cs, by simp [content?, hcs]⟩
  | .tuple items, h => by
    obtain ⟨cs, hcs⟩ := exists_contents? (show PlainAll items from h)
    exact ⟨.tuple cs, by simp [content?, hcs]⟩
  | .dict entries, h => by
    obtain ⟨b, hb, distinct⟩ := exists_entries? (show PlainEntries entries from h)
    exact ⟨_, content?_dict_eq_some_iff.2 ⟨b, hb, distinct, rfl⟩⟩

theorem exists_contents? : ∀ {xs : List Datum}, PlainAll xs → ∃ cs, contents? xs = some cs
  | [], _ => ⟨[], rfl⟩
  | x :: xs, h => by
    obtain ⟨c, hc⟩ := exists_content? h.1
    obtain ⟨cs, hcs⟩ := exists_contents? h.2
    exact ⟨c :: cs, by simp [contents?, hc, hcs]⟩

theorem exists_entries? : ∀ {es : List (Datum × Datum)}, PlainEntries es →
    ∃ b, entryContents? es = some b ∧ b.names.Nodup
  | [], _ => ⟨[], rfl, List.nodup_nil⟩
  | (k, v) :: es, h => by
    obtain ⟨⟨s, rfl, fresh⟩, hv, rest⟩ := h
    obtain ⟨c, hc⟩ := exists_content? hv
    obtain ⟨b, hb, distinct⟩ := exists_entries? rest
    refine ⟨(s, c) :: b, entryContents?_cons_eq_some_iff.2 ⟨(s, c), b, rfl, hc, hb, rfl⟩,
      List.nodup_cons.2 ⟨fun mem => ?_, distinct⟩⟩
    obtain ⟨p, hp, rfl⟩ := List.mem_map.1 mem
    obtain ⟨e, he, key, -⟩ := hasEntry_of_entryContents? hb hp
    exact fresh e he key

end

/-! ### Equality -/

theorem equalAt_str_iff {inside : Bool} {s : String} {d : Datum} :
    equalAt inside (.str s) d = true ↔ d = .str s := by
  cases d with
  | str t => rw [equalAt, beq_iff_eq, str.injEq, eq_comm]
  | _ => simp [equalAt]

mutual

-- The induction is on the plain datum; the other one may be any, with a content or without.

/-- A plain datum is equal to the data with the same content. -/
theorem equalAt_iff (inside : Bool) : ∀ {a : Datum}, a.Plain → ∀ b : Datum,
    (equalAt inside a b = true ↔ a.content? = b.content?)
  | .nothing, _, b => by
    constructor
    · intro h
      cases b <;> first | rfl | cases h
    · intro same
      cases shape_of_content? same.symm
      rfl
  | .bool t, _, b => any_numbersEqual_iff (x := .inl t.toNat) trivial b
  | .int n, _, b => any_numbersEqual_iff (x := .inl n) trivial b
  | .float m x, ha, b => by
    have content_a : content? (.float m x) = some (.number (exactly (.inr x))) := if_pos ha
    have value := any_numbersEqual_iff (x := .inr x) ha b
    rw [← content_a] at value
    cases b with
    | float m' y =>
      rw [equalAt, Bool.or_eq_true]
      refine (or_iff_right_of_imp fun same => ?_).trans value
      -- one and the same number has the same content
      have one : x = y := by simp_all [sameMarked]
      rw [value, ← one]
      rfl
    | _ => exact value
  | .str s, _, b => by
    rw [equalAt_str_iff]
    constructor
    · rintro rfl
      rfl
    · intro same
      cases shape_of_content? same.symm
      rfl
  | .list as, ha, b => by
    obtain ⟨cs, hcs⟩ := exists_contents? (show PlainAll as from ha)
    have content_as : content? (.list as) = some (.list cs) := by rw [content?, hcs]; rfl
    constructor
    · intro h
      cases b with
      | list bs => rw [content?, content?, (membersEqual_iff ha bs).1 h]
      | _ => cases h
    · intro same
      cases shape_of_content? (same.symm.trans content_as) with
      | list known => exact (membersEqual_iff ha _).2 (hcs.trans known.symm)
  | .tuple as, ha, b => by
    obtain ⟨cs, hcs⟩ := exists_contents? (show PlainAll as from ha)
    have content_as : content? (.tuple as) = some (.tuple cs) := by rw [content?, hcs]; rfl
    constructor
    · intro h
      cases b with
      | tuple bs => rw [content?, content?, (membersEqual_iff ha bs).1 h]
      | _ => cases h
    · intro same
      cases shape_of_content? (same.symm.trans content_as) with
      | tuple known => exact (membersEqual_iff ha _).2 (hcs.trans known.symm)
  | .dict as, ha, b => by
    obtain ⟨ca, known, distinct⟩ := exists_entries? (show PlainEntries as from ha)
    have content_as : content? (.dict as) = some (.dict ca.get?) :=
      content?_dict_eq_some_iff.2 ⟨ca, known, distinct, rfl⟩
    have dicts (bs : List (Datum × Datum)) : equalAt inside (.dict as) (.dict bs) = true ↔
        content? (.dict as) = content? (.dict bs) := by
      rw [equalAt, Bool.and_eq_true, beq_iff_eq, ← content?_dict_eq_iff known distinct]
      exact and_congr_right fun _ => entriesIn_iff ha known bs
    constructor
    · intro h
      cases b with
      | dict bs => exact (dicts bs).1 h
      | _ => cases h
    · intro same
      cases shape_of_content? (same.symm.trans content_as) with
      | dict bs => exact (dicts bs).2 same

theorem membersEqual_iff : ∀ {as : List Datum}, PlainAll as → ∀ bs : List Datum,
    (membersEqual as bs = true ↔ contents? as = contents? bs)
  | [], _, [] => by simp [membersEqual]
  | [], _, b :: bs => by
    refine iff_of_false (by simp [membersEqual]) fun same => ?_
    obtain ⟨c, cs, -, -, other⟩ := contents?_cons_eq_some_iff.1 same.symm
    cases other
  | a :: as, ha, [] => by
    refine iff_of_false (by simp [membersEqual]) fun same => ?_
    obtain ⟨c, cs, -, -, other⟩ := contents?_cons_eq_some_iff.1 same
    cases other
  | a :: as, ha, b :: bs => by
    obtain ⟨c, hc⟩ := exists_content? ha.1
    obtain ⟨cs, hcs⟩ := exists_contents? ha.2
    have content_as := contents?_cons_eq_some_iff.2 ⟨c, cs, hc, hcs, rfl⟩
    rw [membersEqual, Bool.and_eq_true, equalAt_iff true ha.1 b, membersEqual_iff ha.2 bs, hc, hcs,
      content_as, eq_comm (a := some (c :: cs)), contents?_cons_eq_some_iff]
    constructor
    · rintro ⟨hb, hbs⟩
      exact ⟨c, cs, hb.symm, hbs.symm, rfl⟩
    · rintro ⟨c', cs', hb, hbs, same⟩
      obtain ⟨rfl, rfl⟩ := List.cons.inj same
      exact ⟨hb.symm, hbs.symm⟩

/-- All entries of a plain dictionary are in another one when that has their keys and contents. -/
theorem entriesIn_iff : ∀ {es : List (Datum × Datum)}, PlainEntries es →
    ∀ {c : Bindings Content}, entryContents? es = some c → ∀ bs : List (Datum × Datum),
      (entriesIn es bs = true ↔ ∀ p ∈ c, HasEntry bs p)
  | [], _, c, known, bs => by
    obtain rfl := Option.some.inj known
    simp [entriesIn]
  | (k, v) :: es, h, c, known, bs => by
    obtain ⟨⟨s, rfl, -⟩, hv, rest⟩ := h
    obtain ⟨p, c', key, value, known', rfl⟩ := entryContents?_cons_eq_some_iff.1 known
    obtain rfl : s = p.1 := str.inj key
    rw [entriesIn, Bool.and_eq_true, entriesIn_iff rest known' bs, List.forall_mem_cons]
    refine and_congr_left fun _ => ?_
    rw [List.any_eq_true]
    refine exists_congr fun e => and_congr_right fun _ => ?_
    rw [Bool.and_eq_true, equalAt_str_iff, equalAt_iff true hv e.2, value, eq_comm (a := some _)]

end

/-! ### Strict equality -/

/-- Whether a datum is a truth value. -/
def isBool : Datum → Bool
  | bool _ => true
  | _ => false

theorem isBool_iff {d : Datum} : d.isBool = true ↔ ∃ t, d = .bool t := by
  cases d <;> simp [isBool]

/-- Data with the same content have the same type, if they are no numbers. -/
theorem typeName_eq_of_shape {a b : Datum} {c : Content} (ha : Shape a c) (hb : Shape b c)
    (number : (a.isNumber && b.isNumber) = false) : a.typeName = b.typeName := by
  cases ha <;> cases hb <;> first | rfl | simp_all

/-- A truth value is strictly equal to itself only. -/
theorem strictEqual_bool_left (t : Bool) (b : Datum) :
    strictEqual (.bool t) b = true ↔ b = .bool t := by
  cases b with
  | bool t' => rw [strictEqual, beq_iff_eq, bool.injEq, eq_comm]
  | _ => simp [strictEqual]

theorem strictEqual_bool_right (a : Datum) (t : Bool) :
    strictEqual a (.bool t) = true ↔ a = .bool t := by
  cases a <;> simp [strictEqual]

theorem strictEqual_of_not_bool {a b : Datum} (ha : a.isBool = false) (hb : b.isBool = false) :
    strictEqual a b = if a.isNumber && b.isNumber then alike a b
      else a.typeName == b.typeName && alike a b := by
  unfold strictEqual
  split <;> first | rfl | cases ha | cases hb

/-- A plain datum is strictly equal to the data with the same content, unless only one of both is a
truth value. -/
theorem strictEqual_iff {a : Datum} (ha : a.Plain) (b : Datum) :
    strictEqual a b = true ↔ a.isBool = b.isBool ∧ a.content? = b.content? := by
  cases kind_a : a.isBool with
  | true =>
    obtain ⟨t, rfl⟩ := isBool_iff.1 kind_a
    rw [strictEqual_bool_left]
    cases kind_b : b.isBool with
    | true =>
      obtain ⟨t', rfl⟩ := isBool_iff.1 kind_b
      cases t <;> cases t' <;> simp [content?]
    | false =>
      refine iff_of_false (fun same => ?_) (fun both => absurd both.1 (by decide))
      rw [same] at kind_b
      cases kind_b
  | false =>
    cases kind_b : b.isBool with
    | true =>
      obtain ⟨t, rfl⟩ := isBool_iff.1 kind_b
      rw [strictEqual_bool_right]
      refine iff_of_false (fun same => ?_) (fun both => absurd both.1 (by decide))
      rw [same] at kind_a
      cases kind_a
    | false =>
      have like : alike a b = true ↔ a.content? = b.content? := equalAt_iff true ha b
      rw [strictEqual_of_not_bool kind_a kind_b]
      cases number : (a.isNumber && b.isNumber) with
      | true => simpa using like
      | false =>
        have type (same : a.content? = b.content?) : a.typeName = b.typeName := by
          obtain ⟨c, hc⟩ := exists_content? ha
          exact typeName_eq_of_shape (shape_of_content? hc) (shape_of_content? (same ▸ hc)) number
        simpa [like] using type

theorem strictEqual_refl {a : Datum} (ha : a.Plain) : strictEqual a a = true :=
  (strictEqual_iff ha a).2 ⟨rfl, rfl⟩

theorem strictEqual_symm {a b : Datum} (ha : a.Plain) (hb : b.Plain)
    (h : strictEqual a b = true) : strictEqual b a = true := by
  obtain ⟨kind, same⟩ := (strictEqual_iff ha b).1 h
  exact (strictEqual_iff hb a).2 ⟨kind.symm, same.symm⟩

theorem strictEqual_trans {a b : Datum} (ha : a.Plain) (hb : b.Plain) {c : Datum}
    (hab : strictEqual a b = true) (hbc : strictEqual b c = true) : strictEqual a c = true := by
  obtain ⟨kind, same⟩ := (strictEqual_iff ha b).1 hab
  obtain ⟨kind', same'⟩ := (strictEqual_iff hb c).1 hbc
  exact (strictEqual_iff ha c).2 ⟨kind.trans kind', same.trans same'⟩

/-- Plain data that are strictly equal to one and the same datum are strictly equal. -/
theorem strictEqual_of_both {a b c : Datum} (ha : a.Plain) (hb : b.Plain)
    (hac : strictEqual a c = true) (hbc : strictEqual b c = true) : strictEqual a b = true := by
  obtain ⟨kind, same⟩ := (strictEqual_iff ha c).1 hac
  obtain ⟨kind', same'⟩ := (strictEqual_iff hb c).1 hbc
  exact (strictEqual_iff ha b).2 ⟨kind.trans kind'.symm, same.trans same'.symm⟩

/-- Strictly equal plain data are strictly equal to the same data. -/
theorem strictEqual_congr {a b : Datum} (ha : a.Plain) (hb : b.Plain)
    (h : strictEqual a b = true) (c : Datum) : strictEqual a c = strictEqual b c :=
  Bool.eq_iff_iff.2 ⟨strictEqual_trans hb ha (strictEqual_symm ha hb h),
    strictEqual_trans ha hb h⟩

end Datum

end Script

end HtmlTemplate
