import HtmlTemplate.Expand.ScriptEvaluator
import HtmlTemplate.Proofs.EvaluatedNames
import HtmlTemplate.Proofs.NameLanguage
import HtmlTemplate.Proofs.PlainData

/-!
# The order of cases

Among plain values of which one and the same are equal, the equality that picks a case is that of the
contents (`Comparable.same_iff`), so it is an equivalence. When the expressions of the cases of a
switch mean values of which no two are equal, at most one of them is chosen, and the order matters
for the defaults only (`selects_perm`).
-/

namespace HtmlTemplate.Script

open HtmlTemplate.Expand HtmlTemplate.Number

/-! ### Equality of values -/

@[simp]
theorem datum_bool (w : World) (t : Bool) : (Value.bool t).datum w = .bool t := rfl

@[simp]
theorem datum_int (w : World) (m : Mark) (n : Int) : (Value.int m n).datum w = .int n := rfl

@[simp]
theorem datum_float (w : World) (m : Mark) (x : Binary64) :
    (Value.float m x).datum w = .float m x := rfl

/-- Whether a value is a truth value. -/
def Value.isBool : Value → Bool
  | bool _ => true
  | _ => false

theorem isBool_datum (w : World) (v : Value) : (v.datum w).isBool = v.isBool := by
  cases v with
  | object n =>
    unfold Value.datum datumAt
    cases h : w.object n with
    | error r => cases r <;> simp [h, Datum.isBool, Value.isBool]
    | _ => simp [h, Datum.isBool, Value.isBool]
  | builtin b =>
    unfold Value.datum datumAt
    cases h : b.isType <;> simp [h, Datum.isBool, Value.isBool]
  | _ => rfl

theorem datum_eq_bool_iff {w : World} {v : Value} {t : Bool} :
    v.datum w = .bool t ↔ v = .bool t := by
  refine ⟨fun h => ?_, fun h => h ▸ rfl⟩
  have kind := isBool_datum w v
  rw [h] at kind
  cases v with
  | bool t' => exact congrArg Value.bool (Datum.bool.inj h)
  | _ => cases kind

theorem isBool_eq_of_same {a b : Value} (h : a.same b = true) : a.isBool = b.isBool := by
  cases a <;> cases b <;> first | rfl | cases h

/-- A value that is plain inside is the same for a switch as those with strictly equal insides, when
one and the same are equal. -/
theorem same_iff {w : World} {a b : Value} (plain : (a.datum w).Plain)
    (identity : a.same b = true → (a.datum w).equal (b.datum w) = true) :
    scriptEvaluator.same a b w = true ↔ (a.datum w).strictEqual (b.datum w) = true := by
  have same : scriptEvaluator.same a b w =
      (a.same b || (a.datum w).strictEqual (b.datum w)) := rfl
  rw [same, Bool.or_eq_true]
  refine or_iff_right_of_imp fun one => ?_
  have content := (Datum.equalAt_iff false plain (b.datum w)).1 (identity one)
  refine (Datum.strictEqual_iff plain (b.datum w)).2 ⟨?_, content⟩
  rw [isBool_datum, isBool_datum, isBool_eq_of_same one]

/-- Values that are plain in a world, and of which one and the same are equal. -/
structure Comparable (w : World) (D : Value → Prop) : Prop where
  plain : ∀ v, D v → (v.datum w).Plain
  identity : ∀ a b, D a → D b → a.same b = true → (a.datum w).equal (b.datum w) = true

theorem Comparable.same_iff {w : World} {D : Value → Prop} (h : Comparable w D) {a b : Value}
    (ha : D a) (hb : D b) : scriptEvaluator.same a b w = true ↔
      (a.datum w).strictEqual (b.datum w) = true :=
  Script.same_iff (h.plain a ha) (h.identity a b ha hb)

/-- A truth value is the same as itself only. -/
theorem eq_bool_of_same {w : World} {t : Bool} {v : Value}
    (h : scriptEvaluator.same (.bool t) v w = true ∨ scriptEvaluator.same v (.bool t) w = true) :
    v = .bool t := by
  rcases h with h | h <;> rcases (Bool.or_eq_true _ _).mp h with one | equal
  · cases v <;> simp_all [Value.same]
  · rwa [datum_bool, Datum.strictEqual_bool_left, datum_eq_bool_iff] at equal
  · cases v <;> simp_all [Value.same]
  · rwa [datum_bool, Datum.strictEqual_bool_right, datum_eq_bool_iff] at equal

/-- A whole number is the same as a finite floating-point number when that denotes it. -/
theorem same_int_float_iff {w : World} {x : Binary64} (finite : x.isFinite = true) (m m' : Mark)
    (n : Int) : (scriptEvaluator.same (.int m n) (.float m' x) w = true ↔ x.value = n) ∧
      (scriptEvaluator.same (.float m' x) (.int m n) w = true ↔ x.value = n) := by
  have left : scriptEvaluator.same (.int m n) (.float m' x) w =
      (Datum.int n).strictEqual (.float m' x) := rfl
  have right : scriptEvaluator.same (.float m' x) (.int m n) w =
      (Datum.float m' x).strictEqual (.int n) := rfl
  have plain : (Datum.int n).Plain := trivial
  have plain' : (Datum.float m' x).Plain := finite
  rw [left, right, Datum.strictEqual_iff plain, Datum.strictEqual_iff plain']
  simp [Datum.isBool, Datum.content?, finite, eq_comm]

end HtmlTemplate.Script

namespace HtmlTemplate.Expand

open HtmlTemplate.Markup HtmlTemplate.Script HtmlTemplate.Component HtmlTemplate.Number Expansion

theorem ends_ofRun {α : Type} {x : Run α} {w w' : World} {a : α} (run : Ends x w a w') :
    Ends (ofRun x) w a w' := by
  unfold Ends at run ⊢
  rw [ofRun, run]
  rfl

/-! ### Choosing a case -/

section Selects

variable {V W : Type}

/-- A switch goes on with the inside of a node among its children from a state on, or is gone there
when it selects nothing. -/
def Selects (setting : Setting V W) (place : Place V) (tag : String) (attrs : Attrs)
    (children : List Node) (s : State W) : Option Node → State W → Prop
  | none, s₁ => ∀ insideChild,
    Ends (expandSwitch setting place tag attrs children insideChild) s [] s₁
  | some n, s₁ => ∃ k, children[k]? = some n ∧ ∀ insideChild,
    @Eq (Except Stop (List Node) × State W)
      (expandSwitch setting place tag attrs children insideChild s)
      (within (fun cs => [.element tag attrs (children.modify k (withChildren · cs))])
        (insideChild k place) s₁)

theorem exists_findIdx?_of_find? {α : Type} {p : α → Bool} {xs : List α} {x : α}
    (h : xs.find? p = some x) : ∃ k, xs.findIdx? p = some k ∧ xs[k]? = some x := by
  obtain ⟨hx, before, after, rfl, missed⟩ := List.find?_eq_some_iff_append.1 h
  have none : before.findIdx? p = none := by
    rw [List.findIdx?_eq_none_iff]
    simpa using missed
  exact ⟨before.length, by simp [List.findIdx?_append, none, List.findIdx?_cons, hx], by simp⟩

theorem findIdx?_of_find?_eq_none {α : Type} {p : α → Bool} {xs : List α}
    (h : xs.find? p = none) : xs.findIdx? p = none := by
  rw [List.findIdx?_eq_none_iff]
  simpa using h

/-- What a switch selects is the case that equals its value, or else the first default. -/
theorem selects_of_ends {setting : Setting V W} {place : Place V} {tag source : String}
    {attrs : Attrs} {children : List Node} {s : State W} {value : V} {w w' : W}
    {p : Node → Bool} (given : attrs.get? "value" = some source)
    (evaluated : Ends (setting.evaluator.evaluate source place.scope) s.world value w)
    (compared : Ends (equalCase? setting.evaluator place.scope value 0 children) w
      (children.findIdx? p) w') :
    Selects setting place tag attrs children s
      ((children.find? p).or (children.find? isDefaultCase)) { s with world := w' } := by
  have chosen : Ends (compute place [.element tag attrs children] (do
      let value ← setting.evaluator.evaluate source place.scope
      equalCase? setting.evaluator place.scope value 0 children)) s (children.findIdx? p)
      { s with world := w' } :=
    ends_compute_iff.2 ⟨w', ends_bind_iff.2 ⟨value, w, evaluated, compared⟩, rfl⟩
  have goesOn (insideChild : Nat → Place V → Expansion W (List Node)) :
      @Eq (Except Stop (List Node) × State W)
        (expandSwitch setting place tag attrs children insideChild s)
        (((children.findIdx? p).orElse fun _ => children.findIdx? isDefaultCase).elim (return [])
          (fun k => within (fun cs => [.element tag attrs (children.modify k (withChildren · cs))])
            (insideChild k place)) { s with world := w' }) := by
    unfold expandSwitch
    simp only [given]
    refine (run_bind_of_ends chosen _).trans ?_
    cases (children.findIdx? p).orElse fun _ => children.findIdx? isDefaultCase <;> rfl
  cases equal : children.find? p with
  | some n =>
    obtain ⟨k, index, here⟩ := exists_findIdx?_of_find? equal
    rw [index] at goesOn
    exact ⟨k, here, goesOn⟩
  | none =>
    rw [findIdx?_of_find?_eq_none equal] at goesOn
    cases default : children.find? isDefaultCase with
    | some n =>
      obtain ⟨k, index, here⟩ := exists_findIdx?_of_find? default
      rw [index] at goesOn
      exact ⟨k, here, goesOn⟩
    | none =>
      rw [findIdx?_of_find?_eq_none default] at goesOn
      exact goesOn

end Selects

/-- Whatever world is reached while the cases of a switch are compared, what is inside its value is
as it was, and the expressions of the cases evaluate to plain values that mean the same each time. -/
structure SteadySwitch (scope : Scope Value) (value : Value) (d : Datum) (means : Node → Datum)
    (children : List Node) (reached : World → Prop) : Prop where
  kept : ∀ w, reached w → value.datum w = d
  plain : ∀ n ∈ children, isComparedCase n = true → (means n).Plain
  cases : ∀ n ∈ children, isComparedCase n = true → ∀ w, reached w → ∃ v w',
    Ends (scriptEvaluator.evaluate ((n.attrs.get? "case").getD "") scope) w v w' ∧ reached w' ∧
      (v.datum w').Plain ∧ (v.datum w').strictEqual (means n) = true ∧
      (v.same value = true → (v.datum w').equal (value.datum w') = true)

section SteadySwitch

variable {scope : Scope Value} {value : Value} {d : Datum} {means : Node → Datum}
  {children children' : List Node} {reached : World → Prop}

/-- Whether a case means the value of the switch. -/
def matchesCase (means : Node → Datum) (d : Datum) (n : Node) : Bool :=
  isComparedCase n && (means n).strictEqual d

theorem SteadySwitch.subset (steady : SteadySwitch scope value d means children reached)
    (sub : children' ⊆ children) : SteadySwitch scope value d means children' reached where
  kept := steady.kept
  plain := fun n hn => steady.plain n (sub hn)
  cases := fun n hn => steady.cases n (sub hn)

/-- The first case that means the value of the switch is found. -/
theorem SteadySwitch.ends_equalCase? (steady : SteadySwitch scope value d means children reached) :
    ∀ index w, reached w → ∃ w', reached w' ∧ Ends (equalCase? scriptEvaluator scope value index
      children) w ((children.findIdx? (matchesCase means d)).map (index + ·)) w' := by
  induction children with
  | nil => exact fun index w here => ⟨w, here, ends_pure_iff.2 ⟨rfl, rfl⟩⟩
  | cons n ns ih =>
    intro index w here
    have rest := ih (steady.subset (List.subset_cons_self n ns))
    have next (w : World) (here : reached w)
        (missed : matchesCase means d n = false) : ∃ w', reached w' ∧
          Ends (equalCase? scriptEvaluator scope value (index + 1) ns) w
            (((n :: ns).findIdx? (matchesCase means d)).map (index + ·)) w' := by
      obtain ⟨w', here', run⟩ := rest (index + 1) w here
      refine ⟨w', here', ?_⟩
      have later : ((n :: ns).findIdx? (matchesCase means d)).map (index + ·) =
          (ns.findIdx? (matchesCase means d)).map (index + 1 + ·) := by
        rw [List.findIdx?_cons, missed, if_neg Bool.false_ne_true, Option.map_map]
        congr 1
        funext i
        simp only [Function.comp_apply]
        omega
      rw [later]
      exact run
    rw [equalCase?]
    cases compared : isComparedCase n with
    | false => exact next w here (by simp [matchesCase, compared])
    | true =>
      obtain ⟨v, w₁, evaluated, here₁, plain, meant, identity⟩ :=
        steady.cases n List.mem_cons_self compared w here
      -- this time the case has another value than at other times, but one that means the same
      have same : scriptEvaluator.same v value w₁ = (means n).strictEqual d := by
        rw [Bool.eq_iff_iff, same_iff plain identity, steady.kept w₁ here₁,
          Datum.strictEqual_congr plain (steady.plain n List.mem_cons_self compared) meant]
      cases equal : (means n).strictEqual d with
      | true =>
        have found : matchesCase means d n = true := by rw [matchesCase, compared, equal]; rfl
        refine ⟨w₁, here₁, ends_bind_iff.2 ⟨v, w₁, evaluated, ends_bind_iff.2 ⟨w₁, w₁,
          ends_get_iff.2 ⟨rfl, rfl⟩, ?_⟩⟩⟩
        rw [same, equal, if_pos rfl, List.findIdx?_cons, found]
        exact ends_pure_iff.2 ⟨rfl, rfl⟩
      | false =>
        obtain ⟨w', here', run⟩ := next w₁ here₁ (by simp [matchesCase, equal])
        refine ⟨w', here', ends_bind_iff.2 ⟨v, w₁, evaluated, ends_bind_iff.2 ⟨w₁, w₁,
          ends_get_iff.2 ⟨rfl, rfl⟩, ?_⟩⟩⟩
        rw [same, equal]
        exact run

end SteadySwitch

/-! ### Reordering -/

/-- What at most one element of a list satisfies is found in every order of the list. -/
theorem find?_eq_of_perm {α : Type} {p : α → Bool} {xs ys : List α} (perm : xs.Perm ys)
    (once : xs.Pairwise fun a b => p a = true → p b = false) : xs.find? p = ys.find? p := by
  have filtered := perm.filter p
  have apart := once.filter p
  have all : ∀ a ∈ xs.filter p, p a = true := fun a ha => (List.mem_filter.1 ha).2
  rw [← List.head?_filter, ← List.head?_filter]
  cases h : xs.filter p with
  | nil => rw [h] at filtered; rw [filtered.nil_eq]
  | cons a rest =>
    rw [h] at filtered apart all
    cases rest with
    | nil => rw [← List.singleton_perm.1 filtered]
    | cons b rest =>
      have other := (List.pairwise_cons.1 apart).1 b List.mem_cons_self (all a List.mem_cons_self)
      rw [all b (List.mem_cons_of_mem a List.mem_cons_self)] at other
      cases other

/-- When the cases mean values of which no two are equal, a switch selects the same in every order
of its children that has the same default first. -/
theorem selects_perm {setting : Setting Value World} (script : setting.evaluator = scriptEvaluator)
    {place : Place Value} {tag source : String} {attrs : Attrs} {children children' : List Node}
    {s : State World} {value : Value} {w : World} {d : Datum} {means : Node → Datum}
    {reached : World → Prop} (given : attrs.get? "value" = some source)
    (evaluated : Ends (scriptEvaluator.evaluate source place.scope) s.world value w)
    (here : reached w) (steady : SteadySwitch place.scope value d means children reached)
    (apart : children.Pairwise fun n m => isComparedCase n = true → isComparedCase m = true →
      (means n).strictEqual (means m) = false)
    (perm : children.Perm children')
    (default : children.find? isDefaultCase = children'.find? isDefaultCase) :
    let chosen? := (children.find? (matchesCase means d)).or (children.find? isDefaultCase)
    ∃ s₁ s₁', Selects setting place tag attrs children s chosen? s₁ ∧
      Selects setting place tag attrs children' s chosen? s₁' := by
  have selects {ns : List Node} (steady : SteadySwitch place.scope value d means ns reached) :
      ∃ s₁, Selects setting place tag attrs ns s
        ((ns.find? (matchesCase means d)).or (ns.find? isDefaultCase)) s₁ := by
    obtain ⟨w', -, run⟩ := steady.ends_equalCase? 0 w here
    simp only [Nat.zero_add, Option.map_id'] at run
    rw [← script] at evaluated run
    exact ⟨_, selects_of_ends given evaluated run⟩
  have once : children.Pairwise fun n m =>
      matchesCase means d n = true → matchesCase means d m = false := by
    refine apart.imp_of_mem fun {n m} hn hm apart hits => ?_
    obtain ⟨compared, equal⟩ := Bool.and_eq_true_iff.1 hits
    rw [Bool.eq_false_iff]
    intro hits'
    obtain ⟨compared', equal'⟩ := Bool.and_eq_true_iff.1 hits'
    -- both cases would mean the value of the switch, and so the same
    have both := Datum.strictEqual_of_both (steady.plain n hn compared)
      (steady.plain m hm compared') equal equal'
    rw [apart compared compared'] at both
    cases both
  obtain ⟨s₁, selected⟩ := selects steady
  obtain ⟨s₁', selected'⟩ := selects (steady.subset perm.symm.subset)
  rw [← default, ← find?_eq_of_perm perm once] at selected'
  exact ⟨s₁, s₁', selected, selected'⟩

/-- The equality that picks a case is an equivalence on plain values of which one and the same are
equal; it tells truth values from all others and numbers by what they denote. So when the cases of a
switch mean values of which no two are equal, the order of its children matters only for which
default is the first. -/
theorem strict_equality :
    (∀ (w : World) (D : Value → Prop), Comparable w D →
      (∀ a, D a → scriptEvaluator.same a a w = true) ∧
      (∀ a b, D a → D b → scriptEvaluator.same a b w = true →
        scriptEvaluator.same b a w = true) ∧
      ∀ a b c, D a → D b → D c → scriptEvaluator.same a b w = true →
        scriptEvaluator.same b c w = true → scriptEvaluator.same a c w = true) ∧
    (∀ (w : World) (t : Bool) (v : Value), scriptEvaluator.same (.bool t) v w = true ∨
      scriptEvaluator.same v (.bool t) w = true → v = .bool t) ∧
    (∀ (w : World) (x : Binary64) (m m' : Mark) (n : Int), x.isFinite = true →
      (scriptEvaluator.same (.int m n) (.float m' x) w = true ↔ x.value = n) ∧
      (scriptEvaluator.same (.float m' x) (.int m n) w = true ↔ x.value = n)) ∧
    ∀ (setting : Setting Value World), setting.evaluator = scriptEvaluator →
      ∀ (place : Place Value) (tag source : String) (attrs : Attrs) (s : State World)
        (value : Value) (w : World), attrs.get? "value" = some source →
        Ends (scriptEvaluator.evaluate source place.scope) s.world value w →
      ∀ (children children' : List Node) (d : Datum) (means : Node → Datum)
        (reached : World → Prop), reached w →
        SteadySwitch place.scope value d means children reached →
        (children.Pairwise fun n m => isComparedCase n = true → isComparedCase m = true →
          (means n).strictEqual (means m) = false) →
        children.Perm children' → children.find? isDefaultCase = children'.find? isDefaultCase →
        let chosen? := (children.find? (matchesCase means d)).or (children.find? isDefaultCase)
        ∃ s₁ s₁', Selects setting place tag attrs children s chosen? s₁ ∧
          Selects setting place tag attrs children' s chosen? s₁' := by
  refine ⟨fun w D comparable => ⟨fun a ha => ?_, fun a b ha hb hab => ?_,
    fun a b c ha hb hc hab hbc => ?_⟩, fun w t v h => eq_bool_of_same h,
    fun w x m m' n finite => same_int_float_iff finite m m' n,
    fun setting script place tag source attrs s value w given evaluated children children' d means
      reached here steady apart perm default =>
        selects_perm script given evaluated here steady apart perm default⟩
  · exact (comparable.same_iff ha ha).2 (Datum.strictEqual_refl (comparable.plain a ha))
  · rw [comparable.same_iff ha hb] at hab
    rw [comparable.same_iff hb ha]
    exact Datum.strictEqual_symm (comparable.plain a ha) (comparable.plain b hb) hab
  · rw [comparable.same_iff ha hb] at hab
    rw [comparable.same_iff hb hc] at hbc
    rw [comparable.same_iff ha hc]
    exact Datum.strictEqual_trans (comparable.plain a ha) (comparable.plain b hb) hab hbc

/-- The setting of scripts with the options that are used when no others are asked for. -/
def scriptSetting : Setting Value World where
  options := nameOptions
  evaluator := scriptEvaluator
  limit := nameSetting.limit

/-- A state without components. -/
def scriptStart : State World where
  world := World.initial
  registry := { registry := Registry.make [] none true }

/-- The floating-point number one. -/
def one : Binary64 := ⟨0x3ff0000000000000⟩

/-- A place where a truth value and a whole number are equal to one. -/
def onesPlace : Place Value where
  scope := .root [("v", .float .shared one), ("t", .bool true), ("n", .int .shared 1)]

/-- A case with an expression. -/
def comparedCase (source text : String) : Node := .element "case" [("case", source)] [.text text]

/-- The case that is chosen when no other is. -/
def defaultCase : Node := .element "case" [("default", "")] [.text "other"]

theorem strict_equality_onesPlace :
    scriptEvaluator.same (.float .shared one) (.int .shared 1) World.initial = true ∧
    scriptEvaluator.same (.bool true) (.bool true) World.initial = true ∧
    scriptEvaluator.same (.float .shared one) (.float (.own 7) one) World.initial = true ∧
    ∃ s₁ s₁', Selects scriptSetting onesPlace "switch" [("value", "v")]
        [comparedCase "t" "truth", comparedCase "n" "number", defaultCase] scriptStart
        (some (comparedCase "n" "number")) s₁ ∧
      Selects scriptSetting onesPlace "switch" [("value", "v")]
        [defaultCase, comparedCase "n" "number", comparedCase "t" "truth"] scriptStart
        (some (comparedCase "n" "number")) s₁' := by
  obtain ⟨equivalence, truths, numbers, switches⟩ := strict_equality
  have finite : one.isFinite = true := by decide
  have value : one.value = (1 : Int) := by
    have ratio : one.signedRatio = (4503599627370496, 4503599627370496) := by decide
    rw [Binary64.value_eq_signedRatio, ratio]
    norm_num
  let ones : Value → Prop := fun v =>
    v = .bool true ∨ v = .float .shared one ∨ v = .float (.own 7) one
  have comparable : Comparable World.initial ones := by
    constructor
    · rintro v (rfl | rfl | rfl) <;> simp [Datum.Plain, finite]
    · rintro a b (rfl | rfl | rfl) (rfl | rfl | rfl) _ <;> decide +kernel
  obtain ⟨refl, symm, -⟩ := equivalence World.initial ones comparable
  refine ⟨(numbers World.initial one .shared .shared 1 finite).2.2 value, refl _ (.inl rfl),
    symm _ _ (.inr (.inr rfl)) (.inr (.inl rfl)) (by decide +kernel), ?_⟩
  have evaluates (name : String) (v : Value) (h : IsName name) (other : name ≠ libraryName)
      (bound : onesPlace.scope.item name = .ok v) (w : World) :
      ∃ w', Ends (scriptEvaluator.evaluate name onesPlace.scope) w v w' := by
    have distinct : onesPlace.scope.Distinct := by
      simp [Scope.Distinct, Scope.frames, onesPlace, Scope.root, Bindings.names]
    obtain ⟨w', run⟩ := exists_ends_evaluate h (w := w)
      (get?_namespaceOf_of_item distinct w.library other bound)
    exact ⟨w', ends_ofRun run⟩
  obtain ⟨w, evaluated⟩ := evaluates "v" (.float .shared one) (by decide +kernel) (by decide)
    rfl scriptStart.world
  let means : Node → Datum := fun n =>
    if n.attrs.get? "case" = some "n" then .int 1 else .bool true
  refine switches scriptSetting rfl onesPlace "switch" "v" _ scriptStart _ w rfl evaluated _ _
    (.float .shared one) means (fun _ => True) trivial ⟨fun w _ => rfl, ?_, ?_⟩ (by decide)
    (by decide) rfl
  · exact fun n _ _ => by simp only [means]; split <;> trivial
  · intro n hn compared w _
    simp only [List.mem_cons, List.not_mem_nil, or_false] at hn
    rcases hn with rfl | rfl | rfl
    · obtain ⟨w', run⟩ := evaluates "t" (.bool true) (by decide +kernel) (by decide) rfl w
      have meant : means (comparedCase "t" "truth") = .bool true := if_neg (by decide)
      exact ⟨.bool true, w', run, trivial, trivial, meant ▸ Datum.strictEqual_refl trivial,
        fun same => by cases same⟩
    · obtain ⟨w', run⟩ := evaluates "n" (.int .shared 1) (by decide +kernel) (by decide) rfl w
      have meant : means (comparedCase "n" "number") = .int 1 := if_pos (by decide)
      exact ⟨.int .shared 1, w', run, trivial, trivial, meant ▸ Datum.strictEqual_refl trivial,
        fun same => by cases same⟩
    · cases compared

/-- The first of two defaults is selected, so the order of the defaults matters. -/
theorem first_default_selected :
    let a := Node.element "case" [("default", "")] [.text "a"]
    let b := Node.element "case" [("default", "")] [.text "b"]
    ([a, b].Perm [b, a] ∧ a ≠ b ∧ ∀ n ∈ [a, b], isComparedCase n = false) ∧
      (∃ s₁ s₁', Selects scriptSetting { scope := .root [] } "switch" [("value", "1")] [a, b]
          scriptStart (some a) s₁ ∧
        Selects scriptSetting { scope := .root [] } "switch" [("value", "1")] [b, a]
          scriptStart (some b) s₁') ∧
      (compileSource scriptSetting (.root [])
        "<switch value=\"1\"><case default>a</case><case default>b</case></switch>"
        scriptStart).1.toOption = some "a" ∧
      (compileSource scriptSetting (.root [])
        "<switch value=\"1\"><case default>b</case><case default>a</case></switch>"
        scriptStart).1.toOption = some "b" := by
  refine ⟨⟨by simpa using List.Perm.swap _ _ [], by decide, by decide⟩, ?_, by decide +kernel,
    by decide +kernel⟩
  have evaluates : (scriptEvaluator.evaluate "1" (.root []) scriptStart.world).1.toOption.isSome =
      true := by
    decide +kernel
  obtain ⟨v, hv⟩ := Option.isSome_iff_exists.1 evaluates
  have value := ends_of_toOption hv
  have selected (n m : Node) (hn : isComparedCase n = false) (hm : isComparedCase m = false)
      (default : isDefaultCase n = true) :
      ∃ s₁, Selects scriptSetting { scope := .root [] } "switch" [("value", "1")] [n, m]
        scriptStart (some n) s₁ := by
    have compared (w : World) : Ends (equalCase? scriptEvaluator (.root []) v 0 [n, m]) w
        ([n, m].findIdx? fun _ => false) w := by
      simp only [equalCase?, hn, hm]
      exact ends_pure_iff.2 ⟨rfl, rfl⟩
    have run : Selects scriptSetting { scope := .root [] } "switch" [("value", "1")] [n, m]
      scriptStart _ _ := selects_of_ends rfl value (compared _)
    simp only [List.find?_cons, default] at run
    exact ⟨_, run⟩
  obtain ⟨s₁, first⟩ := selected (.element "case" [("default", "")] [.text "a"])
    (.element "case" [("default", "")] [.text "b"]) (by decide) (by decide) (by decide)
  obtain ⟨s₁', first'⟩ := selected (.element "case" [("default", "")] [.text "b"])
    (.element "case" [("default", "")] [.text "a"]) (by decide) (by decide) (by decide)
  exact ⟨s₁, s₁', first, first'⟩

end HtmlTemplate.Expand
