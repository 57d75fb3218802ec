import HtmlTemplate.Proofs.Bindings
import HtmlTemplate.Proofs.Runs
import HtmlTemplate.Script.Interpret

/-!
# Reading props

A script reads the attributes of a use by item, by attribute or by `get`, and a key that begins with
`$` asks for the value of the attribute as an expression. `reads_answer_iff` is about any number of
reads: an attribute that was read is used up, and a read gives what it would have given first,
except when its attribute has been read in the other of the two forms before. Then it gives what it
gives for an attribute that is not there.
-/

namespace HtmlTemplate.Script

open HtmlTemplate.Expand

/-! ### The ways to read -/

/-- A way to read a prop; the mark of the key does not matter. -/
inductive PropRead
  | item (m : Mark) (key : String)
  | attribute_ (name : String)
  | get (m : Mark) (key : String) (default? : Option Value)

namespace PropRead

/-- The key that is read. -/
def key : PropRead → String
  | item _ key => key
  | attribute_ name => name
  | get _ key _ => key

/-- What is read of an attribute that is not there. -/
def fallback : PropRead → Value
  | get _ _ default? => default?.getD .nothing
  | _ => .nothing

/-- An attribute that is no function of props and is not kept from programs. -/
def Public : PropRead → Prop
  | attribute_ name => name.startsWith "_" = false ∧ name ≠ "get"
  | _ => True

/-- Reads the props with a number. -/
def run (perform : Perform) (n : Nat) : PropRead → Run Value
  | item m key => access perform (.object n) (.str m key)
  | attribute_ name => attributeOf perform (.object n) name
  | get m key default? => callMethod perform (.object n) "get" (.str m key :: default?.toList) []

end PropRead

/-- The attribute that a key is about. -/
def propName (key : String) : String := (propKey key).2

theorem run_objectAt_bind {α : Type} (n : Nat) (f : Object → Run α) (w : World) :
    @Eq (Except Raised α × World) ((objectAt n >>= f) w) (f (w.object n) w) := rfl

/-! ### One way is like the other -/

theorem ne_of_public {name : String} (visible : name.startsWith "_" = false) (other : String)
    (hidden : other.startsWith "_" = true) : name ≠ other := by
  rintro rfl
  rw [visible] at hidden
  cases hidden

section Ways

variable {perform : Perform} {n : Nat} {w : World} {p : Props} (h : w.object n = .props p)

include h in
theorem ends_partOf {name : String} (visible : name.startsWith "_" = false) :
    Ends (partOf (.object n) name) w none w := by
  have hclass := ne_of_public visible "__class__" (by decide +kernel)
  have hclosed := ne_of_public visible "_closed" (by decide +kernel)
  have hresolved := ne_of_public visible "_resolved" (by decide +kernel)
  unfold partOf
  simp only
  refine (run_objectAt_bind n _ w).trans ?_
  rw [h]
  simp [hclosed, hresolved]
  rfl

theorem ends_hasOperation {name : String} (visible : name.startsWith "_" = false) :
    Ends (hasOperation (.object n) name) w false w := by
  have all : ∀ m ∈ operationMethods, m.startsWith "_" = true := by decide +kernel
  have hidden : ∀ m ∈ operationMethods, name ≠ m := fun m hm => ne_of_public visible m (all m hm)
  have hlen := hidden "__len__" (by decide)
  have hiter := hidden "__iter__" (by decide)
  have hnext := hidden "__next__" (by decide)
  have hcontains := hidden "__contains__" (by decide)
  have hgetitem := hidden "__getitem__" (by decide)
  have hcall := hidden "__call__" (by decide)
  have unnamed : operationMethods.contains name = false := by
    simpa using fun mem => hidden name mem rfl
  unfold hasOperation
  refine (run_objectAt_bind n _ w).trans ?_
  simp only [unnamed]
  rfl

include h

theorem run_attributeOf {name : String} (visible : name.startsWith "_" = false)
    (other : name ≠ "get") :
    @Eq (Except Raised Value × World) (attributeOf perform (.object n) name w)
      (readProp perform n p name w) := by
  have no_method : methodRule? "Props" name = none := by
    have hclose := ne_of_public visible "_close" (by decide +kernel)
    have hresolve := ne_of_public visible "_resolve" (by decide +kernel)
    have rules : methodRules (methodOwner "Props") =
        [("get", .free), ("_close", .free), ("_resolve", .free)] := rfl
    rw [methodRule?, rules]
    simp [List.lookup_cons, beq_eq_false_iff_ne.2 hclose, beq_eq_false_iff_ne.2 hresolve,
      beq_eq_false_iff_ne.2 other]
  have type : Ends (typeOf (.object n)) w "Props" w := by
    have same : (Value.object n).typeName w = "Props" := by
      rw [Value.typeName, h]
      rfl
    unfold typeOf
    rw [← same]
    rfl
  unfold attributeOf
  refine (run_bind_of_ends (ends_partOf h visible) _).trans ?_
  refine (run_bind_of_ends type _).trans ?_
  simp only [no_method]
  refine (run_bind_of_ends (ends_hasOperation visible) _).trans ?_
  refine (run_objectAt_bind n _ w).trans ?_
  rw [h]
  simp [visible]

theorem run_access (m : Mark) (key : String) :
    @Eq (Except Raised Value × World) (access perform (.object n) (.str m key) w)
      (readProp perform n p key w) := by
  unfold access
  refine (run_objectAt_bind n _ w).trans ?_
  rw [h]
  rfl

theorem run_callMethod_get (m : Mark) (key : String) (default? : Option Value) :
    @Eq (Except Raised Value × World)
      (callMethod perform (.object n) "get" (.str m key :: default?.toList) [] w)
      ((if hasProp p key then readProp perform n p key
        else return default?.getD .nothing : Run Value) w) := by
  have no_operation : operationMethods.contains "get" = false := by decide
  unfold callMethod
  simp only [no_operation, Bool.false_eq_true, if_false]
  refine (run_objectAt_bind n _ w).trans ?_
  rw [h]
  cases default? <;> rfl

/-- However a prop is read, it is read by its key; only `get` asks first whether there is one. -/
theorem PropRead.run_eq {r : PropRead} (visible : r.Public) :
    @Eq (Except Raised Value × World) (r.run perform n w)
      ((if hasProp p r.key then readProp perform n p r.key else
        match r with
        | .get .. => return r.fallback
        | _ => readProp perform n p r.key : Run Value) w) := by
  cases r with
  | item m key =>
    rw [ite_self]
    exact run_access h m key
  | attribute_ name =>
    rw [ite_self]
    exact run_attributeOf h visible.1 visible.2
  | get m key default? => exact run_callMethod_get h m key default?

end Ways

/-! ### One read -/

/-- Expressions in the scope have values that do not depend on the state, and evaluating them leaves
the props with a number alone. -/
structure PureFor (perform : Perform) (n : Nat) (scope : Scope Value)
    (gives : String → Value → Prop) : Prop where
  value : ∀ source w v w',
    Ends (perform Value (.evaluate source (scope.child []))) w v w' → gives source v
  apart : ∀ source w v w',
    Ends (perform Value (.evaluate source (scope.child []))) w v w' → w'.object n = w.object n

/-- What is read with a key of an attribute that is there: its text, or the value of that as an
expression. -/
def ReadOf (gives : String → Value → Prop) (key raw : String) (v : Value) : Prop :=
  if (propKey key).1 then gives raw v else ∃ m, v = .str m raw

section Reading

variable {perform : Perform} {n : Nat} {w w' : World} {p : Props} {key : String} {v : Value}
  {gives : String → Value → Prop}

theorem object_of_ends_setObject {o : Object} {u : Unit} (h : w.object n = .props p)
    (run : Ends (setObject n o) w u w') : w'.object n = o := by
  have bound : n < w.objects.size := by
    refine Nat.lt_of_not_le fun beyond => ?_
    rw [World.object, Array.getElem?_eq_none beyond] at h
    cases h
  rw [← ends_modify_iff.1 run]
  simp [World.object, bound]

theorem ends_newStr {raw : String} (run : Ends (newStr raw) w v w') :
    (∃ m, v = .str m raw) ∧ w'.objects = w.objects := by
  unfold newStr at run
  split at run
  · obtain ⟨rfl, rfl⟩ := ends_pure_iff.1 run
    exact ⟨⟨_, rfl⟩, rfl⟩
  · obtain ⟨m, w₁, hmark, hrest⟩ := ends_bind_iff.1 run
    obtain ⟨rfl, rfl⟩ := ends_pure_iff.1 hrest
    have marked := congrArg (fun end_ : Mark × World => end_.2.objects) (ends_modifyGet_iff.1 hmark)
    exact ⟨⟨m, rfl⟩, marked.symm⟩

/-- What has been read is kept with the props. -/
theorem ends_remember {u : Value} (h : w.object n = .props p)
    (run : Ends (do
      match ← objectAt n with
      | .props p => do
        setProps n { p with resolved := p.resolved.put key u }
        return u
      | _ => return u) w v w') :
    u = v ∧ w'.object n = .props { p with resolved := p.resolved.put key u } := by
  replace run := (run_objectAt_bind n _ w).symm.trans run
  rw [h] at run
  obtain ⟨_, w₁, hset, hdone⟩ := ends_bind_iff.1 run
  obtain ⟨rfl, rfl⟩ := ends_pure_iff.1 hdone
  exact ⟨rfl, object_of_ends_setObject h hset⟩

/-- A read by key finds the value that was read before, or no attribute, or it uses one up. -/
theorem ends_readProp (h : w.object n = .props p) (opened : p.closed = false)
    (pure : PureFor perform n p.scope gives) (run : Ends (readProp perform n p key) w v w') :
    (p.resolved.get? key = some v ∧ w' = w) ∨
    (p.resolved.get? key = none ∧ p.attrs.get? (propName key) = none ∧ v = .nothing ∧ w' = w) ∨
    ∃ raw, p.resolved.get? key = none ∧ p.attrs.get? (propName key) = some raw ∧
      ReadOf gives key raw v ∧ w'.object n = .props { p with
        attrs := p.attrs.erase (propName key)
        resolved := p.resolved.put key v } := by
  obtain ⟨attrs, resolved, closed, scope⟩ := p
  obtain rfl : closed = false := opened
  unfold readProp at run
  unfold propName
  simp only [Bool.false_eq_true, if_false] at run
  cases known : resolved.get? key with
  | some u =>
    rw [known] at run
    obtain ⟨rfl, rfl⟩ := ends_pure_iff.1 run
    exact .inl ⟨rfl, rfl⟩
  | none =>
    rw [known] at run
    cases found : attrs.get? (propKey key).2 with
    | none =>
      simp only [found] at run
      obtain ⟨rfl, rfl⟩ := ends_pure_iff.1 run
      exact .inr (.inl ⟨rfl, rfl, rfl, rfl⟩)
    | some raw =>
      simp only [found] at run
      obtain ⟨_, w₁, hset, run⟩ := ends_bind_iff.1 run
      have used := object_of_ends_setObject h hset
      refine .inr (.inr ⟨raw, rfl, rfl, ?_⟩)
      unfold ReadOf
      split at run
      · rename_i evaluates
        obtain ⟨u, w₂, hvalue, run⟩ := ends_bind_iff.1 run
        obtain ⟨rfl, kept⟩ := ends_remember ((pure.apart _ _ _ _ hvalue).trans used) run
        exact ⟨by rw [if_pos evaluates]; exact pure.value _ _ _ _ hvalue, kept⟩
      · rename_i plain
        obtain ⟨u, w₂, hvalue, run⟩ := ends_bind_iff.1 run
        obtain ⟨text, same⟩ := ends_newStr hvalue
        have still : w₂.object n = w₁.object n := by rw [World.object, same, World.object]
        obtain ⟨rfl, kept⟩ := ends_remember (still.trans used) run
        exact ⟨by rwa [if_neg plain], kept⟩

/-- However it is done, a read finds what was read before, or no attribute, or it uses one up. -/
theorem PropRead.ends_run {r : PropRead} (visible : r.Public) (h : w.object n = .props p)
    (opened : p.closed = false) (pure : PureFor perform n p.scope gives)
    (run : Ends (r.run perform n) w v w') :
    (p.resolved.get? r.key = some v ∧ w' = w) ∨
    (p.resolved.get? r.key = none ∧ p.attrs.get? (propName r.key) = none ∧ v = r.fallback ∧
      w' = w) ∨
    ∃ raw, p.resolved.get? r.key = none ∧ p.attrs.get? (propName r.key) = some raw ∧
      ReadOf gives r.key raw v ∧ w'.object n = .props { p with
        attrs := p.attrs.erase (propName r.key)
        resolved := p.resolved.put r.key v } := by
  replace run := (r.run_eq h visible).symm.trans run
  have present : hasProp p r.key =
      ((p.resolved.get? r.key).isSome || (p.attrs.get? (propName r.key)).isSome) := rfl
  split at run
  · rename_i has
    obtain ⟨known, rfl⟩ | ⟨unknown, missing, -⟩ | used := ends_readProp h opened pure run
    · exact .inl ⟨known, rfl⟩
    · rw [present, unknown, missing] at has
      cases has
    · exact .inr (.inr used)
  · rename_i hasnt
    rw [present, Bool.or_eq_true, not_or, Option.not_isSome_iff_eq_none,
      Option.not_isSome_iff_eq_none] at hasnt
    obtain ⟨unknown, missing⟩ := hasnt
    refine .inr (.inl ⟨unknown, missing, ?_⟩)
    cases r with
    | get m key default? =>
      obtain ⟨rfl, rfl⟩ := ends_pure_iff.1 run
      exact ⟨rfl, rfl⟩
    | _ =>
      obtain ⟨known, -⟩ | ⟨-, -, nothing, same⟩ | ⟨raw, -, found, -⟩ :=
        ends_readProp h opened pure run
      · exact absurd (unknown.symm.trans known) (by simp)
      · exact ⟨nothing, same⟩
      · exact absurd (missing.symm.trans found) (by simp)

end Reading

/-! ### Many reads -/

/-- The key with which an attribute was read first. -/
def firstKey? (keys : List String) (name : String) : Option String :=
  keys.find? fun key => propName key == name

theorem firstKey?_concat (keys : List String) (key name : String) :
    firstKey? (keys ++ [key]) name =
      (firstKey? keys name).or (if propName key = name then some key else none) := by
  unfold firstKey?
  rw [List.find?_append, List.find?_singleton]
  congr 1
  by_cases h : propName key = name <;> simp [h]

theorem propName_of_firstKey? {keys : List String} {name key : String}
    (h : firstKey? keys name = some key) : propName key = name := by
  simpa using List.find?_some h

theorem firstKey?_eq_none_iff {keys : List String} {name : String} :
    firstKey? keys name = none ↔ ∀ key ∈ keys, propName key ≠ name := by
  simp [firstKey?]

/-- A second read of an attribute does not change with which key it was read first. -/
theorem firstKey?_concat_of_seen {keys : List String} {key first : String}
    (seen : firstKey? keys (propName key) = some first) (name : String) :
    firstKey? (keys ++ [key]) name = firstKey? keys name := by
  rw [firstKey?_concat]
  by_cases h : propName key = name
  · rw [← h, seen]
    rfl
  · rw [if_neg h, Option.or_none]

/-- The props of a use with these attributes, after they were read with these keys: what is left are
the attributes that were not read, and known are the values of the first reads. -/
structure ReadBy (gives : String → Value → Prop) (attrs : Bindings String) (scope : Scope Value)
    (keys : List String) (p : Props) : Prop where
  opened : p.closed = false
  scope_eq : p.scope = scope
  left : p.attrs = attrs.filter fun a => (firstKey? keys a.1).isNone
  known : ∀ key v, p.resolved.get? key = some v → firstKey? keys (propName key) = some key ∧
    ∃ raw, attrs.get? (propName key) = some raw ∧ ReadOf gives key raw v
  unknown : ∀ key, p.resolved.get? key = none → firstKey? keys (propName key) = some key →
    attrs.get? (propName key) = none

theorem readBy_nil (gives : String → Value → Prop) (attrs : Bindings String)
    (scope : Scope Value) : ReadBy gives attrs scope [] { attrs := attrs, scope := scope } where
  opened := rfl
  scope_eq := rfl
  left := (List.filter_eq_self.2 fun _ _ => rfl).symm
  known := by simp [Bindings.get?]
  unknown := by simp [firstKey?]

/-- The attribute of a key is there, but it was read in the other form first. -/
def Shadowed (attrs : Bindings String) (keys : List String) (key : String) : Prop :=
  attrs.get? (propName key) ≠ none ∧
    ∃ first, firstKey? keys (propName key) = some first ∧ first ≠ key

/-- A read gives what it gives as the first one. -/
def Answers (gives : String → Value → Prop) (attrs : Bindings String) (r : PropRead) (v : Value) :
    Prop :=
  match attrs.get? (propName r.key) with
  | none => v = r.fallback
  | some raw => ReadOf gives r.key raw v

section Step

variable {gives : String → Value → Prop} {attrs : Bindings String} {scope : Scope Value}
  {keys : List String} {p : Props} {key : String} {v : Value}

theorem ReadBy.get?_left (h : ReadBy gives attrs scope keys p) (name : String) :
    p.attrs.get? name = if (firstKey? keys name).isNone then attrs.get? name else none := by
  rw [h.left]
  exact Bindings.get?_filter attrs (fun name => (firstKey? keys name).isNone) name

theorem ReadBy.congr {keys' : List String} (h : ReadBy gives attrs scope keys p)
    (same : ∀ name, firstKey? keys' name = firstKey? keys name) :
    ReadBy gives attrs scope keys' p := by
  have same' : firstKey? keys' = firstKey? keys := funext same
  exact ⟨h.opened, h.scope_eq, same' ▸ h.left, same' ▸ h.known, same' ▸ h.unknown⟩

theorem ReadBy.concat_missing (h : ReadBy gives attrs scope keys p)
    (missing : attrs.get? (propName key) = none) : ReadBy gives attrs scope (keys ++ [key]) p where
  opened := h.opened
  scope_eq := h.scope_eq
  left := by
    rw [h.left]
    refine List.filter_congr fun a ha => ?_
    have other : propName key ≠ a.1 := by
      intro same
      have bound := (Bindings.isSome_get?_iff attrs a.1).2 (List.mem_map_of_mem ha)
      rw [← same, missing] at bound
      cases bound
    rw [firstKey?_concat, if_neg other, Option.or_none]
  known key' v found := by
    obtain ⟨first, value⟩ := h.known key' v found
    exact ⟨by rw [firstKey?_concat, first, Option.some_or], value⟩
  unknown key' unread first := by
    rw [firstKey?_concat] at first
    cases old : firstKey? keys (propName key') with
    | some k =>
      rw [old, Option.some_or] at first
      exact h.unknown key' unread (old.trans first)
    | none =>
      rw [old, Option.none_or] at first
      split at first
      · rename_i same
        exact same ▸ missing
      · cases first

theorem ReadBy.concat_used {raw : String} (h : ReadBy gives attrs scope keys p)
    (found : p.attrs.get? (propName key) = some raw)
    (value : ReadOf gives key raw v) :
    ReadBy gives attrs scope (keys ++ [key]) { p with
      attrs := p.attrs.erase (propName key)
      resolved := p.resolved.put key v } := by
  have bound := found
  rw [h.get?_left] at bound
  split at bound
  case isFalse => cases bound
  rename_i fresh
  have first : firstKey? keys (propName key) = none := Option.isNone_iff_eq_none.1 fresh
  refine ⟨h.opened, h.scope_eq, ?_, fun key' u known => ?_, fun key' unknown first' => ?_⟩
  · change p.attrs.erase (propName key) = _
    rw [h.left, Bindings.erase, List.filter_filter]
    refine List.filter_congr fun a _ => ?_
    rw [firstKey?_concat]
    by_cases same : propName key = a.1
    · simp [same]
    · simp [same, Ne.symm same]
  · rw [Bindings.get?_put] at known
    rw [firstKey?_concat]
    split at known
    · rename_i same
      obtain rfl := Option.some.inj known
      rw [same, first, if_pos rfl]
      exact ⟨rfl, raw, bound, value⟩
    · obtain ⟨old, rest⟩ := h.known key' u known
      exact ⟨by rw [old, Option.some_or], rest⟩
  · rw [Bindings.get?_put] at unknown
    split at unknown
    · cases unknown
    · rename_i other
      rw [firstKey?_concat] at first'
      cases old : firstKey? keys (propName key') with
      | some k =>
        rw [old, Option.some_or] at first'
        exact h.unknown key' unknown (old.trans first')
      | none =>
        rw [old, Option.none_or] at first'
        split at first'
        · exact absurd (Option.some.inj first').symm other
        · cases first'

/-- One more read. -/
theorem ReadBy.step {perform : Perform} {n : Nat} {w w' : World} {r : PropRead}
    (h : ReadBy gives attrs scope keys p) (visible : r.Public) (hw : w.object n = .props p)
    (pure : PureFor perform n scope gives) (run : Ends (r.run perform n) w v w') :
    (∃ p', w'.object n = .props p' ∧ ReadBy gives attrs scope (keys ++ [r.key]) p') ∧
      (Shadowed attrs keys r.key → v = r.fallback) ∧
      (¬ Shadowed attrs keys r.key → Answers gives attrs r v) := by
  obtain ⟨known, rfl⟩ | ⟨unread, gone, rfl, rfl⟩ | ⟨raw, unread, found, value, used⟩ :=
    r.ends_run visible hw h.opened (h.scope_eq ▸ pure) run
  · obtain ⟨first, raw, bound, value⟩ := h.known _ _ known
    refine ⟨⟨p, hw, h.congr (firstKey?_concat_of_seen first)⟩, fun shadowed => ?_, fun _ => ?_⟩
    · obtain ⟨-, first', hfirst, other⟩ := shadowed
      exact absurd (Option.some.inj (first.symm.trans hfirst)).symm other
    · rw [Answers, bound]
      exact value
  · rw [h.get?_left] at gone
    cases bound : attrs.get? (propName r.key) with
    | none =>
      refine ⟨⟨p, hw, h.concat_missing bound⟩, fun _ => rfl, fun _ => ?_⟩
      rw [Answers, bound]
    | some raw =>
      rw [bound] at gone
      cases first : firstKey? keys (propName r.key) with
      | none =>
        rw [first] at gone
        cases gone
      | some key =>
        have other : key ≠ r.key := by
          rintro rfl
          exact absurd (bound.symm.trans (h.unknown _ unread first)) (by simp)
        have shadowed : Shadowed attrs keys r.key := ⟨by simp [bound], key, first, other⟩
        exact ⟨⟨p, hw, h.congr (firstKey?_concat_of_seen first)⟩, fun _ => rfl,
          fun open_ => absurd shadowed open_⟩
  · have bound := found
    rw [h.get?_left] at bound
    split at bound
    case isFalse => cases bound
    rename_i fresh
    refine ⟨⟨_, used, h.concat_used found value⟩, fun shadowed => ?_, fun _ => ?_⟩
    · obtain ⟨-, first, hfirst, -⟩ := shadowed
      rw [hfirst] at fresh
      cases fresh
    · rw [Answers, bound]
      exact value

end Step

/-- Props are read in these ways, with these results, one after the other; what else happens
meanwhile leaves them alone. -/
inductive Reads (perform : Perform) (n : Nat) : World → List (PropRead × Value) → World → Prop
  | done (w : World) : Reads perform n w [] w
  | read {w w₁ w' : World} {r : PropRead} {v : Value} {rest : List (PropRead × Value)}
      (run : Ends (r.run perform n) w v w₁) (more : Reads perform n w₁ rest w') :
      Reads perform n w ((r, v) :: rest) w'
  | meanwhile {w w₁ w' : World} {reads : List (PropRead × Value)}
      (kept : w₁.object n = w.object n) (more : Reads perform n w₁ reads w') :
      Reads perform n w reads w'

/-- The keys of some reads. -/
def readKeys (reads : List (PropRead × Value)) : List String := reads.map (·.1.key)

section Many

variable {perform : Perform} {n : Nat} {gives : String → Value → Prop} {attrs : Bindings String}
  {scope : Scope Value} {w w' : World} {reads : List (PropRead × Value)}

theorem readBy_of_reads {keys : List String} {p : Props} (pure : PureFor perform n scope gives)
    (visible : ∀ e ∈ reads, e.1.Public) (run : Reads perform n w reads w')
    (hw : w.object n = .props p) (h : ReadBy gives attrs scope keys p) :
    (∃ p', w'.object n = .props p' ∧ ReadBy gives attrs scope (keys ++ readKeys reads) p') ∧
    ∀ before r v after, reads = before ++ (r, v) :: after →
      (Shadowed attrs (keys ++ readKeys before) r.key → v = r.fallback) ∧
      (¬ Shadowed attrs (keys ++ readKeys before) r.key → Answers gives attrs r v) := by
  induction run generalizing keys p with
  | done w =>
    exact ⟨⟨p, hw, by simpa [readKeys] using h⟩, fun before r v after whole => by simp at whole⟩
  | @read w w₁ w' r v rest step _ ih =>
    obtain ⟨⟨p₁, hp₁, h₁⟩, answer⟩ := h.step (visible _ List.mem_cons_self) hw pure step
    obtain ⟨last, answers⟩ := ih (fun e he => visible e (List.mem_cons_of_mem _ he)) hp₁ h₁
    refine ⟨by simpa [readKeys] using last, fun before r' v' after whole => ?_⟩
    cases before with
    | nil =>
      obtain ⟨same, -⟩ := List.cons.inj whole
      obtain ⟨rfl, rfl⟩ := Prod.mk.inj same
      simpa [readKeys] using answer
    | cons e before =>
      obtain ⟨rfl, rest_eq⟩ := List.cons.inj whole
      simpa [readKeys] using answers before r' v' after rest_eq
  | meanwhile kept _ ih => exact ih visible (kept.trans hw) h

/-- No read is shadowed when no attribute is read in both forms. -/
theorem not_shadowed_of_one_form (one_form : ∀ key ∈ readKeys reads, ∀ key' ∈ readKeys reads,
      propName key = propName key' → key = key')
    {before after : List (PropRead × Value)} {r : PropRead} {v : Value}
    (whole : reads = before ++ (r, v) :: after) : ¬ Shadowed attrs (readKeys before) r.key := by
  rintro ⟨-, first, hfirst, other⟩
  have earlier : first ∈ readKeys before := List.mem_of_find?_eq_some hfirst
  refine other (one_form first ?_ r.key ?_ (propName_of_firstKey? hfirst))
  · rw [whole, readKeys, List.map_append]
    exact List.mem_append_left _ earlier
  · simp [whole, readKeys]

/-- After reads of the props of a use, in any ways and any order, those attributes are left that
were not read. A read of an attribute that was first read in the other form gives what is given for
no attribute, any other read what it gives first; so all reads give that exactly when those of the
former kind would give nothing else as first ones. -/
theorem reads_answer_iff (pure : PureFor perform n scope gives)
    (fresh : w.object n = .props { attrs := attrs, scope := scope })
    (visible : ∀ e ∈ reads, e.1.Public) (run : Reads perform n w reads w') :
    (∃ p, w'.object n = .props p ∧ p.closed = false ∧
      p.attrs = attrs.filter fun a => reads.all fun e => propName e.1.key != a.1) ∧
    (∀ before r v after, reads = before ++ (r, v) :: after →
      (Shadowed attrs (readKeys before) r.key → v = r.fallback) ∧
      (¬ Shadowed attrs (readKeys before) r.key → Answers gives attrs r v)) ∧
    ((∀ e ∈ reads, Answers gives attrs e.1 e.2) ↔
      ∀ before r v after, reads = before ++ (r, v) :: after →
        Shadowed attrs (readKeys before) r.key → Answers gives attrs r r.fallback) := by
  obtain ⟨⟨p, hp, h⟩, answers⟩ :=
    readBy_of_reads pure visible run fresh (readBy_nil gives attrs scope)
  simp only [List.nil_append] at h answers
  refine ⟨⟨p, hp, h.opened, ?_⟩, answers, fun all before r v after whole shadowed => ?_,
    fun only e he => ?_⟩
  · rw [h.left]
    refine List.filter_congr fun a _ => ?_
    rw [Bool.eq_iff_iff, Option.isNone_iff_eq_none, firstKey?_eq_none_iff, readKeys,
      List.forall_mem_map, List.all_eq_true]
    simp only [bne_iff_ne]
  · have same := (answers before r v after whole).1 shadowed
    exact same ▸ all (r, v) (by simp [whole])
  · obtain ⟨before, after, whole⟩ := List.append_of_mem he
    by_cases shadowed : Shadowed attrs (readKeys before) e.1.key
    · rw [(answers before e.1 e.2 after whole).1 shadowed]
      exact only before e.1 e.2 after whole shadowed
    · exact (answers before e.1 e.2 after whole).2 shadowed

end Many

/-! ### Props of names -/

/-- Evaluates names in their scopes, and does nothing else. -/
def lookUpNames : Perform := fun _ job => match job with
  | .evaluate source scope =>
    match scope.flatten.get? source with
    | some v => return v
    | none => throw (.unbound (.name source))
  | _ => throw .exhausted

/-- A use in a scope that binds one name, with two attributes. -/
def cardProps : Props where
  attrs := [("count", "n"), ("title", "Hi")]
  scope := .root [("n", .int .shared 2)]

/-- A state in which the props of that use are the only object. -/
def cardWorld : World := { objects := #[.props cardProps] }

/-- What the name is bound to. -/
def Bound (scope : Scope Value) (source : String) (v : Value) : Prop :=
  (scope.child []).flatten.get? source = some v

theorem pureFor_lookUpNames (n : Nat) (scope : Scope Value) :
    PureFor lookUpNames n scope (Bound scope) := by
  have found {source : String} {w w' : World} {v : Value}
      (run : Ends (lookUpNames Value (.evaluate source (scope.child []))) w v w') :
      Bound scope source v ∧ w' = w := by
    unfold lookUpNames at run
    simp only at run
    cases h : (scope.child []).flatten.get? source with
    | none =>
      rw [h] at run
      exact absurd run not_ends_throw
    | some u =>
      rw [h] at run
      obtain ⟨rfl, rfl⟩ := ends_pure_iff.1 run
      exact ⟨h, rfl⟩
  exact ⟨fun _ _ _ _ run => (found run).1, fun _ _ _ _ run => by rw [(found run).2]⟩

/-- Reads of the value of one attribute, of no attribute and of the text of another. -/
def cardReads : List (PropRead × Value) :=
  [(.item .shared "$count", .int .shared 2), (.get .shared "none" (some (.bool true)), .bool true),
    (.get .shared "$count" none, .int .shared 2), (.attribute_ "title", .str (.own 0) "Hi")]

theorem reads_answer_cardReads :
    PureFor lookUpNames 0 cardProps.scope (Bound cardProps.scope) ∧
    cardWorld.object 0 = .props { attrs := cardProps.attrs, scope := cardProps.scope } ∧
    (∀ e ∈ cardReads, e.1.Public) ∧
    ∃ w', Reads lookUpNames 0 cardWorld cardReads w' ∧
      ∀ e ∈ cardReads, Answers (Bound cardProps.scope) cardProps.attrs e.1 e.2 := by
  have visible : ∀ e ∈ cardReads, e.1.Public := by
    simp [cardReads, PropRead.Public]
  have pure := pureFor_lookUpNames 0 cardProps.scope
  have run : Reads lookUpNames 0 cardWorld cardReads _ :=
    .read ((run_access rfl .shared "$count").trans rfl) <|
      .read ((run_callMethod_get rfl .shared "none" (some (.bool true))).trans rfl) <|
      .read ((run_callMethod_get rfl .shared "$count" none).trans rfl) <|
      .read ((run_attributeOf rfl (by decide +kernel) (by decide)).trans rfl) <| .done _
  refine ⟨pure, rfl, visible, _, run,
    (reads_answer_iff pure rfl visible run).2.2.2 fun before r v after whole shadowed =>
      absurd shadowed (not_shadowed_of_one_form (by decide) whole)⟩

/-- The attribute is used up by the read of its text: the value that a read asks for then is
missing. -/
theorem second_form_is_missing :
    let reads : List (PropRead × Value) :=
      [(.item .shared "count", .str .piece "n"), (.item .shared "$count", .nothing)]
    PureFor lookUpNames 0 cardProps.scope (Bound cardProps.scope) ∧
    cardWorld.object 0 = .props { attrs := cardProps.attrs, scope := cardProps.scope } ∧
    (∀ e ∈ reads, e.1.Public) ∧ (∃ w', Reads lookUpNames 0 cardWorld reads w') ∧
    ¬ ∀ e ∈ reads, Answers (Bound cardProps.scope) cardProps.attrs e.1 e.2 := by
  refine ⟨pureFor_lookUpNames 0 cardProps.scope, rfl, by simp [PropRead.Public],
    ⟨_, .read ((run_access rfl .shared "count").trans rfl) <|
      .read ((run_access rfl .shared "$count").trans rfl) <| .done _⟩, fun all => ?_⟩
  have last := all (.item .shared "$count", .nothing) (by simp)
  change Bound cardProps.scope "n" .nothing at last
  cases last

end HtmlTemplate.Script
