/-!
# Bindings

`Bindings α` maps names to values and remembers the order in which the names were first bound:
attributes of an element, one frame of a scope and the cache of component sources are all bindings.
A name stands in a list of bindings at most once when the list is built by `put`.
-/

namespace HtmlTemplate

universe u v

/-- Names with their values, in the order in which the names were first bound. -/
abbrev Bindings (α : Type u) := List (String × α)

namespace Bindings

variable {α : Type u} {β : Type v}

/-- The value bound to `name`. -/
def get? (b : Bindings α) (name : String) : Option α :=
  List.lookup name b

/-- Whether `name` is bound. -/
def has (b : Bindings α) (name : String) : Bool :=
  (get? b name).isSome

/-- Binds `name`: in its old place when it is bound already, at the end otherwise. -/
def put (b : Bindings α) (name : String) (value : α) : Bindings α :=
  match b with
  | [] => [(name, value)]
  | (n, v) :: rest => if n = name then (n, value) :: rest else (n, v) :: put rest name value

/-- Binds `name` unless it is bound already. -/
def putNew (b : Bindings α) (name : String) (value : α) : Bindings α :=
  if has b name then b else b ++ [(name, value)]

/-- Drops the binding of `name`. -/
def erase (b : Bindings α) (name : String) : Bindings α :=
  b.filter fun entry => entry.1 != name

/-- Lays `upper` over `b`, binding after binding. -/
def overlay (b upper : Bindings α) : Bindings α :=
  upper.foldl (fun acc entry => put acc entry.1 entry.2) b

/-- The bound names in order. -/
def names (b : Bindings α) : List String :=
  b.map (·.1)

/-! ### Names that are bound once -/

theorem mem_names_put {b : Bindings α} {name n : String} {value : α} :
    n ∈ (b.put name value).names ↔ n = name ∨ n ∈ b.names := by
  induction b with
  | nil => simp [put, names]
  | cons entry rest ih =>
    obtain ⟨m, v⟩ := entry
    by_cases h : m = name
    · simp [put, h, names]
    · simp only [names] at ih
      simp only [put, if_neg h, names, List.map_cons, List.mem_cons, ih, or_left_comm]

/-- Bindings that are built by `put` have every name once. -/
theorem nodup_names_put {b : Bindings α} (distinct : b.names.Nodup) (name : String) (value : α) :
    (b.put name value).names.Nodup := by
  induction b with
  | nil => simp [put, names]
  | cons entry rest ih =>
    obtain ⟨m, v⟩ := entry
    obtain ⟨hm, hrest⟩ := List.nodup_cons.1 distinct
    by_cases h : m = name
    · simp only [put, if_pos h]
      exact distinct
    · simp only [put, if_neg h]
      refine List.nodup_cons.2 ⟨fun mem => ?_, ih hrest⟩
      rcases mem_names_put.1 mem with same | mem
      · exact h same
      · exact hm mem

theorem nodup_names_erase {b : Bindings α} (distinct : b.names.Nodup) (name : String) :
    (b.erase name).names.Nodup :=
  distinct.sublist (List.filter_sublist.map _)

theorem nodup_names_overlay {b : Bindings α} (distinct : b.names.Nodup) (upper : Bindings α) :
    (b.overlay upper).names.Nodup := by
  induction upper generalizing b with
  | nil => exact distinct
  | cons entry upper ih => exact ih (nodup_names_put distinct entry.1 entry.2)

end Bindings

end HtmlTemplate
