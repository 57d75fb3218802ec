import HtmlTemplate.Proofs.NameLanguage
import HtmlTemplate.Proofs.Steady

/-!
# Siblings side by side

Two lists of siblings, the second of which does not begin with a further branch of a chain, make a
row that is the row of the first followed by that of the second (`rowOf_append`). With a pure
evaluator they expand together as they do alone: `expandLevels_append`.
-/

namespace HtmlTemplate.Expand

open HtmlTemplate.Markup HtmlTemplate.Component Expansion

variable {V W τ : Type} {calls : W → List τ} {setting : Setting V W}

/-! ### Expanding rows -/

section Alike

variable {α β : Type}

/-- Two expansions end together and alike. -/
def Alike (calls : W → List τ) (x y : Expansion W α) : Prop :=
  Follows answers (calls ·.world) x y ∧ Follows answers (calls ·.world) y x

theorem Stable.alike {x : Expansion W α} (hx : Stable calls x) : Alike calls x x := ⟨hx, hx⟩

theorem Alike.trans {x y z : Expansion W α} (h : Alike calls x y) (h' : Alike calls y z) :
    Alike calls x z :=
  ⟨h.1.trans h'.1, h'.2.trans h.2⟩

theorem alike_bind {x x' : Expansion W α} {f f' : α → Expansion W β} (hx : Alike calls x x')
    (hf : ∀ a, Alike calls (f a) (f' a)) : Alike calls (x >>= f) (x' >>= f') :=
  ⟨follows_bind hx.1 fun a => (hf a).1, follows_bind hx.2 fun a => (hf a).2⟩

theorem alike_within_left {x y : Expansion W α} (h : Alike calls x y)
    (f : List Node → List Node) : Alike calls (within f x) y :=
  ⟨follows_within_left h.1 f, follows_within_right h.2 f⟩

theorem alike_within_right {x y : Expansion W α} (h : Alike calls x y)
    (f : List Node → List Node) : Alike calls x (within f y) :=
  ⟨follows_within_right h.1 f, follows_within_left h.2 f⟩

end Alike

/-- Expands two things one after another. -/
def oneAfterAnother (x y : Expansion W (List Node)) : Expansion W (List Node) := do
  let xs ← x
  let ys ← y
  return xs ++ ys

/-- A row that is put together of two expands as the one after the other. -/
theorem alike_expandItems_append (hev : setting.evaluator.Pure calls)
    {item : RowItem V W → Expansion W (List Node)} {left right : List (RowItem V W)}
    (hleft : ∀ i ∈ left, Stable calls (item i)) (hright : ∀ i ∈ right, Stable calls (item i)) :
    Alike calls (expandItems setting.options item (left ++ right))
      (oneAfterAnother (expandItems setting.options item left)
        (expandItems setting.options item right)) := by
  have htail := (stable_compositional hev).expandItems right hright
  let o := setting.options
  induction left with
  | nil =>
    have unit : oneAfterAnother (expandItems o item []) (expandItems o item right) =
        expandItems o item right := by
      simp only [oneAfterAnother, expandItems, pure_bind, List.nil_append, bind_pure]
    rw [unit]
    exact Stable.alike htail
  | cons i left ih =>
    have head := (stable_compositional hev).expandItems left fun j hj =>
      hleft j (List.mem_cons_of_mem i hj)
    have ih := ih fun j hj => hleft j (List.mem_cons_of_mem i hj)
    have hitem := hleft i List.mem_cons_self
    have regroup : oneAfterAnother (expandItems o item (i :: left)) (expandItems o item right) = do
        let placed ← within (· ++ rowNodes left) do
          let placed ← item i
          noteStep o placed
          return placed
        let more ← within (placed ++ ·) (expandItems o item left)
        let rest ← expandItems o item right
        return placed ++ more ++ rest := by
      simp only [oneAfterAnother, expandItems, bind_assoc, pure_bind]
    rw [regroup, List.cons_append, expandItems]
    have first : Stable calls (do
        let placed ← item i
        noteStep o placed
        return placed) :=
      steady_bind hitem fun placed => steady_bind (stable_noteStep o placed) fun _ =>
        steady_pure placed
    refine alike_bind (alike_within_left (alike_within_right (Stable.alike first) _) _)
      fun placed => ?_
    have apart := alike_bind (alike_within_left ih (placed ++ ·)) fun more =>
      Stable.alike (steady_pure (placed ++ more))
    refine apart.trans ?_
    simp only [oneAfterAnother, bind_assoc, pure_bind]
    refine alike_bind (alike_within_right (Stable.alike head) _) fun more => ?_
    simp only [List.append_assoc]
    exact Stable.alike (steady_bind htail fun rest => steady_pure _)

/-- Siblings that begin apart from those before them expand as these and they do one after the
other. -/
theorem alike_expandLevels_append (hev : setting.evaluator.Pure calls) (levels : Nat)
    (place : Place V) {ms ns : List Node} (apart : BeginsApart ns) :
    Alike calls (expandLevels setting (levels + 1) place (ms ++ ns))
      (oneAfterAnother (expandLevels setting (levels + 1) place ms)
        (expandLevels setting (levels + 1) place ns)) := by
  let row := expandRow setting (expandLevels setting levels)
  have steady := stable_compositional hev
  have deeper := steady.expandLevels levels
  have inside (forest : List Node) :
      ∀ e ∈ expandables row forest, e.Inside (Expansion.Stable calls) :=
    steady.expandables (fun place es hes => steady.expandRow deeper place hes) forest
  have items (forest : List Node) : ∀ i ∈ rowOf (expandables row forest),
      Stable calls (expandItem setting (expandLevels setting levels) place i) := fun i hi =>
    steady.expandItem deeper place fun e he => inside forest e (parts_rowOf _ i hi e he)
  have split : rowOf (expandables row (ms ++ ns)) =
      rowOf (expandables row ms) ++ rowOf (expandables row ns) := by
    rw [expandables_append, rowOf_append _ _ (by rwa [nodes_expandables])]
  have whole := alike_expandItems_append hev (items ms) (items ns)
  rw [← split] at whole
  exact whole

end HtmlTemplate.Expand
