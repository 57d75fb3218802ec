import HtmlTemplate.Expand.Tree

/-!
# Rows of siblings

What `takeLinks` and `rowOf` make of siblings: a row has the nodes of the siblings in order, with
every condition at the head of a chain. Two lists of siblings, the second of which does not begin
with a further branch of a chain, make a row that is the row of the first followed by that of the
second (`rowOf_append`).
-/

namespace HtmlTemplate.Expand

open HtmlTemplate.Markup

variable {V W : Type}

/-! ### Parts -/

namespace RowItem

/-- The nodes of an item with the expansions of what is inside them. -/
def parts : RowItem V W → List (Expandable V W)
  | single e => [e]
  | chain first links => first :: links.map Link.branch

end RowItem

/-- A row has all its conditions at the heads of chains, and nothing but gaps between branches. -/
def RowItem.WellFormed : RowItem V W → Prop
  | .single e => e.node.hasTag "if" = false
  | .chain first links =>
    first.node.hasTag "if" = true ∧ ∀ l ∈ links, ∀ n ∈ l.gap, isGap n = true

/-- Links that are made of some siblings, with a gap before the first of these. -/
structure LinksOf (gap : List Node) (taken : List (Expandable V W)) (links : List (Link V W)) :
    Prop where
  nodes : linkNodes links = gap ++ taken.map Expandable.node
  branches : ∀ e ∈ links.map Link.branch, e ∈ taken
  tags : ∀ e ∈ links.map Link.branch, isBranch e.node = true
  gaps : ∀ l ∈ links, ∀ n ∈ l.gap, isGap n = true

/-- Links are taken off the front of a row, which consists of single siblings there. -/
theorem takeLinks_eq_some {gap : List Node} {row rest : List (RowItem V W)}
    {links : List (Link V W)} (h : takeLinks gap row = some (links, rest))
    (hgap : ∀ n ∈ gap, isGap n = true) :
    ∃ taken, row = taken.map .single ++ rest ∧ LinksOf gap taken links := by
  induction row generalizing gap links rest with
  | nil => simp [takeLinks] at h
  | cons i row ih =>
    cases i with
    | chain first links => simp [takeLinks] at h
    | single e =>
      -- The last link of a chain, with nothing taken after it.
      have last (tag : isBranch e.node = true) : LinksOf gap [e] [⟨gap, e⟩] :=
        ⟨by simp [linkNodes], by simp, by simpa using tag,
          fun l hl => List.mem_singleton.1 hl ▸ hgap⟩
      rw [takeLinks] at h
      split at h
      · rename_i egap
        have wider : ∀ n ∈ gap ++ [e.node], isGap n = true := by
          intro n hn
          rcases List.mem_append.1 hn with hn | hn
          · exact hgap n hn
          · exact List.mem_singleton.1 hn ▸ egap
        obtain ⟨taken, rfl, hlinks⟩ := ih h wider
        exact ⟨e :: taken, rfl, by simpa using hlinks.nodes,
          fun b hb => List.mem_cons_of_mem e (hlinks.branches b hb), hlinks.tags, hlinks.gaps⟩
      · split at h
        · rename_i tag
          dsimp only at h
          split at h
          · obtain ⟨rfl, rfl⟩ := Prod.mk.inj (Option.some.inj h)
            exact ⟨[e], rfl, last tag⟩
          · split at h
            · rename_i more rest' hmore
              obtain ⟨rfl, rfl⟩ := Prod.mk.inj (Option.some.inj h)
              obtain ⟨taken, rfl, hlinks⟩ := ih hmore fun n hn => absurd hn List.not_mem_nil
              refine ⟨e :: taken, rfl, ?_, fun b hb => ?_, fun b hb => ?_, fun l hl => ?_⟩
              · rw [linkNodes, List.flatMap_cons, ← linkNodes, hlinks.nodes]
                simp
              · rcases List.mem_cons.1 hb with rfl | hb
                · exact List.mem_cons_self
                · exact List.mem_cons_of_mem e (hlinks.branches b hb)
              · rcases List.mem_cons.1 hb with rfl | hb
                · exact tag
                · exact hlinks.tags b hb
              · rcases List.mem_cons.1 hl with rfl | hl
                · exact hgap
                · exact hlinks.gaps l hl
            · obtain ⟨rfl, rfl⟩ := Prod.mk.inj (Option.some.inj h)
              exact ⟨[e], rfl, last tag⟩
        · cases h

/-- A sibling stands alone in its row, or is a condition and takes links off the row after it. -/
theorem rowOf_cons_cases (e : Expandable V W) (es : List (Expandable V W)) :
    (e.node.hasTag "if" = false ∧ rowOf (e :: es) = .single e :: rowOf es) ∨
      e.node.hasTag "if" = true ∧ ∃ taken links rest, LinksOf [] taken links ∧
        rowOf es = taken.map .single ++ rest ∧ rowOf (e :: es) = .chain e links :: rest := by
  rw [rowOf]
  split
  · rename_i isIf
    refine .inr ⟨isIf, ?_⟩
    split
    · rename_i links rest hlinks
      obtain ⟨taken, hrow, made⟩ :=
        takeLinks_eq_some hlinks fun n hn => absurd hn List.not_mem_nil
      exact ⟨taken, links, rest, made, hrow, rfl⟩
    · exact ⟨[], [], rowOf es, ⟨rfl, by simp, by simp, by simp⟩, rfl, rfl⟩
  · rename_i notIf
    exact .inl ⟨Bool.eq_false_iff.2 notIf, rfl⟩

/-- The items of a row are made of the siblings. -/
theorem parts_rowOf (es : List (Expandable V W)) :
    ∀ i ∈ rowOf es, ∀ e ∈ i.parts, e ∈ es := by
  induction es with
  | nil => exact fun i hi => absurd hi List.not_mem_nil
  | cons e es ih =>
    intro i hi e' he
    obtain ⟨-, hrow⟩ | ⟨-, taken, links, rest, made, hes, hrow⟩ := rowOf_cons_cases e es
    · rw [hrow] at hi
      rcases List.mem_cons.1 hi with rfl | hi
      · exact List.mem_singleton.1 he ▸ List.mem_cons_self
      · exact List.mem_cons_of_mem e (ih i hi e' he)
    · rw [hes] at ih
      rw [hrow] at hi
      rcases List.mem_cons.1 hi with rfl | hi
      · rcases List.mem_cons.1 he with rfl | he
        · exact List.mem_cons_self
        · have single : .single e' ∈ taken.map .single ++ rest :=
            List.mem_append_left rest (List.mem_map_of_mem (made.branches e' he))
          exact List.mem_cons_of_mem e (ih (.single e') single e' List.mem_cons_self)
      · exact List.mem_cons_of_mem e (ih i (List.mem_append_right _ hi) e' he)

/-- What is linked to a condition are further branches. -/
theorem isBranch_rowOf (es : List (Expandable V W)) :
    ∀ first links, .chain first links ∈ rowOf es →
      ∀ e ∈ links.map Link.branch, isBranch e.node = true := by
  induction es with
  | nil => exact fun first links hi => absurd hi List.not_mem_nil
  | cons e es ih =>
    intro first links hi
    obtain ⟨-, hrow⟩ | ⟨-, taken, links', rest, made, hes, hrow⟩ := rowOf_cons_cases e es
    · rw [hrow] at hi
      rcases List.mem_cons.1 hi with same | hi
      · cases same
      · exact ih first links hi
    · rw [hes] at ih
      rw [hrow] at hi
      rcases List.mem_cons.1 hi with same | hi
      · cases same
        exact made.tags
      · exact ih first links (List.mem_append_right _ hi)

theorem rowNodes_append (left right : List (RowItem V W)) :
    rowNodes (left ++ right) = rowNodes left ++ rowNodes right := List.flatMap_append

theorem rowNodes_singles (es : List (Expandable V W)) :
    rowNodes (es.map .single) = es.map Expandable.node := by
  induction es with
  | nil => rfl
  | cons e es ih =>
    rw [List.map_cons, List.map_cons, ← ih]
    rfl

/-- A row has the nodes of the siblings, in order. -/
theorem rowNodes_rowOf (es : List (Expandable V W)) :
    rowNodes (rowOf es) = es.map Expandable.node := by
  induction es with
  | nil => rfl
  | cons e es ih =>
    obtain ⟨-, hrow⟩ | ⟨-, taken, links, rest, made, hes, hrow⟩ := rowOf_cons_cases e es
    · rw [hrow, List.map_cons, ← ih]
      rfl
    · rw [hes, rowNodes_append, rowNodes_singles] at ih
      rw [hrow, List.map_cons, ← ih]
      exact congrArg (fun ns => e.node :: (ns ++ rowNodes rest)) made.nodes

theorem wellFormed_rowOf (es : List (Expandable V W)) : ∀ i ∈ rowOf es, i.WellFormed := by
  induction es with
  | nil => exact fun i hi => absurd hi List.not_mem_nil
  | cons e es ih =>
    intro i hi
    obtain ⟨notIf, hrow⟩ | ⟨isIf, taken, links, rest, made, hes, hrow⟩ := rowOf_cons_cases e es
    · rw [hrow] at hi
      rcases List.mem_cons.1 hi with rfl | hi
      · exact notIf
      · exact ih i hi
    · rw [hrow] at hi
      rcases List.mem_cons.1 hi with rfl | hi
      · exact ⟨isIf, made.gaps⟩
      · exact ih i (hes ▸ List.mem_append_right _ hi)

/-- Without conditions every sibling stands alone in its row. -/
theorem rowOf_of_hasTag_if {es : List (Expandable V W)}
    (h : ∀ e ∈ es, e.node.hasTag "if" = false) : rowOf es = es.map .single := by
  induction es with
  | nil => rfl
  | cons e es ih =>
    rw [rowOf, h e List.mem_cons_self, ih fun e' he => h e' (List.mem_cons_of_mem e he)]
    rfl

/-! ### Rows side by side -/

/-- The first node that is neither a comment nor a blank text is no further branch of a chain. -/
def BeginsApart (ns : List Node) : Prop :=
  ∀ n, ns.find? (fun n => !isGap n) = some n → isBranch n = false

instance (ns : List Node) : Decidable (BeginsApart ns) :=
  decidable_of_iff ((ns.find? fun n => !isGap n).all fun n => !isBranch n) <| by
    cases h : ns.find? fun n => !isGap n <;> simp [BeginsApart, h]

theorem takeLinks_append {right : List (RowItem V W)} (apart : ∀ gap, takeLinks gap right = none)
    (left : List (RowItem V W)) : ∀ gap, takeLinks gap (left ++ right) =
      (takeLinks gap left).map fun taken => (taken.1, taken.2 ++ right) := by
  induction left with
  | nil => exact fun gap => apart gap
  | cons i left ih =>
    intro gap
    cases i with
    | chain first links => rfl
    | single e =>
      rw [List.cons_append, takeLinks, takeLinks, ih, ih]
      split
      · rfl
      · split
        · dsimp only
          split
          · rfl
          · cases takeLinks [] left <;> rfl
        · rfl

theorem takeLinks_rowOf_of_beginsApart (es : List (Expandable V W))
    (apart : BeginsApart (es.map Expandable.node)) : ∀ gap, takeLinks gap (rowOf es) = none := by
  induction es with
  | nil => exact fun gap => rfl
  | cons e es ih =>
    intro gap
    rw [rowOf]
    split
    · split <;> rfl
    · cases hgap : isGap e.node with
      | true =>
        rw [takeLinks, if_pos hgap]
        exact ih (fun n hn => apart n (by simpa [hgap] using hn)) _
      | false =>
        have hbranch : isBranch e.node = false := apart e.node (by simp [hgap])
        simp [takeLinks, hgap, hbranch]

/-- No chain reaches into siblings that begin apart. -/
theorem rowOf_append (left right : List (Expandable V W))
    (apart : BeginsApart (right.map Expandable.node)) :
    rowOf (left ++ right) = rowOf left ++ rowOf right := by
  induction left with
  | nil => rfl
  | cons e left ih =>
    rw [List.cons_append, rowOf, rowOf, ih,
      takeLinks_append (takeLinks_rowOf_of_beginsApart right apart)]
    split
    · cases takeLinks [] (rowOf left) <;> rfl
    · rfl

/-! ### Trees -/

section Trees

variable {row : Place V → List (Expandable V W) → Expansion W (List Node)}

theorem expandables_append (row : Place V → List (Expandable V W) → Expansion W (List Node))
    (ms ns : List Node) :
    expandables row (ms ++ ns) = expandables row ms ++ expandables row ns := by
  induction ms with
  | nil => rfl
  | cons m ms ih => simp only [List.cons_append, expandables, ih]

theorem node_expandable (row : Place V → List (Expandable V W) → Expansion W (List Node))
    (n : Node) : (expandable row n).node = n := by
  cases n <;> rfl

theorem nodes_expandables (row : Place V → List (Expandable V W) → Expansion W (List Node))
    (ns : List Node) : (expandables row ns).map Expandable.node = ns := by
  induction ns with
  | nil => rfl
  | cons n ns ih => rw [expandables, List.map_cons, node_expandable, ih]

theorem mem_of_mem_expandables {ns : List Node} {e : Expandable V W}
    (he : e ∈ expandables row ns) : e.node ∈ ns := by
  rw [← nodes_expandables row ns]
  exact List.mem_map_of_mem he

mutual

theorem expandable_induct {P : Expandable V W → Prop}
    (leaf : ∀ n : Node, n.tag? = none →
      P { node := n, inside := fun _ => return [], insideChild := fun _ _ => return [] })
    (element : ∀ tag attrs cs, (∀ e ∈ expandables row cs, P e) →
      P (expandable row (.element tag attrs cs))) : ∀ n : Node, P (expandable row n)
  | .element tag attrs cs => element tag attrs cs (expandables_induct leaf element cs)
  | .text data => leaf (.text data) rfl
  | .comment data => leaf (.comment data) rfl
  | .directive data => leaf (.directive data) rfl
  | .fragment cs => leaf (.fragment cs) rfl
  | .blank => leaf .blank rfl

/-- What holds of nodes without children, and of elements when it holds of their children, holds of
all nodes of a forest with the expansions of what is inside them. -/
theorem expandables_induct {P : Expandable V W → Prop}
    (leaf : ∀ n : Node, n.tag? = none →
      P { node := n, inside := fun _ => return [], insideChild := fun _ _ => return [] })
    (element : ∀ tag attrs cs, (∀ e ∈ expandables row cs, P e) →
      P (expandable row (.element tag attrs cs))) : ∀ ns : List Node, ∀ e ∈ expandables row ns, P e
  | [], e, he => absurd he List.not_mem_nil
  | n :: ns, e, he => by
    rcases List.mem_cons.1 he with rfl | he
    · exact expandable_induct leaf element n
    · exact expandables_induct leaf element ns e he

end

end Trees

end HtmlTemplate.Expand
