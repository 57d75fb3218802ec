import HtmlTemplate.Proofs.ParsedTrees

/-!
# Nodes that are read back

When every element has a tag that its end tag is read with, what a legible forest is read as can be
told without a builder (`parse_render_eq_echoes`): the elements are nested as before, except that
what stands in a void element comes after it.
-/

namespace HtmlTemplate.Markup

open Node

mutual

/-- The nodes that come of a node behind others, the latest first. -/
def echo (before : List Node) : Node → List Node
  | .text data => Builder.joinData before data
  | .comment data => .comment data :: before
  | .directive data => .directive (rereadData data) :: before
  | .element tag attrs cs =>
    if isVoid tag then echoes (.element tag attrs [] :: before) cs
    else if isRawText tag then
      .element tag attrs (Builder.joinData [] (renderNodes true cs)).reverse :: before
    else .element tag attrs (echoes [] cs).reverse :: before
  | .fragment _ => before
  | .blank => before

/-- The nodes that come of a forest behind others, the latest first. -/
def echoes (before : List Node) : List Node → List Node
  | [] => before
  | n :: ns => echoes (echo before n) ns

end

/-- Whether the end tag of each element in a forest is read with its tag. -/
def EndsItself (ns : List Node) : Prop :=
  ∀ n ∈ preorders ns, ∀ tag, n.tag? = some tag → endName tag = tag

namespace Builder

/-- A builder none of whose open elements is a void element. -/
def NoVoid (b : Builder) : Prop := ∀ tag ∈ b.opened.map (·.tag), isVoid tag = false

/-- The end tag of a void element closes nothing. -/
theorem NoVoid.close {b : Builder} (h : b.NoVoid) {tag : String} (void : isVoid tag = true) :
    b.close tag = b := by
  have none : b.opened.findIdx? (·.tag == tag) = none := by
    rw [List.findIdx?_eq_none_iff]
    intro e he
    have := h e.tag (List.mem_map_of_mem he)
    rw [beq_eq_false_iff_ne]
    rintro same
    rw [same, void] at this
    cases this
  simp only [Builder.close, none]

theorem NoVoid.setCurrent {b : Builder} (h : b.NoVoid) (ns : List Node) :
    (b.setCurrent ns).NoVoid := by
  rw [NoVoid, map_tag_setCurrent]
  exact h

section Elements

variable {tag : String} {attrs : Attrs}

/-- A builder that takes a written start tag. -/
theorem take_startTag (distinct : attrs.names.Nodup) (b : Builder) :
    b.take (.startTag tag (reportedAttrs attrs)) =
      if isVoid tag then b.add (.element tag attrs [])
      else { b with opened := ⟨tag, attrs, []⟩ :: b.opened } := by
  rw [take, attrsOf_reportedAttrs distinct]

/-- An element that is no void element is closed by its end tag. -/
theorem close_setCurrent_opened (b : Builder) (ns : List Node) :
    (setCurrent { b with opened := ⟨tag, attrs, []⟩ :: b.opened } ns).close tag =
      b.setCurrent (.element tag attrs ns.reverse :: b.current) :=
  close_opened b tag attrs ns

end Elements

mutual

/-- A node that is written and read changes nothing but what comes behind it. -/
theorem reread_eq_echo : ∀ (n : Node) (b : Builder), (∀ m ∈ n.preorder, Legible m) →
    (∀ m ∈ n.preorder, ∀ tag, m.tag? = some tag → endName tag = tag) → b.NoVoid →
      b.reread n = b.setCurrent (echo b.current n)
  | .text data, b, _, _, _ => rfl
  | .comment data, b, _, _, _ => rfl
  | .directive data, b, _, _, _ => rfl
  | .element tag attrs cs, b, legible, ends, noVoid => by
    have head := mem_preorder_self (.element tag attrs cs)
    obtain ⟨-, -, distinct, -⟩ := legible _ head
    have named := ends _ head tag rfl
    have inside (b : Builder) (h : b.NoVoid) := rereadAll_eq_echoes cs b
      (fun m hm => legible m (by simp [preorder, hm]))
      (fun m hm => ends m (by simp [preorder, hm])) h
    rw [reread, echo, take_startTag distinct]
    cases void : isVoid tag with
    | true =>
      have noRaw := isRawText_of_isVoid void
      simp only [if_true, Bool.true_and, noRaw, Bool.false_eq_true, if_false]
      have after : (b.add (.element tag attrs [])).NoVoid := noVoid.setCurrent _
      rw [inside _ after]
      split
      · rename_i empty
        rw [List.isEmpty_iff.1 empty]
        rfl
      · -- What stands in the void element comes behind it, and its end tag is lost.
        change Builder.close _ (endName tag) = _
        rw [named, NoVoid.close (after.setCurrent _) void]
        simp [add]
    | false =>
      have opened : NoVoid { b with opened := ⟨tag, attrs, []⟩ :: b.opened } := fun tag' mem => by
        rcases List.mem_cons.1 mem with rfl | mem
        · exact void
        · exact noVoid tag' mem
      simp only [Bool.false_eq_true, if_false, Bool.false_and]
      split
      · exact close_setCurrent_opened b _
      · rw [inside _ opened]
        change Builder.close _ (endName tag) = _
        rw [named]
        exact close_setCurrent_opened b _
  | .fragment cs, _, legible, _, _ => absurd (legible _ (mem_preorder_self (.fragment cs))) id
  | .blank, _, legible, _, _ => absurd (legible _ (mem_preorder_self .blank)) id

/-- Nodes that are written and read change nothing but what comes behind them. -/
theorem rereadAll_eq_echoes : ∀ (ns : List Node) (b : Builder), (∀ n ∈ preorders ns, Legible n) →
    EndsItself ns → b.NoVoid → b.rereadAll ns = b.setCurrent (echoes b.current ns)
  | [], b, _, _, _ => (setCurrent_current b).symm
  | n :: ns, b, legible, ends, noVoid => by
    have first := reread_eq_echo n b (fun m hm => legible m (by simp [preorders, hm]))
      (fun m hm => ends m (by simp [preorders, hm])) noVoid
    have rest := rereadAll_eq_echoes ns (b.setCurrent (echo b.current n))
      (fun m hm => legible m (by simp [preorders, hm]))
      (fun m hm => ends m (by simp [preorders, hm])) (noVoid.setCurrent _)
    rw [rereadAll, first, rest]
    simp [echoes]

end

end Builder

/-- What a legible forest is read as when its end tags close its elements. -/
theorem parse_render_eq_echoes {t : List Node} (legible : ∀ n ∈ preorders t, Legible n)
    (ends : EndsItself t) : parse (render t) = .ok (echoes [] t).reverse := by
  have start : Builder.NoVoid {} := fun _ mem => absurd mem List.not_mem_nil
  rw [parse_render_of_legible legible, Builder.rereadAll_eq_echoes t {} legible ends start]
  rfl

end HtmlTemplate.Markup
