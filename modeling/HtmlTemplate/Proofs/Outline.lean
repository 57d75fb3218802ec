import HtmlTemplate.Proofs.Echo
import HtmlTemplate.Proofs.Spelling

/-!
# The elements of a tree that is written and read

The `outline` of a forest has its elements with their attributes, nested as they are, and nothing
else. It is the same after the forest has been written and read (`parse_render_of_sturdy`), whatever
the texts and the values of attributes are, when no element is open to what stands in it (`Sturdy`):
a tag is read as it is written, an element without a content model of elements holds none, and in
the text of a raw text element no end tag of it begins.
-/

namespace HtmlTemplate.Markup

open Node

mutual

/-- The elements of a tree, nested as they are in it. -/
def outlineOf : Node → List Node
  | .element tag attrs cs => [.element tag attrs (outline cs)]
  | .fragment cs => outline cs
  | _ => []

/-- The elements of a forest, nested as they are in it. -/
def outline : List Node → List Node
  | [] => []
  | n :: ns => outlineOf n ++ outline ns

end

theorem outline_append (ms ns : List Node) : outline (ms ++ ns) = outline ms ++ outline ns := by
  induction ms with
  | nil => rfl
  | cons m ms ih => simp only [List.cons_append, outline, ih, List.append_assoc]

theorem outline_reverse_cons (n : Node) (before : List Node) :
    outline (n :: before).reverse = outline before.reverse ++ outlineOf n := by
  simp [outline_append, outline]

/-- Texts are not in an outline. -/
theorem outline_joinData (before : List Node) (data : String) :
    outline (Builder.joinData before data).reverse = outline before.reverse := by
  unfold Builder.joinData
  split
  · rfl
  · split <;> simp [outline_append, outline, outlineOf]

/-! ### Elements that stay closed -/

/-- An element that is read with its tag and with nothing of what stands in it taken out. -/
structure Sturdy (n : Node) : Prop where
  tag : ∀ tag, n.tag? = some tag → ReadableTag tag ∧ endName tag = tag
  bare : ∀ tag, n.tag? = some tag → (isVoid tag || isRawText tag) = true →
    ∀ c ∈ n.children, c.isElement = false
  raw : ∀ tag, n.tag? = some tag → isRawText tag = true →
    holdsEnd tag (renderNodes true n.children).toList = false

/-- An element of a parsed tree is sturdy when its end tag is read with its tag. -/
theorem Fit.sturdy {n : Node} (fit : Fit n) (ends : ∀ tag, n.tag? = some tag → endName tag = tag) :
    Sturdy n := by
  cases n with
  | element tag attrs cs =>
    obtain ⟨readable, -, -, raw⟩ := fit.legible
    constructor <;> rintro _ ⟨⟩
    · exact ⟨readable, ends tag rfl⟩
    · intro isBare c hc
      rcases Bool.or_eq_true_iff.1 isBare with void | isRaw
      · rw [fit.void tag rfl void] at hc
        cases hc
      · obtain ⟨data, rfl⟩ := exists_eq_text (fit.raw tag rfl isRaw c hc)
        rfl
    · exact raw
  | _ => constructor <;> rintro _ ⟨⟩

/-- A sufficient condition for an element to be sturdy, for tags of plain characters. -/
def isSturdy : Node → Bool
  | .element tag _ cs =>
    isTagName tag && (!(isVoid tag || isRawText tag) || cs.all fun c => !c.isElement) &&
      (!isRawText tag || !holdsEnd tag (renderNodes true cs).toList)
  | _ => true

theorem sturdy_of_isSturdy {n : Node} (h : isSturdy n = true) : Sturdy n := by
  cases n with
  | element tag attrs cs =>
    simp only [isSturdy, Bool.and_eq_true, Bool.or_eq_true, Bool.not_eq_true',
      List.all_eq_true] at h
    obtain ⟨⟨named, bare⟩, raw⟩ := h
    constructor <;> rintro _ ⟨⟩
    · exact ⟨readableTag_of_isTagName named, endName_of_isTagName named⟩
    · intro isBare c hc
      exact bare.resolve_left (by simp [isBare]) c hc
    · intro isRaw
      exact raw.resolve_left (by simp [isRaw])
  | _ => constructor <;> rintro _ ⟨⟩

theorem outline_of_bare {ns : List Node} (spelled : Every Spelled ns)
    (bare : ∀ n ∈ ns, n.isElement = false) : outline ns = [] := by
  induction ns with
  | nil => rfl
  | cons n ns ih =>
    obtain ⟨here, rest⟩ := every_cons_iff.1 spelled
    have leaf := bare n List.mem_cons_self
    rw [outline, ih rest fun m hm => bare m (List.mem_cons_of_mem n hm), List.append_nil]
    cases n with
    | element tag attrs cs => cases leaf
    | fragment cs => exact absurd here.self id
    | _ => rfl

mutual

theorem outline_echo : ∀ (n : Node) (before : List Node), Every Spelled [n] → Every Sturdy [n] →
    outline (echo before n).reverse = outline before.reverse ++ outlineOf n
  | .text data, before, _, _ => by simp [echo, outline_joinData, outlineOf]
  | .comment data, before, _, _ => outline_reverse_cons _ before
  | .directive data, before, _, _ => outline_reverse_cons _ before
  | .element tag attrs cs, before, spelled, sturdy => by
    obtain ⟨-, inside⟩ := every_element_iff.1 spelled
    obtain ⟨here, closed⟩ := every_element_iff.1 sturdy
    rw [echo]
    split
    · rename_i void
      have bare := outline_of_bare inside (here.bare tag rfl (by simp [void]))
      rw [outline_echoes cs _ inside closed, outline_reverse_cons, outlineOf, outlineOf, bare]
      simp [outline]
    · split
      · rename_i raw
        have bare := outline_of_bare inside (here.bare tag rfl (by simp [raw]))
        rw [outline_reverse_cons, outlineOf, outlineOf, outline_joinData, bare]
        rfl
      · rw [outline_reverse_cons, outlineOf, outlineOf, outline_echoes cs [] inside closed]
        rfl
  | .fragment cs, _, spelled, _ => absurd spelled.self id
  | .blank, _, spelled, _ => absurd spelled.self id

/-- What is read of sturdy nodes has their outline. -/
theorem outline_echoes : ∀ (ns before : List Node), Every Spelled ns → Every Sturdy ns →
    outline (echoes before ns).reverse = outline before.reverse ++ outline ns
  | [], before, _, _ => by simp [echoes, outline]
  | n :: ns, before, spelled, sturdy => by
    obtain ⟨hn, hns⟩ := every_cons_iff.1 spelled
    obtain ⟨first, rest⟩ := every_cons_iff.1 sturdy
    rw [echoes, outline_echoes ns _ hns rest, outline_echo n before hn first, outline,
      List.append_assoc]

end

theorem Spelled.legible {n : Node} (spelled : Spelled n) (sturdy : Sturdy n) : Legible n := by
  cases n with
  | element tag attrs cs =>
    refine ⟨(sturdy.tag tag rfl).1, fun a ha => ?_, spelled.distinct, sturdy.raw tag rfl⟩
    exact spelled.names a.1 (List.mem_map_of_mem ha)
  | _ => exact spelled

/-- A forest of sturdy elements has the same outline after it has been written and read. -/
theorem parse_render_of_sturdy {t : List Node} (spelled : Every Spelled t)
    (sturdy : Every Sturdy t) : ∃ u, parse (render t) = .ok u ∧ outline u = outline t := by
  have ends : EndsItself t := fun n hn tag named => ((sturdy n hn).tag tag named).2
  refine ⟨_, parse_render_eq_echoes (fun n hn => (spelled n hn).legible (sturdy n hn)) ends, ?_⟩
  simpa [outline] using outline_echoes t [] spelled sturdy

end HtmlTemplate.Markup
