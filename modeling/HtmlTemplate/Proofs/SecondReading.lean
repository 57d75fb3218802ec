import HtmlTemplate.Proofs.Echo

/-!
# Reading twice

What is written of a parsed tree can be read again, and then it is written as before exactly when no
conditional section is in it (`render_reread_iff`): each reading puts a closing bracket behind the
text of such a section. The elements must have tags that their end tags are read with; a tag that
ends in blanks which the end tag drops is closed by nothing, or by the wrong end tag.
-/

namespace HtmlTemplate.Markup

open Node

/-- Whether a node is a conditional section. -/
def isConditionalNode : Node → Bool
  | .directive data => isConditional data
  | _ => false

mutual

/-- A node whose directives have the data that they are read with again. -/
def reworded : Node → Node
  | .directive data => .directive (rereadData data)
  | .element tag attrs cs => .element tag attrs (rewordedAll cs)
  | .fragment cs => .fragment (rewordedAll cs)
  | n => n

/-- Nodes whose directives have the data that they are read with again. -/
def rewordedAll : List Node → List Node
  | [] => []
  | n :: ns => reworded n :: rewordedAll ns

end

theorem isEmpty_rewordedAll (ns : List Node) : (rewordedAll ns).isEmpty = ns.isEmpty := by
  cases ns <;> rfl

theorem rewordedAll_of_texts {ns : List Node} (texts : ∀ n ∈ ns, isText n = true) :
    rewordedAll ns = ns := by
  induction ns with
  | nil => rfl
  | cons n ns ih =>
    obtain ⟨data, rfl⟩ := exists_eq_text (texts n List.mem_cons_self)
    rw [rewordedAll, ih fun m hm => texts m (List.mem_cons_of_mem _ hm)]
    rfl

/-! ### Lengths -/

mutual

/-- In writing a conditional section gets longer by a character. -/
theorem length_renderNode_reworded (raw : Bool) : ∀ n : Node,
    (renderNode raw (reworded n)).length =
      (renderNode raw n).length + n.preorder.countP isConditionalNode
  | .text data => by simp [reworded, preorder, isConditionalNode]
  | .comment data => by simp [reworded, preorder, isConditionalNode]
  | .blank => by simp [reworded, preorder, isConditionalNode]
  | .directive data => by
    cases conditional : isConditional data with
    | false => simp [reworded, preorder, isConditionalNode, renderNode, rereadData, conditional]
    | true =>
      have bracket : "]".length = 1 := by decide
      simp only [reworded, renderNode, rereadData, conditional, if_true, preorder,
        List.countP_singleton, isConditionalNode, String.length_append, bracket]
      omega
  | .element tag attrs cs => by
    have inside := length_renderNodes_reworded (isRawText tag) cs
    rw [reworded, renderNode, renderNode, isEmpty_rewordedAll, preorder, List.countP_cons]
    split
    · rename_i empty
      have := List.isEmpty_iff.1 (Bool.and_eq_true_iff.1 empty).2
      simp [this, preorders, isConditionalNode]
    · simp only [String.length_append, inside, isConditionalNode, Bool.false_eq_true, if_false]
      omega
  | .fragment cs => by
    have inside := length_renderNodes_reworded raw cs
    rw [reworded, renderNode, renderNode, inside, preorder, List.countP_cons]
    rfl

theorem length_renderNodes_reworded (raw : Bool) : ∀ ns : List Node,
    (renderNodes raw (rewordedAll ns)).length =
      (renderNodes raw ns).length + (preorders ns).countP isConditionalNode
  | [] => rfl
  | n :: ns => by
    have first := length_renderNode_reworded raw n
    have rest := length_renderNodes_reworded raw ns
    simp only [rewordedAll, renderNodes, String.length_append, preorders, List.countP_append]
    omega

end

mutual

theorem reworded_of_plain : ∀ n : Node, (∀ m ∈ n.preorder, isConditionalNode m = false) →
    reworded n = n
  | .text _, _ | .comment _, _ | .blank, _ => rfl
  | .directive data, plain => by
    have := plain (.directive data) (by simp [preorder])
    rw [reworded, rereadData, if_neg (by simpa [isConditionalNode] using this)]
  | .element tag attrs cs, plain => by
    rw [reworded, rewordedAll_of_plain cs fun m hm => plain m (by simp [preorder, hm])]
  | .fragment cs, plain => by
    rw [reworded, rewordedAll_of_plain cs fun m hm => plain m (by simp [preorder, hm])]

theorem rewordedAll_of_plain : ∀ ns : List Node, (∀ m ∈ preorders ns, isConditionalNode m = false) →
    rewordedAll ns = ns
  | [], _ => rfl
  | n :: ns, plain => by
    rw [rewordedAll, reworded_of_plain n fun m hm => plain m (by simp [preorders, hm]),
      rewordedAll_of_plain ns fun m hm => plain m (by simp [preorders, hm])]

end

/-! ### Writing what was read back -/

theorem renderNodes_append (raw : Bool) (ms ns : List Node) :
    renderNodes raw (ms ++ ns) = renderNodes raw ms ++ renderNodes raw ns := by
  induction ms with
  | nil => simp [renderNodes]
  | cons m ms ih => simp [renderNodes, ih, String.append_assoc]

theorem renderNodes_reverse_cons (raw : Bool) (n : Node) (before : List Node) :
    renderNodes raw (n :: before).reverse = renderNodes raw before.reverse ++ renderNode raw n := by
  simp [renderNodes_append, renderNodes]

/-- Joined texts are written like the texts. -/
theorem renderNodes_joinData (raw : Bool) (before : List Node) (data : String) :
    renderNodes raw (Builder.joinData before data).reverse =
      renderNodes raw before.reverse ++ renderNode raw (.text data) := by
  unfold Builder.joinData
  split
  · rename_i empty
    subst empty
    cases raw <;> simp [renderNode, escapeText]
  · split
    · rw [renderNodes_reverse_cons, renderNodes_reverse_cons]
      cases raw <;> simp [renderNode, escapeText, String.append_assoc]
    · rw [renderNodes_reverse_cons]

mutual

theorem renderNodes_echo : ∀ (n : Node) (before : List Node), (∀ m ∈ n.preorder, Fit m) →
    renderNodes false (echo before n).reverse =
      renderNodes false before.reverse ++ renderNode false (reworded n)
  | .text data, before, _ => renderNodes_joinData false before data
  | .comment data, before, _ => renderNodes_reverse_cons false _ before
  | .directive data, before, _ => renderNodes_reverse_cons false _ before
  | .element tag attrs cs, before, fit => by
    have head := fit _ (mem_preorder_self (.element tag attrs cs))
    have inside := renderNodes_echoes cs [] fun m hm => fit m (by simp [preorder, hm])
    rw [echo]
    split
    · rename_i void
      obtain rfl : cs = [] := head.void tag rfl void
      exact renderNodes_reverse_cons false _ before
    · rename_i noVoid
      split
      · rename_i raw
        have texts : ∀ n ∈ cs, isText n = true := head.raw tag rfl raw
        rw [renderNodes_reverse_cons, reworded, rewordedAll_of_texts texts, renderNode, renderNode]
        simp only [noVoid, Bool.false_and, Bool.false_eq_true, if_false, raw, renderNodes_joinData]
        simp [renderNodes, renderNode]
      · rename_i noRaw
        rw [renderNodes_reverse_cons, reworded, renderNode, renderNode]
        simp only [noVoid, Bool.false_and, Bool.false_eq_true, if_false, noRaw, inside]
        rfl
  | .fragment cs, _, fit => absurd (fit _ (mem_preorder_self (.fragment cs))).legible id
  | .blank, _, fit => absurd (fit _ (mem_preorder_self .blank)).legible id

theorem renderNodes_echoes : ∀ (ns before : List Node), (∀ n ∈ preorders ns, Fit n) →
    renderNodes false (echoes before ns).reverse =
      renderNodes false before.reverse ++ renderNodes false (rewordedAll ns)
  | [], before, _ => by simp [echoes, rewordedAll, renderNodes]
  | n :: ns, before, fit => by
    rw [echoes, renderNodes_echoes ns _ fun m hm => fit m (by simp [preorders, hm]),
      renderNodes_echo n before fun m hm => fit m (by simp [preorders, hm]), rewordedAll,
      renderNodes, String.append_assoc]

end

/-! ### The second reading -/

/-- What is written of a parsed tree can be read. When each element has a tag that its end tag is
read with, the tree that is read is written in the same way exactly when the first one has no
conditional section. -/
theorem render_reread_iff {source : String} {t : List Node} (h : parse source = .ok t) :
    ∃ t', parse (render t) = .ok t' ∧ (EndsItself t →
      (render t' = render t ↔ ∀ n ∈ preorders t, isConditionalNode n = false)) := by
  have fit := fit_of_parse h
  have legible : ∀ n ∈ preorders t, Legible n := fun n hn => (fit n hn).legible
  refine ⟨_, parse_render_of_legible legible, fun ends => ?_⟩
  have reads := parse_render_eq_echoes legible ends
  rw [parse_render_of_legible legible, Except.ok.injEq] at reads
  have written : render (echoes [] t).reverse = render (rewordedAll t) := by
    rw [render, renderNodes_echoes t [] fit]
    simp [renderNodes, render]
  rw [reads, written]
  constructor
  · intro same
    have longer := length_renderNodes_reworded false t
    change (render (rewordedAll t)).length = (render t).length + _ at longer
    rw [same] at longer
    have none : (preorders t).countP isConditionalNode = 0 := by omega
    simpa [List.countP_eq_zero] using none
  · intro plain
    rw [rewordedAll_of_plain t plain]

/-- A source with a construct of each kind, stray and missing end tags and repeated attributes. -/
def mixedSource : String :=
  "<!DOCTYPE html><?pi?><![CDATA[a]b]]><!x><P a=1 A=2>1 &lt 2</i><br>&#1;<script>a</b></script><b>"

/-- The tree of the source with a construct of each kind. -/
def mixedTree : List Node :=
  [.directive "!DOCTYPE html", .directive "?pi?", .directive "![CDATA[a]b]]", .comment "x",
    .element "p" [("a", "1")]
      [.text "1 < 2", .element "br" [] [], .text "",
        .element "script" [] [.text "a</b>"], .element "b" [] []]]

theorem render_reread_iff_mixedSource : parse mixedSource = .ok mixedTree ∧
    ∃ t', parse (render mixedTree) = .ok t' ∧ render t' = render mixedTree := by
  have reads : parse mixedSource = .ok mixedTree := by
    decide +kernel
  have ends : EndsItself mixedTree := by
    have table : ∀ n ∈ preorders mixedTree, n.tag?.all (fun tag => endName tag == tag) = true := by
      decide +kernel
    intro n hn tag named
    simpa [named] using table n hn
  have plain : ∀ n ∈ preorders mixedTree, isConditionalNode n = false := by decide +kernel
  obtain ⟨t', again, stays⟩ := render_reread_iff reads
  exact ⟨reads, t', again, (stays ends).2 plain⟩

/-- The text of a conditional section is read with a closing bracket more each time. -/
theorem conditional_section_grows :
    parse "<![if x]>" = .ok [.directive "![if x]]"] ∧
      parse (render [.directive "![if x]]"]) = .ok [.directive "![if x]]]"] ∧
      render [.directive "![if x]]]"] ≠ render [.directive "![if x]]"] := by
  decide +kernel

/-- The end tag of a tag that ends in a blank closes nothing, so that the text moves inside. -/
example : (parse "<a\x0b/>y").toOption.map render = some "<a\x0b></a\x0b>y" ∧
    (parse "<a\x0b></a\x0b>y").toOption.map render = some "<a\x0b>y</a\x0b>" := by
  decide +kernel

end HtmlTemplate.Markup
