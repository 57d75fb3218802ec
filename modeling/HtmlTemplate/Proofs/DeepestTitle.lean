import HtmlTemplate.Proofs.PushedContent
import HtmlTemplate.Proofs.Relocation
import Mathlib.Data.List.Induction

/-!
# The title of a document

When no title is inside a title and there is one document, with a body, relocation of titles takes
the titles out of the body and puts the last of the deepest ones into the head, in place of those
that the head had; a document without a head gets one (`relocate_moves_title`). Titles apart,
nothing else changes. The depths of titles are those that they have in the body as it was.
-/

namespace HtmlTemplate.Titles

open HtmlTemplate.Markup HtmlTemplate.Expand HtmlTemplate.Stacks

/-! ### Depths -/

mutual

/-- The nodes of a tree with their depths, in document order, where the tree lies at the given
depth. -/
def depthsIn (depth : Nat) : Node → List (Node × Nat)
  | .element t attrs cs => (.element t attrs cs, depth) :: depthsAmong (depth + 1) cs
  | .fragment cs => (.fragment cs, depth) :: depthsAmong (depth + 1) cs
  | n => [(n, depth)]

/-- The nodes of a forest with their depths, in document order. -/
def depthsAmong (depth : Nat) : List Node → List (Node × Nat)
  | [] => []
  | n :: ns => depthsIn depth n ++ depthsAmong depth ns

end

/-- The titles of a forest with their depths, in document order. -/
def titlesOf (depth : Nat) (forest : List Node) : List (Node × Nat) :=
  (depthsAmong depth forest).filter (·.1.hasTag "title")

/-- No title is inside a title. -/
def FlatTitles (forest : List Node) : Prop := FlatPushes "title" forest

/-- One of some titles is the last of the deepest. -/
def LastDeepest (titles : List (Node × Nat)) (best : Node × Nat) : Prop :=
  ∃ before after, titles = before ++ best :: after ∧ (∀ t ∈ before, t.2 ≤ best.2) ∧
    ∀ t ∈ after, t.2 < best.2

theorem deepest?_concat (ts : List (Node × Nat)) (t : Node × Nat) :
    deepest? (ts ++ [t]) =
      match deepest? ts with
      | some best => if best.2 ≤ t.2 then some t else some best
      | none => some t := by
  rw [deepest?, List.foldl_append]
  rfl

/-- The title that is kept on the way is the last of the deepest. -/
theorem exists_deepest {ts : List (Node × Nat)} (some_ : ts ≠ []) :
    ∃ best, deepest? ts = some best ∧ LastDeepest ts best := by
  induction ts using List.reverseRecOn with
  | nil => exact absurd rfl some_
  | append_singleton ts t ih =>
    rw [deepest?_concat]
    rcases ts.eq_nil_or_concat with rfl | ⟨_, _, rfl⟩
    · exact ⟨t, rfl, [], [], rfl, by simp, by simp⟩
    · obtain ⟨best, found, before, after, split, low, lower⟩ := ih (by simp)
      rw [found, split]
      dsimp only
      split_ifs with higher
      · refine ⟨t, rfl, before ++ best :: after, [], rfl, fun u hu => ?_, by simp⟩
        rcases List.mem_append.1 hu with hu | hu
        · exact Nat.le_trans (low u hu) higher
        · rcases List.mem_cons.1 hu with rfl | hu
          · exact higher
          · exact Nat.le_trans (Nat.le_of_lt (lower u hu)) higher
      · refine ⟨best, rfl, before, after ++ [t], by simp, low, fun u hu => ?_⟩
        rcases List.mem_append.1 hu with hu | hu
        · exact lower u hu
        · rw [List.mem_singleton.1 hu]
          exact Nat.lt_of_not_le higher

mutual

theorem map_fst_depthsIn : ∀ (n : Node) (depth : Nat), (depthsIn depth n).map (·.1) = n.preorder
  | .element t attrs cs, depth => by
    rw [depthsIn, List.map_cons, map_fst_depthsAmong cs, Node.preorder]
  | .fragment cs, depth => by
    rw [depthsIn, List.map_cons, map_fst_depthsAmong cs, Node.preorder]
  | .text _, _ | .comment _, _ | .directive _, _ | .blank, _ => rfl

theorem map_fst_depthsAmong : ∀ (ns : List Node) (depth : Nat),
    (depthsAmong depth ns).map (·.1) = Node.preorders ns
  | [], _ => rfl
  | n :: ns, depth => by
    rw [depthsAmong, List.map_append, map_fst_depthsIn n, map_fst_depthsAmong ns, Node.preorders]

end

theorem titlesOf_eq_nil_iff {depth : Nat} {forest : List Node} :
    titlesOf depth forest = [] ↔ Lacks "title" forest := by
  rw [titlesOf, List.filter_eq_nil_iff, Lacks, ← map_fst_depthsAmong forest depth]
  simp

theorem titlesOf_cons (depth : Nat) (n : Node) (ns : List Node) :
    titlesOf depth (n :: ns) = titlesOf depth [n] ++ titlesOf depth ns := by
  simp only [titlesOf, depthsAmong, List.append_nil, List.filter_append]

theorem titlesOf_leaf {n : Node} (leaf : n.preorder = [n]) (bare : n.tag? = none) (depth : Nat) :
    titlesOf depth [n] = [] :=
  titlesOf_eq_nil_iff.2 (lacks_leaf leaf bare "title")

theorem mem_elementsOf_of_mem_titlesOf {depth : Nat} {forest : List Node} {t : Node × Nat}
    (h : t ∈ titlesOf depth forest) : t.1 ∈ elementsOf "title" forest := by
  obtain ⟨mem, title⟩ := List.mem_filter.1 h
  refine List.mem_filter.2 ⟨?_, title⟩
  rw [← map_fst_depthsAmong forest depth]
  exact List.mem_map_of_mem mem

/-! ### Dropping titles -/

mutual

theorem withoutTitles_eq : ∀ n : Node, n.hasTag "title" = false →
    withoutTitles n = withoutPushes "title" n
  | .element t attrs cs, other => by
    rw [withoutTitles, withoutPushes, if_neg (by simpa [Node.hasTag, Node.tag?] using other),
      dropTitles_eq cs]
  | .fragment cs, _ => by rw [withoutTitles, withoutPushes, dropTitles_eq cs]
  | .text _, _ | .comment _, _ | .directive _, _ | .blank, _ => rfl

theorem dropTitles_eq : ∀ ns : List Node, dropTitles ns = dropPushes "title" ns
  | [] => rfl
  | n :: ns => by
    rw [dropTitles, dropPushes, dropTitles_eq ns]
    split_ifs with title
    · rfl
    · rw [withoutTitles_eq n (Bool.eq_false_iff.2 title)]

end

theorem lacks_dropTitles (ns : List Node) : Lacks "title" (dropTitles ns) := by
  rw [dropTitles_eq]
  exact lacks_dropPushes ns

mutual

theorem replaceIn_dropRule {tag : String} : ∀ n : Node, replaceIn (dropRule tag) n =
    if n.hasTag tag then [] else [withoutPushes tag n]
  | .element t attrs cs => by
    by_cases push : t = tag
    · simp [replaceIn, dropRule, push, Node.hasTag, Node.tag?]
    · simp [replaceIn, dropRule, push, Node.hasTag, Node.tag?, withoutPushes,
        replaceAmong_dropRule cs]
  | .fragment cs => by
    rw [replaceIn, replaceAmong_dropRule cs]
    rfl
  | .text _ | .comment _ | .directive _ | .blank => rfl

theorem replaceAmong_dropRule {tag : String} : ∀ ns : List Node,
    replaceAmong (dropRule tag) ns = dropPushes tag ns
  | [] => rfl
  | n :: ns => by
    rw [replaceAmong, replaceIn_dropRule n, replaceAmong_dropRule ns, dropPushes]
    split_ifs <;> rfl

end

/-! ### The titles that are met -/

mutual

theorem titlesIn_eq : ∀ (n : Node) (depth : Nat), FlatTitles [n] →
    titlesIn depth n = titlesOf depth [n]
  | .element t attrs cs, depth, flat => by
    by_cases title : t = "title"
    · subst title
      have bare : Lacks "title" cs := flat (.element "title" attrs cs) (by simp [elementsOf_self])
      have inside : FlatTitles cs := by
        rw [FlatTitles, FlatPushes, elementsOf_of_lacks bare]
        exact List.forall_mem_nil _
      rw [titlesIn, if_pos (beq_self_eq_true _), titlesAmong_eq cs 1 inside,
        titlesOf_eq_nil_iff.2 bare, dropTitles_of_lacks cs bare]
      rw [titlesOf, depthsAmong, depthsIn, depthsAmong, List.append_nil,
        List.filter_cons_of_pos rfl]
      exact congrArg _ (titlesOf_eq_nil_iff.2 bare).symm
    · have inside : FlatTitles cs := by
        rwa [FlatTitles, FlatPushes, elementsOf_element title] at flat
      rw [titlesIn, if_neg (by simpa using title), titlesAmong_eq cs (depth + 1) inside]
      simp [titlesOf, depthsAmong, depthsIn, title, Node.hasTag, Node.tag?]
  | .fragment cs, depth, flat => by
    have inside : FlatTitles cs := by rwa [FlatTitles, FlatPushes, elementsOf_fragment] at flat
    rw [titlesIn, titlesAmong_eq cs (depth + 1) inside]
    simp [titlesOf, depthsAmong, depthsIn, Node.hasTag, Node.tag?]
  | .text _, depth, _ | .comment _, depth, _ | .directive _, depth, _ | .blank, depth, _ =>
    (titlesOf_leaf rfl rfl depth).symm

/-- Where no title is inside a title, depths are those in the forest as it was. -/
theorem titlesAmong_eq : ∀ (ns : List Node) (depth : Nat), FlatTitles ns →
    titlesAmong depth ns = titlesOf depth ns
  | [], _, _ => rfl
  | n :: ns, depth, flat => by
    obtain ⟨hn, hns⟩ := FlatPushes.of_cons flat
    rw [titlesAmong, titlesIn_eq n depth hn, titlesAmong_eq ns depth hns, ← titlesOf_cons]

end

theorem FlatTitles.children {n : Node} {ns : List Node} (h : FlatTitles ns)
    (hn : n ∈ Node.preorders ns) : FlatTitles n.children := fun t ht =>
  have within := (List.mem_filter.1 ht).1
  h t (List.mem_filter.2 ⟨Node.preorders_children_subset ns hn within, (List.mem_filter.1 ht).2⟩)

section BodyTitle

variable {children : List Node} {body : Node}
  (hasBody : children.find? (·.hasTag "body") = some body) (flat : FlatTitles body.children)
include hasBody flat

theorem bodyTitle?_eq_none (bare : Lacks "title" body.children) : bodyTitle? children = none := by
  simp only [bodyTitle?, hasBody, titlesAmong_eq _ 0 flat, titlesOf_eq_nil_iff.2 bare]
  rfl

theorem exists_bodyTitle (held : ¬ Lacks "title" body.children) : ∃ title depth,
    bodyTitle? children = some title ∧ LastDeepest (titlesOf 0 body.children) (title, depth) := by
  obtain ⟨best, found, last⟩ :=
    exists_deepest fun none => held (titlesOf_eq_nil_iff.1 none)
  refine ⟨best.1, best.2, ?_, last⟩
  simp only [bodyTitle?, hasBody, titlesAmong_eq _ 0 flat, found]
  rfl

end BodyTitle

/-! ### The first node of a kind -/

/-- Changes the first node with a tag. -/
def onFirst (tag : String) (change : Node → Node) : List Node → List Node
  | [] => []
  | n :: ns => if n.hasTag tag then change n :: ns else n :: onFirst tag change ns

section OnFirst

variable {tag other : String} {change : Node → Node}

theorem hasTag_ne {n : Node} (here : n.hasTag tag = true) (distinct : other ≠ tag) :
    n.hasTag other = false := by
  rw [Node.hasTag, beq_iff_eq] at here
  simp [Node.hasTag, here, distinct.symm]

theorem onFirst_same {ns : List Node}
    (same : ∀ n, ns.find? (·.hasTag tag) = some n → change n = n) : onFirst tag change ns = ns := by
  induction ns with
  | nil => rfl
  | cons n ns ih =>
    rw [onFirst]
    split_ifs with here
    · rw [same n (by simp [here])]
    · rw [ih fun m found => same m (by simpa [here] using found)]

theorem replaceAmong_onFirst {rule : Rule} {ns : List Node}
    (same : ∀ n, n.hasTag tag = true → replaceIn rule (change n) = replaceIn rule n) :
    replaceAmong rule (onFirst tag change ns) = replaceAmong rule ns := by
  induction ns with
  | nil => rfl
  | cons n ns ih =>
    rw [onFirst]
    split_ifs with here
    · rw [replaceAmong, replaceAmong, same n here]
    · rw [replaceAmong, replaceAmong, ih]

variable (tags : ∀ n, (change n).tag? = n.tag?)
include tags

theorem hasTag_change (n : Node) (t : String) : (change n).hasTag t = n.hasTag t := by
  rw [Node.hasTag, Node.hasTag, tags]

theorem find?_onFirst (ns : List Node) :
    (onFirst tag change ns).find? (·.hasTag tag) = (ns.find? (·.hasTag tag)).map change := by
  induction ns with
  | nil => rfl
  | cons n ns ih =>
    rw [onFirst]
    split_ifs with here
    · simp [hasTag_change tags, here]
    · simp [here, ih]

theorem find?_onFirst_of_ne (distinct : other ≠ tag) (ns : List Node) :
    (onFirst tag change ns).find? (·.hasTag other) = ns.find? (·.hasTag other) := by
  induction ns with
  | nil => rfl
  | cons n ns ih =>
    rw [onFirst]
    split_ifs with here
    · simp [hasTag_change tags, hasTag_ne here distinct]
    · simp [List.find?_cons, ih]

theorem eraseP_onFirst (ns : List Node) :
    (onFirst tag change ns).eraseP (·.hasTag tag) = ns.eraseP (·.hasTag tag) := by
  induction ns with
  | nil => rfl
  | cons n ns ih =>
    rw [onFirst]
    split_ifs with here
    · simp [hasTag_change tags, here]
    · simp [here, ih]

theorem eraseP_onFirst_of_ne (distinct : other ≠ tag) (ns : List Node) :
    (onFirst tag change ns).eraseP (·.hasTag other) =
      onFirst tag change (ns.eraseP (·.hasTag other)) := by
  induction ns with
  | nil => rfl
  | cons n ns ih =>
    rw [onFirst]
    split_ifs with here
    · simp [hasTag_change tags, hasTag_ne here distinct, onFirst, here]
    · by_cases there : n.hasTag other = true
      · simp [there]
      · simp [there, ih, onFirst, here]

end OnFirst

/-! ### Documents -/

mutual

theorem preorder_sublist_preorder {m : Node} : ∀ n : Node, m ∈ n.preorder →
    m.preorder.Sublist n.preorder
  | .element t attrs cs, mem => by
    rcases List.mem_cons.1 mem with rfl | mem
    · exact List.Sublist.refl _
    · exact (preorder_sublist cs mem).cons _
  | .fragment cs, mem => by
    rcases List.mem_cons.1 mem with rfl | mem
    · exact List.Sublist.refl _
    · exact (preorder_sublist cs mem).cons _
  | .text _, mem | .comment _, mem | .directive _, mem | .blank, mem => by
    obtain rfl := List.mem_singleton.1 mem
    exact List.Sublist.refl _

theorem preorder_sublist {m : Node} : ∀ ns : List Node, m ∈ Node.preorders ns →
    m.preorder.Sublist (Node.preorders ns)
  | [], mem => absurd mem List.not_mem_nil
  | n :: ns, mem => by
    rcases List.mem_append.1 mem with mem | mem
    · exact (preorder_sublist_preorder n mem).trans (List.sublist_append_left _ _)
    · exact (preorder_sublist ns mem).trans (List.sublist_append_right _ _)

end

/-- The only element with a tag has no other inside it. -/
theorem lacks_of_elementsOf_eq {tag t : String} {forest cs : List Node} {attrs : Attrs}
    (one : elementsOf tag forest = [.element t attrs cs]) : Lacks tag cs := by
  have mem : Node.element t attrs cs ∈ elementsOf tag forest := by simp [one]
  obtain ⟨within, here⟩ := List.mem_filter.1 mem
  have sub := (preorder_sublist forest within).filter (·.hasTag tag)
  rw [← Node.findAll, ← elementsOf, one] at sub
  simp only [Node.preorder, List.filter_cons, here, if_true] at sub
  have none : (Node.preorders cs).filter (·.hasTag tag) = [] :=
    List.eq_nil_of_length_eq_zero (by simpa using sub.length_le)
  exact fun n hn => by simpa using List.filter_eq_nil_iff.1 none n hn

mutual

/-- A tree whose documents have the given children. -/
def withDocumentIn (children : List Node) : Node → Node
  | .element t attrs cs =>
    .element t attrs (if t == "html" then children else withDocument children cs)
  | .fragment cs => .fragment (withDocument children cs)
  | n => n

/-- A forest whose documents have the given children. -/
def withDocument (children : List Node) : List Node → List Node
  | [] => []
  | n :: ns => withDocumentIn children n :: withDocument children ns

end

/-- The documents of a forest have in them what `change` says. -/
def DocumentsTo (change : List Node → List Node) (children forest : List Node) : Prop :=
  ∀ d ∈ elementsOf "html" forest, change d.children = children

section DocumentsTo

variable {change : List Node → List Node} {children : List Node}

theorem documentsTo_cons_iff {n : Node} {ns : List Node} : DocumentsTo change children (n :: ns) ↔
    DocumentsTo change children [n] ∧ DocumentsTo change children ns := by
  rw [DocumentsTo, elementsOf_cons]
  exact List.forall_mem_append

theorem DocumentsTo.element {t : String} {attrs : Attrs} {cs : List Node} (other : t ≠ "html")
    (h : DocumentsTo change children [.element t attrs cs]) : DocumentsTo change children cs := by
  rwa [DocumentsTo, elementsOf_element other] at h

theorem DocumentsTo.fragment {cs : List Node} (h : DocumentsTo change children [.fragment cs]) :
    DocumentsTo change children cs := by
  rwa [DocumentsTo, elementsOf_fragment] at h

theorem DocumentsTo.document {attrs : Attrs} {cs : List Node}
    (h : DocumentsTo change children [.element "html" attrs cs]) : change cs = children :=
  h (.element "html" attrs cs) (by simp [elementsOf_self])

theorem documentsTo_of_lacks {ns : List Node} (h : Lacks "html" ns) :
    DocumentsTo change children ns := by
  rw [DocumentsTo, elementsOf_of_lacks h]
  exact List.forall_mem_nil _

end DocumentsTo

mutual

theorem withDocumentIn_same {children : List Node} : ∀ n : Node, DocumentsTo id children [n] →
    withDocumentIn children n = n
  | .element t attrs cs, h => by
    rw [withDocumentIn]
    split_ifs with document
    · obtain rfl : t = "html" := beq_iff_eq.1 document
      rw [← h.document]
      rfl
    · rw [withDocument_same cs (h.element (by simpa using document))]
  | .fragment cs, h => by rw [withDocumentIn, withDocument_same cs h.fragment]
  | .text _, _ | .comment _, _ | .directive _, _ | .blank, _ => rfl

theorem withDocument_same {children : List Node} : ∀ ns : List Node, DocumentsTo id children ns →
    withDocument children ns = ns
  | [], _ => rfl
  | n :: ns, h => by
    obtain ⟨hn, hns⟩ := documentsTo_cons_iff.1 h
    rw [withDocument, withDocumentIn_same n hn, withDocument_same ns hns]

end

/-- What relocation makes of the children of a document. -/
def relocated (children : List Node) : List Node :=
  ensureHead (bodyTitle? children) (relocateChildren (bodyTitle? children) false false children)

mutual

theorem relocateIn_eq {children : List Node} : ∀ n : Node, DocumentsTo relocated children [n] →
    relocateIn n = withDocumentIn children n
  | .element t attrs cs, h => by
    rw [relocateIn, withDocumentIn]
    split_ifs with document
    · obtain rfl : t = "html" := beq_iff_eq.1 document
      rw [← h.document]
      rfl
    · rw [relocateAmong_eq cs (h.element (by simpa using document))]
  | .fragment cs, h => by rw [relocateIn, withDocumentIn, relocateAmong_eq cs h.fragment]
  | .text _, _ | .comment _, _ | .directive _, _ | .blank, _ => rfl

/-- Outside documents relocation changes nothing. -/
theorem relocateAmong_eq {children : List Node} : ∀ ns : List Node,
    DocumentsTo relocated children ns → relocateAmong ns = withDocument children ns
  | [], _ => rfl
  | n :: ns, h => by
    obtain ⟨hn, hns⟩ := documentsTo_cons_iff.1 h
    rw [relocateAmong, withDocument, relocateIn_eq n hn, relocateAmong_eq ns hns]

end

theorem relocateIn_of_lacks_html {n : Node} (h : Lacks "html" [n]) : relocateIn n = n := by
  have none : DocumentsTo relocated [] [n] := documentsTo_of_lacks h
  rw [relocateIn_eq n none, withDocumentIn_same n (documentsTo_of_lacks h)]

/-- The children of a document with a head in front unless they have one. -/
def withHead (children : List Node) : List Node :=
  if children.any (·.hasTag "head") then children else .element "head" [] [] :: children

theorem tag?_withoutTitles (n : Node) : (withoutTitles n).tag? = n.tag? := by
  cases n <;> rfl

theorem tag?_headWith (title n : Node) : (headWith title n).tag? = n.tag? := by
  cases n <;> rfl

/-- What becomes of the head of a document, given the title that goes there. -/
def headTo : Option Node → Node → Node
  | some title => headWith title
  | none => id

/-- Of the children of a document only the first body and the first head change. -/
theorem relocateChildren_eq {ns : List Node} (inner : Lacks "html" ns) (title? : Option Node)
    (bodyMet headMet : Bool) : relocateChildren title? bodyMet headMet ns =
      (if headMet then id else onFirst "head" (headTo title?))
        ((if bodyMet then id else onFirst "body" withoutTitles) ns) := by
  induction ns generalizing bodyMet headMet with
  | nil => cases bodyMet <;> cases headMet <;> rfl
  | cons n ns ih =>
    obtain ⟨hn, hns⟩ := lacks_cons_iff.1 inner
    rw [relocateChildren.eq_def]
    dsimp only
    rw [relocateIn_of_lacks_html hn]
    by_cases body : n.hasTag "body" = true
    · have notHead : n.hasTag "head" = false := hasTag_ne body (by decide)
      cases bodyMet <;> cases headMet <;>
        simp [onFirst, body, notHead, ih hns, hasTag_change tag?_withoutTitles]
    · by_cases head : n.hasTag "head" = true
      · cases bodyMet <;> cases headMet <;> cases title? <;>
          simp [onFirst, body, head, ih hns, headTo]
      · cases bodyMet <;> cases headMet <;> simp [onFirst, body, head, ih hns]

/-- A document after a title went from its body to its head. -/
structure Moved (title : Node) (before after : List Node) : Prop where
  /-- The first body has no title. -/
  body : ∃ body, after.find? (·.hasTag "body") = some body ∧ Lacks "title" body.children
  /-- The title is the only one in the first head. -/
  head : ∃ head, after.find? (·.hasTag "head") = some head ∧
    elementsOf "title" head.children = [title]
  /-- A head that was not there before comes first. -/
  added : before.any (·.hasTag "head") = false →
    ∃ rest, after = .element "head" [] [title] :: rest
  /-- Titles apart, all is as it was, but for a head that was not there before. -/
  kept : replaceAmong (dropRule "title") after = replaceAmong (dropRule "title") (withHead before)
  /-- Beside the first head and the first body all is as it was. -/
  beside : (after.eraseP (·.hasTag "head")).eraseP (·.hasTag "body") =
    (before.eraseP (·.hasTag "head")).eraseP (·.hasTag "body")

section Document

variable {cs : List Node} {body title : Node} (inner : Lacks "html" cs)
  (hasBody : cs.find? (·.hasTag "body") = some body)
include inner hasBody

theorem relocated_of_none (none : bodyTitle? cs = none) (bare : Lacks "title" body.children) :
    relocated cs = cs := by
  have same : ∀ n, cs.find? (·.hasTag "body") = some n → withoutTitles n = n := by
    intro n found
    obtain rfl : body = n := Option.some.inj (hasBody.symm.trans found)
    cases body with
    | element t attrs inside => exact congrArg _ (dropTitles_of_lacks _ bare)
    | fragment inside => exact congrArg _ (dropTitles_of_lacks _ bare)
    | _ => rfl
  rw [relocated, none, relocateChildren_eq inner]
  exact (onFirst_same fun _ _ => rfl).trans (onFirst_same same)

omit hasBody in
theorem relocated_of_some (taken : bodyTitle? cs = some title) : relocated cs =
    onFirst "head" (headWith title) (onFirst "body" withoutTitles (withHead cs)) := by
  have other : (onFirst "body" withoutTitles cs).find? (·.hasTag "head") =
      cs.find? (·.hasTag "head") :=
    find?_onFirst_of_ne tag?_withoutTitles (by decide) cs
  have heads : (onFirst "head" (headWith title) (onFirst "body" withoutTitles cs)).any
      (·.hasTag "head") = cs.any (·.hasTag "head") := by
    rw [← List.isSome_find?, find?_onFirst (tag?_headWith title), Option.isSome_map, other,
      List.isSome_find?]
  rw [relocated, taken, relocateChildren_eq inner]
  simp only [ensureHead, Bool.false_eq_true, if_false, headTo, heads, withHead]
  split_ifs with headed
  · rfl
  · have headless : cs.find? (·.hasTag "head") = none := by simpa using headed
    rw [onFirst_same fun n found => absurd (other.symm.trans found) (by simp [headless])]
    rfl

end Document

/-! ### A document with a head -/

theorem exists_head (cs : List Node) : ∃ attrs inside,
    (withHead cs).find? (·.hasTag "head") = some (.element "head" attrs inside) := by
  have headed : ((withHead cs).find? (·.hasTag "head")).isSome := by
    rw [List.isSome_find?, withHead]
    split_ifs with headed
    · exact headed
    · rfl
  obtain ⟨head, found⟩ := Option.isSome_iff_exists.1 headed
  have tag := List.find?_some found
  cases head with
  | element t attrs inside =>
    obtain rfl : t = "head" := by simpa [Node.hasTag, Node.tag?] using tag
    exact ⟨attrs, inside, found⟩
  | _ => simp [Node.hasTag, Node.tag?] at tag

theorem find?_withHead {tag : String} (other : tag ≠ "head") (cs : List Node) :
    (withHead cs).find? (·.hasTag tag) = cs.find? (·.hasTag tag) := by
  rw [withHead]
  split_ifs
  · rfl
  · simp [Node.hasTag, Node.tag?, other.symm]

theorem eraseP_withHead (cs : List Node) :
    (withHead cs).eraseP (·.hasTag "head") = cs.eraseP (·.hasTag "head") := by
  rw [withHead]
  split_ifs with headed
  · rfl
  · have none : ∀ n ∈ cs, ¬ n.hasTag "head" = true := by simpa using headed
    rw [List.eraseP_of_forall_not none]
    rfl

theorem replaceIn_withoutTitles {n : Node} (other : n.hasTag "title" = false) :
    replaceIn (dropRule "title") (withoutTitles n) = replaceIn (dropRule "title") n := by
  rw [withoutTitles_eq n other, replaceIn_dropRule, replaceIn_dropRule, hasTag_withoutPushes,
    withoutPushes_of_lacks _ (lacks_withoutPushes n other)]

theorem replaceAmong_headWith {title : Node} (tag : title.hasTag "title" = true)
    (cs : List Node) : replaceAmong (dropRule "title") (dropTitles cs ++ [title]) =
      replaceAmong (dropRule "title") cs := by
  rw [replaceAmong_append, replaceAmong_singleton, replaceIn_dropRule, if_pos tag,
    List.append_nil, dropTitles_eq, replaceAmong_dropRule, replaceAmong_dropRule,
    dropPushes_of_lacks _ (lacks_dropPushes cs)]

theorem replaceIn_headWith {title n : Node} (tag : title.hasTag "title" = true) :
    replaceIn (dropRule "title") (headWith title n) = replaceIn (dropRule "title") n := by
  cases n with
  | element t attrs cs =>
    simp only [headWith, replaceIn, replaceAmong_headWith tag]
  | _ => rfl

section Moved

variable {cs : List Node} {body title : Node} (inner : Lacks "html" cs)
  (hasBody : cs.find? (·.hasTag "body") = some body) (taken : bodyTitle? cs = some title)
  (tag : title.hasTag "title" = true) (bare : Lacks "title" title.children)
include inner hasBody taken tag bare

theorem moved : Moved title cs (relocated cs) := by
  rw [relocated_of_some inner taken]
  constructor
  case body =>
    refine ⟨withoutTitles body, ?_, ?_⟩
    · rw [find?_onFirst_of_ne (tag?_headWith title) (by decide),
        find?_onFirst tag?_withoutTitles, find?_withHead (by decide), hasBody, Option.map_some]
    · cases body with
      | element t attrs inside => exact lacks_dropTitles inside
      | fragment inside => exact lacks_dropTitles inside
      | _ => exact lacks_nil _
  case head =>
    obtain ⟨attrs, inside, found⟩ := exists_head cs
    refine ⟨headWith title (.element "head" attrs inside), ?_, ?_⟩
    · rw [find?_onFirst (tag?_headWith title),
        find?_onFirst_of_ne tag?_withoutTitles (by decide), found, Option.map_some]
    · rw [headWith, Node.children, elementsOf_append, elementsOf_of_lacks (lacks_dropTitles inside),
        List.nil_append]
      cases title with
      | element t attrs under =>
        obtain rfl : t = "title" := by simpa [Node.hasTag, Node.tag?] using tag
        exact (elementsOf_self attrs under).trans (congrArg _ (elementsOf_of_lacks bare))
      | _ => simp [Node.hasTag, Node.tag?] at tag
  case added =>
    intro headless
    rw [withHead, if_neg (by simp [headless])]
    exact ⟨_, rfl⟩
  case kept =>
    rw [replaceAmong_onFirst fun n _ => replaceIn_headWith tag,
      replaceAmong_onFirst fun n body => replaceIn_withoutTitles (hasTag_ne body (by decide))]
  case beside =>
    rw [eraseP_onFirst (tag?_headWith title),
      eraseP_onFirst_of_ne tag?_withoutTitles (by decide), eraseP_onFirst tag?_withoutTitles,
      eraseP_withHead]

end Moved

/-- Relocation puts the last of the deepest titles of the body into the head, and changes nothing
when the body has no title. -/
theorem relocate_moves_title {rule : TitleRule} {forest : List Node} {attrs : Attrs}
    {cs : List Node} {body : Node} (one : elementsOf "html" forest = [.element "html" attrs cs])
    (hasBody : cs.find? (·.hasTag "body") = some body) (flat : FlatTitles forest) :
    (Lacks "title" body.children → relocate rule forest = forest) ∧
      (¬ Lacks "title" body.children → ∃ title depth children,
        LastDeepest (titlesOf 0 body.children) (title, depth) ∧
          relocate rule forest = withDocument children forest ∧ Moved title cs children) := by
  have document : Node.element "html" attrs cs ∈ elementsOf "html" forest := by simp [one]
  have inner : Lacks "html" cs := lacks_of_elementsOf_eq one
  have flatBody : FlatTitles body.children := by
    have flatChildren : FlatTitles cs := flat.children (List.mem_filter.1 document).1
    exact flatChildren.children
      (Node.mem_preorders_iff.2
        ⟨body, List.mem_of_find?_eq_some hasBody, Node.mem_preorder_self body⟩)
  have whole : relocate rule forest = withDocument (relocated cs) forest := by
    have found : (Node.find? (·.hasTag "html") forest).isSome := by
      obtain ⟨mem, tag⟩ := List.mem_filter.1 document
      exact List.find?_isSome.2 ⟨_, mem, tag⟩
    rw [relocate.eq_def, if_pos found]
    exact relocateAmong_eq forest (by simp [DocumentsTo, one, Node.children])
  refine ⟨fun bare => ?_, fun held => ?_⟩
  · rw [whole, relocated_of_none inner hasBody (bodyTitle?_eq_none hasBody flatBody bare) bare]
    exact withDocument_same forest (by simp [DocumentsTo, one, Node.children])
  · obtain ⟨title, depth, taken, last⟩ := exists_bodyTitle hasBody flatBody held
    have mem : (title, depth) ∈ titlesOf 0 body.children := by
      obtain ⟨before, after, split, -⟩ := last
      simp [split]
    have tag : title.hasTag "title" = true := (List.mem_filter.1 mem).2
    exact ⟨title, depth, relocated cs, last, whole, moved inner hasBody taken tag
      (flatBody title (mem_elementsOf_of_mem_titlesOf mem))⟩

/-- A title with a text. -/
def titled (text : String) : Node := .element "title" [] [.text text]

/-- A body with a title in it and two titles one level deeper. -/
def twinBody : Node :=
  .element "body" [] [titled "near", .element "div" [] [titled "first"],
    .element "p" [] [titled "last", .text "x"]]

/-- A document with the body, and with a title in its head. -/
def twinTitles : List Node :=
  [.text "a",
    .element "html" [] [.element "head" [] [titled "old", .element "meta" [] []], twinBody]]

theorem relocate_moves_title_twins :
    FlatTitles twinTitles ∧ ¬ Lacks "title" twinBody.children ∧ ∃ title depth children,
      LastDeepest (titlesOf 0 twinBody.children) (title, depth) ∧
        relocate .preserve twinTitles = withDocument children twinTitles ∧
          Moved title [.element "head" [] [titled "old", .element "meta" [] []], twinBody]
            children := by
  have flat : FlatTitles twinTitles := by
    unfold FlatTitles FlatPushes
    decide +kernel
  have held : ¬ Lacks "title" twinBody.children := by decide +kernel
  exact ⟨flat, held, (relocate_moves_title rfl rfl flat).2 held⟩

example : relocate .preserve twinTitles =
    [.text "a", .element "html" [] [.element "head" [] [.element "meta" [] [], titled "last"],
      .element "body" [] [.element "div" [] [], .element "p" [] [.text "x"]]]] := by
  decide +kernel

end HtmlTemplate.Titles
