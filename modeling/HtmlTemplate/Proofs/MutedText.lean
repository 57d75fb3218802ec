import HtmlTemplate.Expand.Distribution
import HtmlTemplate.Expand.Projection
import HtmlTemplate.Proofs.Bindings
import HtmlTemplate.Proofs.Occurrence

/-!
# Trees without the data of their texts

`Node.mutes` empties every text of a forest, so that two forests are the same but for the data of
their texts when they are the same muted. What the expander does with expanded trees does not look
at these data: distributing attributes and projecting content commute with muting.
-/

namespace HtmlTemplate.Markup

namespace Node

mutual

/-- A tree with all its texts emptied. -/
def mute : Node → Node
  | text _ => text ""
  | element tag attrs cs => element tag attrs (mutes cs)
  | fragment cs => fragment (mutes cs)
  | n => n

/-- A forest with all its texts emptied. -/
def mutes : List Node → List Node
  | [] => []
  | n :: ns => mute n :: mutes ns

end

@[simp]
theorem mutes_append (ms ns : List Node) : mutes (ms ++ ns) = mutes ms ++ mutes ns := by
  induction ms with
  | nil => rfl
  | cons m ms ih => simp only [List.cons_append, mutes, ih]

@[simp]
theorem isEmpty_mutes (ns : List Node) : (mutes ns).isEmpty = ns.isEmpty := by
  cases ns <;> rfl

@[simp]
theorem attrs_mute (n : Node) : n.mute.attrs = n.attrs := by cases n <;> rfl

@[simp]
theorem hasTag_mute (n : Node) (tag : String) : n.mute.hasTag tag = n.hasTag tag := by
  cases n <;> rfl

@[simp]
theorem children_mute (n : Node) : n.mute.children = mutes n.children := by cases n <;> rfl

mutual

theorem preorder_mute : ∀ n : Node, n.mute.preorder = n.preorder.map mute
  | text _ | comment _ | directive _ | blank => rfl
  | element tag attrs cs => by simp only [mute, preorder, preorders_mutes cs, List.map_cons]
  | fragment cs => by simp only [mute, preorder, preorders_mutes cs, List.map_cons]

theorem preorders_mutes : ∀ ns : List Node, preorders (mutes ns) = (preorders ns).map mute
  | [] => rfl
  | n :: ns => by
    simp only [mutes, preorders, preorder_mute n, preorders_mutes ns, List.map_append]

end

/-- Whether a forest has a node of a kind that muting keeps is the same after muting. -/
theorem isSome_find?_mutes {p : Node → Bool} (hp : ∀ n, p n.mute = p n) (ns : List Node) :
    (find? p (mutes ns)).isSome = (find? p ns).isSome := by
  rw [find?, find?, preorders_mutes, List.find?_map, Option.isSome_map]
  have same : p ∘ mute = p := funext hp
  rw [same]

theorem isCopyable_mute (n : Node) : Store.isCopyable n.mute = Store.isCopyable n := by
  rw [Store.isCopyable, Store.isCopyable, preorder_mute, List.all_map]
  congr 1
  funext m
  cases m <;> rfl

theorem all_isCopyable_mutes (ns : List Node) :
    (mutes ns).all Store.isCopyable = ns.all Store.isCopyable := by
  induction ns with
  | nil => rfl
  | cons n ns ih => simp only [mutes, List.all_cons, isCopyable_mute, ih]

end Node

end HtmlTemplate.Markup

namespace HtmlTemplate.Expand

open HtmlTemplate.Markup Node

/-! ### Distribution -/

section Distribution

variable (marker : String) (merging : MergeRegistry) (given : Attrs)

mutual

theorem mute_distributeIn : ∀ n : Node,
    (distributeIn marker merging given n).mute = distributeIn marker merging given n.mute
  | .element tag attrs cs => by simp only [distributeIn, mute, mutes_distributeAmong cs]
  | .fragment cs => by simp only [distributeIn, mute, mutes_distributeAmong cs]
  | .text _ | .comment _ | .directive _ | .blank => rfl

theorem mutes_distributeAmong : ∀ ns : List Node,
    mutes (distributeAmong marker merging given ns) =
      distributeAmong marker merging given (mutes ns)
  | [] => rfl
  | n :: ns => by
    simp only [distributeAmong, mutes, mute_distributeIn n, mutes_distributeAmong ns]

end

theorem mutes_giveFirst (ns : List Node) :
    mutes (giveFirst merging given ns) = giveFirst merging given (mutes ns) := by
  induction ns with
  | nil => rfl
  | cons n ns ih =>
    cases n with
    | element tag attrs cs =>
      have takes : takesUnmarked (.element tag attrs (mutes cs)) =
          takesUnmarked (.element tag attrs cs) := rfl
      simp only [giveFirst, mutes, mute, takes]
      split
      · rfl
      · simp only [mutes, mute, ih]
    | _ => simp only [giveFirst, mutes, mute, ih]

theorem mutes_distribute (ns : List Node) :
    mutes (distribute marker merging given ns) = distribute marker merging given (mutes ns) := by
  have marked : ((Node.preorders (mutes ns)).any fun n => n.attrs.get? marker == some "") =
      (Node.preorders ns).any fun n => n.attrs.get? marker == some "" := by
    rw [preorders_mutes, List.any_map]
    simp only [Function.comp_def, attrs_mute]
  simp only [distribute, marked]
  split
  · exact mutes_distributeAmong marker merging given ns
  · rw [mutes_giveFirst, mutes_distributeAmong]

end Distribution

/-! ### Projection -/

section Bindings

variable {α β : Type} (f : α → β)

theorem get?_mapValues (b : Bindings α) (name : String) :
    Bindings.get? (b.map fun entry => (entry.1, f entry.2)) name = (b.get? name).map f := by
  induction b with
  | nil => rfl
  | cons entry b ih =>
    obtain ⟨n, v⟩ := entry
    rw [List.map_cons, Bindings.get?_cons, Bindings.get?_cons, ih]
    split <;> rfl

theorem put_mapValues (b : Bindings α) (name : String) (value : α) :
    Bindings.put (b.map fun entry => (entry.1, f entry.2)) name (f value) =
      (b.put name value).map fun entry => (entry.1, f entry.2) := by
  induction b with
  | nil => rfl
  | cons entry b ih =>
    obtain ⟨n, v⟩ := entry
    simp only [List.map_cons, Bindings.put, ih]
    split <;> rfl

end Bindings

/-- Content with all its texts emptied. -/
def Content.mute (c : Content) : Content where
  main := mutes c.main
  fills := c.fills.map fun entry => (entry.1, mutes entry.2)

theorem add?_mute (fillTag : String) (c : Content) (n : Node) :
    c.mute.add? fillTag n.mute = (c.add? fillTag n).map Content.mute := by
  unfold Content.add?
  simp only [hasTag_mute, attrs_mute, children_mute]
  split
  · rw [Option.map_map]
    congr 1
    funext slot
    have held : (Bindings.get? c.mute.fills slot).getD [] =
        mutes ((c.fills.get? slot).getD []) := by
      rw [Content.mute, get?_mapValues]
      cases c.fills.get? slot <;> rfl
    rw [Function.comp_apply, held, ← mutes_append]
    simp only [Content.mute, put_mapValues]
  · simp [Content.mute, mutes]

theorem ofNodes?_mutes (fillTag : String) (ns : List Node) :
    Content.ofNodes? fillTag (mutes ns) = (Content.ofNodes? fillTag ns).map Content.mute := by
  have fold : ∀ (ns : List Node) (c : Content), (mutes ns).foldlM (Content.add? fillTag) c.mute =
      (ns.foldlM (Content.add? fillTag) c).map Content.mute := by
    intro ns
    induction ns with
    | nil => exact fun c => rfl
    | cons n ns ih =>
      intro c
      rw [mutes, List.foldlM_cons, List.foldlM_cons, add?_mute]
      cases c.add? fillTag n with
      | none => rfl
      | some c' => exact ih c'
  exact fold ns {}

mutual

theorem mutes_projectMain (tag : String) (main : List Node) : ∀ n : Node,
    mutes (projectMain tag main n) = projectMain tag (mutes main) n.mute
  | .element t attrs cs => by
    simp only [projectMain, mute, isEmpty_mutes]
    split
    · split
      · exact mutes_projectMains tag main cs
      · rfl
    · simp only [mutes, mute, mutes_projectMains tag main cs]
  | .fragment cs => by simp only [projectMain, mutes, mute, mutes_projectMains tag main cs]
  | .text _ | .comment _ | .directive _ | .blank => rfl

theorem mutes_projectMains (tag : String) (main : List Node) : ∀ ns : List Node,
    mutes (projectMains tag main ns) = projectMains tag (mutes main) (mutes ns)
  | [] => rfl
  | n :: ns => by
    simp only [projectMains, mutes, mutes_append, mutes_projectMain tag main n,
      mutes_projectMains tag main ns]

end

mutual

theorem projectFills_mute (tag : String) (fills : Bindings (List Node)) : ∀ n : Node,
    projectFills tag (fills.map fun entry => (entry.1, mutes entry.2)) n.mute =
      (projectFills tag fills n).map mutes
  | .element t attrs cs => by
    have inside := projectAllFills_mutes tag fills cs
    simp only [projectFills, mute]
    split
    · cases attrs.get? "name" with
      | none => rfl
      | some name =>
        simp only [get?_mapValues]
        cases fills.get? name with
        | none => exact inside
        | some content =>
          simp only [Option.map_some, all_isCopyable_mutes]
          split <;> rfl
    · rw [inside]
      cases projectAllFills tag fills cs <;> rfl
  | .fragment cs => by
    simp only [projectFills, mute, projectAllFills_mutes tag fills cs]
    cases projectAllFills tag fills cs <;> rfl
  | .text _ | .comment _ | .directive _ | .blank => rfl

theorem projectAllFills_mutes (tag : String) (fills : Bindings (List Node)) : ∀ ns : List Node,
    projectAllFills tag (fills.map fun entry => (entry.1, mutes entry.2)) (mutes ns) =
      (projectAllFills tag fills ns).map mutes
  | [] => rfl
  | n :: ns => by
    simp only [projectAllFills, mutes, projectFills_mute tag fills n,
      projectAllFills_mutes tag fills ns]
    cases projectFills tag fills n with
    | error e => rfl
    | ok nodes =>
      cases projectAllFills tag fills ns with
      | error e => rfl
      | ok more => simp [Except.map]

end

theorem project_mute (yieldTag slotTag : String) (content : Content) (forest : List Node) :
    project yieldTag slotTag content.mute (mutes forest) =
      (project yieldTag slotTag content forest).map mutes := by
  have held := isSome_find?_mutes (p := (·.hasTag yieldTag)) (hasTag_mute · yieldTag) forest
  have copyable := all_isCopyable_mutes content.main
  simp only [project, Content.mute, held, copyable]
  split
  · rfl
  · rw [← mutes_projectMains]
    exact projectAllFills_mutes slotTag content.fills _

/-! ### Forests that differ in the data of their texts -/

/-- Two forests are the same but for the data of their texts. -/
def SameButTexts (ns ms : List Node) : Prop := mutes ns = mutes ms

theorem SameButTexts.append {ns ms ns' ms' : List Node} (h : SameButTexts ns ms)
    (h' : SameButTexts ns' ms') : SameButTexts (ns ++ ns') (ms ++ ms') := by
  rw [SameButTexts] at h h' ⊢
  rw [mutes_append, mutes_append, h, h']

theorem SameButTexts.element {ns ms : List Node} (h : SameButTexts ns ms) (tag : String)
    (attrs : Attrs) : SameButTexts [.element tag attrs ns] [.element tag attrs ms] := by
  rw [SameButTexts] at h ⊢
  simp only [mutes, mute, h]

theorem SameButTexts.distribute {ns ms : List Node} (h : SameButTexts ns ms) (marker : String)
    (merging : MergeRegistry) (given : Attrs) :
    SameButTexts (distribute marker merging given ns) (distribute marker merging given ms) := by
  rw [SameButTexts] at h ⊢
  rw [mutes_distribute, mutes_distribute, h]

/-- Nodes are content together with all that are the same but for the data of texts. -/
theorem SameButTexts.ofNodes? {ns ms : List Node} (h : SameButTexts ns ms) {fillTag : String}
    {c : Content} (hc : Content.ofNodes? fillTag ns = some c) :
    ∃ c', Content.ofNodes? fillTag ms = some c' ∧ c.mute = c'.mute := by
  have both := ofNodes?_mutes fillTag ns
  rw [h, ofNodes?_mutes, hc] at both
  obtain ⟨c', hc', same⟩ := Option.map_eq_some_iff.1 both
  exact ⟨c', hc', same.symm⟩

/-- Projecting content does not look at the data of texts. -/
theorem SameButTexts.project {ns ms : List Node} (h : SameButTexts ns ms) {c c' : Content}
    (hc : c.mute = c'.mute) {yieldTag slotTag : String} {nodes : List Node}
    (hnodes : project yieldTag slotTag c ns = .ok nodes) :
    ∃ nodes', Expand.project yieldTag slotTag c' ms = .ok nodes' ∧ SameButTexts nodes nodes' := by
  have both := project_mute yieldTag slotTag c ns
  rw [hc, h, project_mute, hnodes] at both
  cases hms : Expand.project yieldTag slotTag c' ms with
  | error e =>
    rw [hms] at both
    cases both
  | ok nodes' =>
    rw [hms] at both
    exact ⟨nodes', rfl, (Except.ok.inj both).symm⟩

end HtmlTemplate.Expand
