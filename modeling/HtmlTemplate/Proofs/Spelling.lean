import HtmlTemplate.Proofs.Colons
import HtmlTemplate.Proofs.ParsedTrees
import HtmlTemplate.Proofs.ReceivedAttributes
import HtmlTemplate.Proofs.SeenNodes

/-!
# Nodes that are spelled as sources spell them

In a tree that comes out of a source comments and directives end where they are written to end, and
the names of attributes are readable and distinct (`Spelled`). Dropping, evaluating and distributing
attributes keeps that: a name that an attribute gets is one that it had, or what stands behind a
colon in one (`readableName_of_splitColons`).
-/

namespace HtmlTemplate.Markup

open HtmlTemplate.Text

/-! ### Attributes -/

/-- Attributes that are read as they are written. -/
structure ReadableAttrs (attrs : Attrs) : Prop where
  names : ∀ name ∈ attrs.names, ReadableName name
  distinct : attrs.names.Nodup

namespace ReadableAttrs

variable {attrs : Attrs}

theorem erase (h : ReadableAttrs attrs) (name : String) : ReadableAttrs (attrs.erase name) := by
  have sub : (attrs.erase name).names.Sublist attrs.names := List.filter_sublist.map _
  exact ⟨fun n hn => h.names n (sub.subset hn), h.distinct.sublist sub⟩

theorem put (h : ReadableAttrs attrs) {name : String} (readable : ReadableName name)
    (value : String) : ReadableAttrs (attrs.put name value) := by
  refine ⟨fun n hn => ?_, Bindings.nodup_names_put h.distinct name value⟩
  rcases Bindings.mem_names_put.1 hn with rfl | hn
  · exact readable
  · exact h.names n hn

theorem assignOne (h : ReadableAttrs attrs) (merging : MergeRegistry) {name : String}
    (readable : ReadableName name) (value : String) :
    ReadableAttrs (merging.assignOne attrs name value) := by
  unfold MergeRegistry.assignOne
  split
  · exact h.put readable _
  · exact h.put readable _
  · exact h.erase name

theorem assign (h : ReadableAttrs attrs) (merging : MergeRegistry) {given : Attrs}
    (readable : ∀ name ∈ given.names, ReadableName name) :
    ReadableAttrs (merging.assign attrs given) := by
  unfold MergeRegistry.assign
  induction given generalizing attrs with
  | nil => exact h
  | cons a given ih =>
    exact ih (h.assignOne merging (readable a.1 List.mem_cons_self) a.2)
      fun name hname => readable name (List.mem_cons_of_mem _ hname)

end ReadableAttrs

/-- The last segment of a readable name is readable. -/
theorem readableName_of_splitColons {k : Nat} {name target : String} {segments : List String}
    (readable : ReadableName name) (h : Naming.splitColons (k + 2) name = some segments)
    (last : segments.getLast? = some target) : ReadableName target := by
  obtain ⟨nonempty, front, hfront, whole⟩ := Naming.last_of_splitColons h last
  obtain ⟨c, cs, chars, -, tail⟩ := readable.first
  -- The colon is not the first character, so that the target lies in the rest of the name.
  have inside : ∀ d ∈ target.toList, d ∈ cs := by
    intro d hd
    obtain ⟨f, fs, rfl⟩ := List.exists_cons_of_ne_nil hfront
    rw [chars, List.cons_append, List.cons.injEq] at whole
    rw [whole.2]
    exact List.mem_append_right fs (List.mem_cons_of_mem ':' hd)
  refine readableName_of_chars nonempty (fun d hd => ?_) fun d hd => tail d (inside d hd)
  refine settled_of_mem_lowercase (s := name) ?_
  rw [readable.small, chars]
  exact List.mem_cons_of_mem c (inside d hd)

/-! ### Nodes -/

/-- What nodes are like that come out of a source, as far as neither tags nor children count. -/
def Spelled : Node → Prop
  | .text _ => True
  | .comment data => cutAt closeComment data.toList = none
  | .directive data => IsDirective data
  | .element _ attrs _ => ReadableAttrs attrs
  | .fragment _ => False
  | .blank => False

theorem shallow_spelled : Shallow Spelled := ⟨fun h _ => h, fun h _ => h⟩

theorem Legible.spelled {n : Node} (h : Legible n) : Spelled n := by
  cases n with
  | element tag attrs cs =>
    obtain ⟨-, names, distinct, -⟩ := h
    refine ⟨fun name mem => ?_, distinct⟩
    obtain ⟨a, ha, rfl⟩ := List.mem_map.1 mem
    exact names a ha
  | _ => exact h

/-- All nodes that come out of a source are spelled. -/
theorem spelled_of_parse {source : String} {t : List Node} (h : parse source = .ok t) :
    Every Spelled t :=
  fun n hn => (fit_of_parse h n hn).legible.spelled

end HtmlTemplate.Markup

namespace HtmlTemplate.Expand

open HtmlTemplate.Markup

theorem readableName_of_evaluatedName? {marker name target : String}
    (readable : ReadableName name) (h : evaluatedName? marker name = some target) :
    ReadableName target := by
  unfold evaluatedName? at h
  split at h
  · rename_i m target' segments
    split at h
    · obtain rfl := Option.some.inj h
      exact readableName_of_splitColons readable segments rfl
    · cases h
  · cases h

theorem readableName_routeOf {marker name : String} (readable : ReadableName name) :
    ReadableName (routeOf marker name).2 := by
  unfold routeOf
  split
  · rename_i m slot target segments
    split
    · exact readableName_of_splitColons readable segments rfl
    · exact readable
  · exact readable

theorem readableName_routed {marker : String} {given : Attrs}
    (readable : ∀ name ∈ given.names, ReadableName name) (slot : String) :
    ∀ name ∈ (routed marker given slot).names, ReadableName name := by
  induction given using List.reverseRecOn with
  | nil => exact fun name mem => absurd mem List.not_mem_nil
  | append_singleton given a ih =>
    have before := ih fun name mem => readable name (by
      rw [Bindings.names, List.map_append]
      exact List.mem_append_left _ mem)
    have here : ReadableName a.1 := readable a.1 (by simp [Bindings.names])
    intro name mem
    rw [routed_concat] at mem
    split at mem
    · rcases Bindings.mem_names_put.1 mem with rfl | mem
      · exact readableName_routeOf here
      · exact before name mem
    · exact before name mem

/-- Distributing attributes with readable names keeps nodes spelled. -/
theorem spelled_distribute {marker : String} (merging : MergeRegistry) {given : Attrs}
    (readable : ∀ name ∈ given.names, ReadableName name) {ns : List Node} (h : Seen Spelled ns) :
    Seen Spelled (distribute marker merging given ns) := by
  refine seen_distribute shallow_spelled (fun tag attrs cs here => ?_)
    (fun slot tag attrs cs here => ?_) h
  · exact ReadableAttrs.erase here marker
  · exact ReadableAttrs.assign here merging (readableName_routed readable slot)

end HtmlTemplate.Expand
