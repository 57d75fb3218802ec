import HtmlTemplate.Proofs.CompiledOutput
import HtmlTemplate.Proofs.Rest
import HtmlTemplate.Proofs.RoundTrip

/-!
# Markup without constructs

A forest is `Plain` when none of its elements is a construct or a title, none of its attributes is
evaluated, and no text has an expression in it. Every part of the compiler leaves such a forest as
it is: expansion (`passes_expand`), stacks (`Stacks.resolve_of_lacks`) and titles
(`Titles.relocate_of_lacks`). So the HTML of a plain forest compiles to itself, and neither the
evaluator nor the registry is asked anything (`Compiler.compile_plain`).
-/

namespace HtmlTemplate

open HtmlTemplate.Text HtmlTemplate.Markup HtmlTemplate.Component

variable {V W : Type}

/-! ### Titles -/

namespace Titles

mutual

theorem titlesIn_of_lacks : ∀ (n : Node) (depth : Nat), Lacks "title" [n] → titlesIn depth n = []
  | .element t attrs cs, depth, h => by
    obtain ⟨other, inside⟩ := lacks_element_iff.1 h
    have apart : (t == "title") = false := by simpa using other
    rw [titlesIn, apart]
    exact titlesAmong_of_lacks cs (depth + 1) inside
  | .fragment cs, depth, h => titlesAmong_of_lacks cs (depth + 1) (lacks_fragment_iff.1 h)
  | .text _, _, _ | .comment _, _, _ | .directive _, _, _ | .blank, _, _ => rfl

theorem titlesAmong_of_lacks : ∀ (ns : List Node) (depth : Nat), Lacks "title" ns →
    titlesAmong depth ns = []
  | [], _, _ => rfl
  | n :: ns, depth, h => by
    obtain ⟨here, later⟩ := lacks_cons_iff.1 h
    rw [titlesAmong, titlesIn_of_lacks n depth here, titlesAmong_of_lacks ns depth later]
    rfl

end

theorem bodyTitle?_of_lacks {children : List Node} (h : Lacks "title" children) :
    bodyTitle? children = none := by
  unfold bodyTitle?
  cases found : children.find? (·.hasTag "body") with
  | none => rfl
  | some body =>
    have inside : Lacks "title" body.children :=
      Every.children (h.of_mem (List.mem_of_find?_eq_some found))
    dsimp only
    rw [titlesAmong_of_lacks body.children 0 inside]
    rfl

mutual

theorem relocateIn_of_lacks : ∀ n : Node, Lacks "title" [n] → relocateIn n = n
  | .element t attrs cs, h => by
    have inside := (lacks_element_iff.1 h).2
    rw [relocateIn, bodyTitle?_of_lacks inside, relocateAmong_of_lacks cs inside]
    dsimp only
    rw [relocateChildren_of_lacks cs false false inside]
    exact ite_self _
  | .fragment cs, h => by
    rw [relocateIn, relocateAmong_of_lacks cs (lacks_fragment_iff.1 h)]
  | .text _, _ | .comment _, _ | .directive _, _ | .blank, _ => rfl

theorem relocateAmong_of_lacks : ∀ ns : List Node, Lacks "title" ns → relocateAmong ns = ns
  | [], _ => rfl
  | n :: ns, h => by
    obtain ⟨here, later⟩ := lacks_cons_iff.1 h
    rw [relocateAmong, relocateIn_of_lacks n here, relocateAmong_of_lacks ns later]

/-- Without a title to move, body and head of a document without titles stay as they are. -/
theorem relocateChildren_of_lacks : ∀ (ns : List Node) (bodyMet headMet : Bool),
    Lacks "title" ns → relocateChildren none bodyMet headMet ns = ns
  | [], _, _, _ => rfl
  | n :: ns, bodyMet, headMet, h => by
    obtain ⟨here, later⟩ := lacks_cons_iff.1 h
    rw [relocateChildren]
    split
    · rw [withoutTitles_of_lacks n here, relocateChildren_of_lacks ns true headMet later]
    split
    · rw [relocateIn_of_lacks n here, relocateChildren_of_lacks ns bodyMet true later]
    · rw [relocateIn_of_lacks n here, relocateChildren_of_lacks ns bodyMet headMet later]

end

/-- Without titles a forest stays as it is. -/
theorem relocate_of_lacks (rule : TitleRule) {forest : List Node} (h : Lacks "title" forest) :
    relocate rule forest = forest := by
  unfold relocate
  split
  · exact relocateAmong_of_lacks forest h
  · cases rule with
    | preserve => rfl
    | remove => exact dropTitles_of_lacks forest h

end Titles

namespace Expand

open Expansion

/-! ### Runs that only make progress -/

/-- Whether a note tells how far the work has come, and nothing of the registry or the layout. -/
def Note.isProgress : Note → Bool
  | .step .. => true
  | .compiled _ => true
  | _ => false

/-- What happened between two states are steps: neither the evaluator nor the registry has changed,
and without debugging there are no notes either. -/
structure Progress (o : Options) (s s' : State W) : Prop where
  world : s'.world = s.world
  registry : s'.registry = s.registry
  notes : ∃ more, s'.notes = more ++ s.notes ∧ (∀ n ∈ more, n.isProgress = true) ∧
    (o.debug = false → more = [])

namespace Progress

variable {o : Options} {s s' s'' : State W}

theorem refl (s : State W) : Progress o s s :=
  ⟨rfl, rfl, [], rfl, fun _ h => absurd h List.not_mem_nil, fun _ => rfl⟩

theorem trans (first : Progress o s s') (later : Progress o s' s'') : Progress o s s'' := by
  obtain ⟨more, hmore, work, silent⟩ := first.notes
  obtain ⟨more', hmore', work', silent'⟩ := later.notes
  refine ⟨later.world.trans first.world, later.registry.trans first.registry, more' ++ more, ?_,
    fun n hn => ?_, fun quiet => ?_⟩
  · rw [hmore', hmore, List.append_assoc]
  · exact (List.mem_append.1 hn).elim (work' n) (work n)
  · rw [silent quiet, silent' quiet]
    rfl

/-- Notes that are changed on the way out stay what they are. -/
theorem mapNotes {f : Note → Note} (hf : ∀ n, (f n).isProgress = n.isProgress)
    (inner : Progress o { s with notes := [] } s') :
    Progress o s { s' with notes := s'.notes.map f ++ s.notes } := by
  obtain ⟨more, hmore, work, silent⟩ := inner.notes
  refine ⟨inner.world, inner.registry, more.map f, ?_, fun n hn => ?_, fun quiet => ?_⟩
  · rw [hmore, List.append_nil]
  · obtain ⟨m, hm, rfl⟩ := List.mem_map.1 hn
    rw [hf]
    exact work m hm
  · rw [silent quiet]
    rfl

end Progress

/-- An expansion ends with a result and only makes progress. -/
def Passes {α : Type} (o : Options) (x : Expansion W α) (a : α) : Prop :=
  ∀ s, ∃ s', Ends x s a s' ∧ Progress o s s'

section Passes

variable {o : Options} {α β : Type}

theorem passes_pure (a : α) : Passes o (pure a : Expansion W α) a :=
  fun s => ⟨s, ends_pure_iff.2 ⟨rfl, rfl⟩, .refl s⟩

theorem passes_bind {x : Expansion W α} {f : α → Expansion W β} {a : α} {b : β}
    (hx : Passes o x a) (hf : Passes o (f a) b) : Passes o (x >>= f) b := by
  intro s
  obtain ⟨s₁, run, first⟩ := hx s
  obtain ⟨s₂, run', later⟩ := hf s₁
  exact ⟨s₂, ends_bind_iff.2 ⟨a, s₁, run, run'⟩, first.trans later⟩

theorem passes_within {x : Expansion W α} {a : α} (f : List Node → List Node)
    (hx : Passes o x a) : Passes o (within f x) a := by
  intro s
  obtain ⟨s₁, run, progress⟩ := hx { s with notes := [] }
  have kept (n : Note) : (n.within f).isProgress = n.isProgress := by
    cases n with
    | step number whole forest => cases whole <;> rfl
    | _ => rfl
  exact ⟨_, ends_within_iff.2 ⟨s₁, run, rfl⟩, progress.mapNotes kept⟩

theorem passes_whole {x : Expansion W α} {a : α} (hx : Passes o x a) : Passes o (whole x) a := by
  intro s
  obtain ⟨s₁, run, progress⟩ := hx { s with notes := [] }
  have kept (n : Note) : n.complete.isProgress = n.isProgress := by
    cases n <;> rfl
  exact ⟨_, ends_whole_iff.2 ⟨s₁, run, rfl⟩, progress.mapNotes kept⟩

theorem passes_compute {place : Place V} {left : List Node} {x : Act W α} {a : α}
    (hx : ∀ w, Ends x w a w) : Passes o (compute place left x) a :=
  fun s => ⟨s, ends_compute_iff.2 ⟨s.world, hx s.world, rfl⟩, .refl s⟩

theorem passes_noteStep (forest : List Node) :
    Passes o (noteStep o forest : Expansion W Unit) () := by
  intro s
  unfold noteStep
  split
  · rename_i debug
    refine ⟨_, ends_modify_iff.2 rfl, rfl, rfl, [.step (s.steps + 1) false forest], rfl,
      fun n hn => ?_, fun quiet => ?_⟩
    · rw [List.mem_singleton.1 hn]
      rfl
    · rw [debug] at quiet
      cases quiet
  · exact passes_pure () s

end Passes

/-! ### Plain forests -/

/-- A node that is neither a construct nor a title, and has neither an expression nor an evaluated
attribute. -/
def PlainNode (o : Options) : Node → Prop
  | .text data => o.contentPattern.occursIn data = false
  | .element tag attrs _ =>
    tag ∉ ["if", "elseif", "else", "switch", "for", "title"] ∧
      tag ∉ o.constructTags.map Prod.snd ∧ tag.startsWith o.componentPrefix = false ∧
        ∀ name ∈ Bindings.names attrs, evaluatedName? o.evalMarker name = none
  | _ => True

/-- All nodes of a forest, at all depths, are plain. -/
def Plain (o : Options) (forest : List Node) : Prop := Every (PlainNode o) forest

instance (o : Options) : DecidablePred (PlainNode o)
  | .text _ => inferInstanceAs (Decidable (_ = _))
  | .element .. => inferInstanceAs (Decidable (_ ∧ _))
  | .comment _ | .directive _ | .fragment _ | .blank => inferInstanceAs (Decidable True)

instance (o : Options) (forest : List Node) : Decidable (Plain o forest) :=
  inferInstanceAs (Decidable (∀ n ∈ Node.preorders forest, PlainNode o n))

section Plain

variable {setting : Setting V W} {o : Options}

theorem Plain.lacks {tag : String} {forest : List Node} (plain : Plain o forest)
    (other : ∀ attrs cs, ¬ PlainNode o (.element tag attrs cs)) : Lacks tag forest := by
  intro n mem
  have here := plain n mem
  cases n with
  | element t attrs cs =>
    have apart : t ≠ tag := fun same => other attrs cs (same ▸ here)
    simpa [Node.hasTag, Node.tag?] using apart
  | _ => rfl

theorem isConstruct_of_plainNode {tag : String} {attrs : Attrs} {cs : List Node}
    (plain : PlainNode o (.element tag attrs cs)) : isConstruct o tag = false := by
  obtain ⟨control, construct, reference, -⟩ := plain
  simp only [List.mem_cons, List.not_mem_nil, not_or, or_false] at control
  simp only [Options.constructTags, List.map_cons, List.map_nil, List.mem_cons, not_or] at construct
  simp [isConstruct, isUse, control, construct, reference]

theorem inert_of_plain {forest : List Node} (plain : Plain o forest) : Inert o forest := by
  intro tag attrs cs seen
  have here := plain _ (seenAmong_subset forest seen)
  exact ⟨isConstruct_of_plainNode here, here.2.2.2⟩

/-- A text without an expression is put together from its pieces without a question to the
evaluator. -/
theorem exists_ends_pieceTexts {p : Pattern} {data : String} (absent : p.occursIn data = false)
    (ev : Evaluator V W) (scope : Scope V) : ∃ texts,
      (∀ w, Ends (pieceTexts ev scope (p.pieces data)) w texts w) ∧ String.join texts = data := by
  have nowhere : p.findFrom false 0 none data.toList [] = none := by
    simpa [Pattern.occursIn] using absent
  unfold Pattern.pieces
  rw [Pattern.piecesFrom, nowhere]
  dsimp only
  split
  · rename_i empty
    have nothing : data = "" := by simpa using empty
    exact ⟨[], fun w => ends_pure_iff.2 ⟨rfl, rfl⟩, nothing.symm⟩
  · refine ⟨[data], fun w => ?_, by simp [String.join]⟩
    rw [String.ofList_toList]
    exact ends_pure_iff.2 ⟨rfl, rfl⟩

theorem passes_expandText (place : Place V) {data : String}
    (absent : setting.options.contentPattern.occursIn data = false) :
    Passes setting.options (expandText setting place data) [.text data] := by
  obtain ⟨texts, computes, joined⟩ :=
    exists_ends_pieceTexts absent setting.evaluator place.scope
  refine passes_bind (passes_compute computes) ?_
  rw [joined]
  exact passes_pure _

/-- Nodes that stand alone and come out as they were do so one after another. -/
theorem passes_singles {deeper : ForestExpansion V W} {place : Place V}
    {es : List (Expandable V W)}
    (hes : ∀ e ∈ es, Passes setting.options (expandNode setting deeper place e) [e.node]) :
    Passes setting.options (expandItems setting.options (expandItem setting deeper place)
      (es.map .single)) (es.map Expandable.node) := by
  induction es with
  | nil => exact passes_pure []
  | cons e es ih =>
    have here := hes e List.mem_cons_self
    have later := ih fun e' he => hes e' (List.mem_cons_of_mem e he)
    have first : Passes setting.options (do
        let placed ← expandNode setting deeper place e
        noteStep setting.options placed
        return placed) [e.node] :=
      passes_bind here (passes_bind (passes_noteStep [e.node]) (passes_pure [e.node]))
    refine passes_bind (passes_within _ first) (passes_bind (passes_within _ later) ?_)
    exact passes_pure (e.node :: es.map Expandable.node)

theorem passes_expandRow {deeper : ForestExpansion V W} (place : Place V)
    {row : Place V → List (Expandable V W) → Expansion W (List Node)} {ns : List Node}
    (plain : Plain setting.options ns)
    (hes : ∀ e ∈ expandables row ns,
      Passes setting.options (expandNode setting deeper place e) [e.node]) :
    Passes setting.options (expandRow setting deeper place (expandables row ns)) ns := by
  have passes := passes_singles hes
  rw [nodes_expandables, ← rowOf_expandables (inert_of_plain plain)] at passes
  exact passes

/-- Every node of a plain forest comes out of its expansion as it was. -/
theorem passes_expandables {deeper : ForestExpansion V W} {ns : List Node}
    (plain : Plain setting.options ns) : ∀ e ∈ expandables (expandRow setting deeper) ns,
      ∀ place, Passes setting.options (expandNode setting deeper place e) [e.node] := by
  have key : ∀ e ∈ expandables (expandRow setting deeper) ns, Plain setting.options [e.node] →
      ∀ place, Passes setting.options (expandNode setting deeper place e) [e.node] := by
    refine expandables_induct (fun n leaf here place => ?_)
      (fun tag attrs cs ih here place => ?_) ns
    · unfold expandNode
      cases n with
      | text data => exact passes_expandText place here.self
      | element tag attrs cs => cases leaf
      | _ => exact passes_pure _
    · obtain ⟨self, inside⟩ := every_element_iff.1 here
      have hes : ∀ e ∈ expandables (expandRow setting deeper) cs,
          Passes setting.options (expandNode setting deeper (place.inner []) e) [e.node] :=
        fun e he => ih e he (Every.of_mem inside (mem_of_mem_expandables he)) _
      rw [expandNode, node_expandable]
      dsimp only
      rw [evaluateAttrs_of_none self.2.2.2, pure_bind,
        expandElement_of_plain (isConstruct_of_plainNode self)]
      exact passes_bind (passes_within _ (passes_expandRow _ inside hes)) (passes_pure _)
  exact fun e he => key e he (Every.of_mem plain (mem_of_mem_expandables he))

/-- A plain forest comes out of its expansion as it was. -/
theorem passes_expand {forest : List Node} (plain : Plain setting.options forest)
    (scope : Scope V) : Passes setting.options (expand setting scope forest) forest :=
  passes_whole (passes_expandRow _ plain fun e he => passes_expandables plain e he _)

end Plain

end Expand

/-! ### Compiling -/

open Expand Expand.Expansion

variable {setting : Setting V W}

theorem ends_compileForest_of_plain {forest : List Node} (plain : Plain setting.options forest)
    (scope : Scope V) (s : State W) : ∃ s', Ends (compileForest setting scope forest) s forest s' ∧
      Progress setting.options s s' := by
  obtain ⟨s', run, progress⟩ := passes_expand plain scope { s with steps := 0 }
  have expands : Ends (expandForest setting scope forest) s forest s' := by
    change (let r : Except Stop (List Node) × State W :=
        expand setting scope forest { s with steps := 0 }
      (r.1.mapError Stop.fault, r.2)) = _
    rw [run]
    rfl
  have title : Lacks "title" forest := plain.lacks fun _ _ h => h.1 (by simp)
  have tagOf (tag : String) (named : tag ∈ setting.options.constructTags.map Prod.snd) :
      Lacks tag forest := plain.lacks fun _ _ h => h.2.1 named
  have hpush := tagOf setting.options.pushTag (by simp [Options.constructTags])
  have hstack := tagOf setting.options.stackTag (by simp [Options.constructTags])
  refine ⟨s', ends_bind_iff.2 ⟨forest, s', expands, ?_⟩, ⟨progress.world, progress.registry,
    progress.notes⟩⟩
  rw [Stacks.resolve_of_lacks hpush hstack]
  dsimp only
  rw [Titles.relocate_of_lacks _ title]
  exact ends_pure_iff.2 ⟨rfl, rfl⟩

theorem ends_compileSource_of_plain {t : List Node} (formed : areWellFormed t = true)
    (plain : Plain setting.options t) (bare : setting.options.pretty = false) (scope : Scope V)
    (s : State W) : ∃ s', Ends (compileSource setting scope (render t)) s (render t) s' ∧
      Progress setting.options s s' := by
  obtain ⟨s', run, progress⟩ := ends_compileForest_of_plain plain scope s
  have reads : parse (render t) = .ok t := by
    rw [parse_eq_readAll, readAll_render formed]
    exact congrArg Except.ok (Builder.tree_takeAll_allEvents formed)
  unfold compileSource
  rw [reads]
  by_cases debug : setting.options.debug
  · have noted : Progress setting.options s
        { s' with notes := .compiled (render t) :: s'.notes } := by
      refine progress.trans ⟨rfl, rfl, [.compiled (render t)], rfl, fun n hn => ?_, fun quiet => ?_⟩
      · rw [List.mem_singleton.1 hn]
        rfl
      · rw [debug] at quiet
        cases quiet
    refine ⟨_, ends_bind_iff.2 ⟨t, s', run, ?_⟩, noted⟩
    simp only [debug, bare, if_true, Bool.false_eq_true, if_false]
    exact ends_bind_iff.2 ⟨(), _, ends_modify_iff.2 rfl, ends_pure_iff.2 ⟨rfl, rfl⟩⟩
  · refine ⟨s', ends_bind_iff.2 ⟨t, s', run, ?_⟩, progress⟩
    simp only [debug, bare, Bool.false_eq_true, if_false]
    exact ends_pure_iff.2 ⟨rfl, rfl⟩

namespace Compiler

/-- The HTML of a well-formed plain forest compiles to itself when no layout is asked for, with
every evaluator and whatever the registry has: the evaluator and the registry stay as they are, and
what is noted are steps and the output, if debugging is on. -/
theorem compile_plain (c : Compiler V W) (bindings : Bindings V) {t : List Node}
    (formed : areWellFormed t = true) (plain : Plain c.setting.options t)
    (bare : c.setting.options.pretty = false) :
    ∃ steps notes, c.compile (render t) bindings = (.ok (render t),
        { c with state :=
          { c.state with steps := steps, notes := notes ++ c.state.notes } }) ∧
      (∀ n ∈ notes, n.isProgress = true) ∧ (c.setting.options.debug = false → notes = []) := by
  obtain ⟨s', run, progress⟩ := ends_compileSource_of_plain formed plain bare
    (.root (c.context.overlay bindings)) c.state
  obtain ⟨notes, hnotes, work, silent⟩ := progress.notes
  refine ⟨s'.steps, notes, ?_, work, silent⟩
  have same : s' = { c.state with steps := s'.steps, notes := notes ++ c.state.notes } := by
    dsimp only
    rw [← progress.world, ← progress.registry, ← hnotes]
  rw [← same]
  unfold compile Compiler.run
  rw [show compileSource c.setting (.root (c.context.overlay bindings)) (render t) c.state =
    (.ok (render t), s') from run]

/-- A document whose texts and names come close to those of constructs. -/
def plainPage : List Node :=
  [.element "html" [] [
    .element "head" [] [.element "meta" [("eval", "x"), ("eval.y", "")] []],
    .element "body" [("on:eval", "%%x%%")] [
      .element "case" [("case", "1")] [.text "100 %% <if> &amp; %x%"], .comment "%%x%%",
      .element "xx-card" [("attr", "")] [.element "script" [] [.text "a %% b && c < d"]]]]]

theorem compile_plain_plainPage :
    let c : Compiler NameValue NameState :=
      make nameOptions nameLanguage {} [] (some (.table [("card", "<p>%%v%%</p>")])) {}
    areWellFormed plainPage = true ∧ Plain nameOptions plainPage ∧
      (c.compile (render plainPage) []).1 = .ok (render plainPage) := by
  intro c
  have formed : areWellFormed plainPage = true := by decide +kernel
  have plain : Plain c.setting.options plainPage := by decide +kernel
  obtain ⟨steps, notes, compiles, -, -⟩ := c.compile_plain [] formed plain rfl
  exact ⟨formed, plain, by rw [compiles]⟩

end Compiler

end HtmlTemplate
