import HtmlTemplate.Compiler
import HtmlTemplate.Proofs.NameLanguage
import HtmlTemplate.Proofs.Outline
import HtmlTemplate.Proofs.SpelledExpansion
import HtmlTemplate.Proofs.StackResidue

/-!
# Compiled output is the compiled tree

A template that compiles without layout gives what is written of a tree, and that is read with the
elements of the tree (`Compiler.compileIn_keeps_outline`), whatever values expressions have: texts
and values of attributes are escaped. Only what is written as it is can be read as something else,
that is the text of raw text elements and tags that are computed; there the tree must be sturdy.
-/

namespace HtmlTemplate

open HtmlTemplate.Markup HtmlTemplate.Expand HtmlTemplate.Expand.Expansion

variable {V W : Type}

/-! ### The tree of a template -/

/-- A template expands, and what it expands to is rid of stacks and of titles in the wrong place. -/
theorem ends_compileForest {setting : Setting V W} {scope : Scope V} {forest t : List Node}
    {s s' : State W} (run : Ends (compileForest setting scope forest) s t s') :
    ∃ expanded s₁, Ends (expand setting scope forest) { s with steps := 0 } expanded s₁ ∧
      t = Titles.relocate setting.options.titleRule
        (Stacks.resolve setting.options.pushTag setting.options.stackTag expanded).forest := by
  unfold compileForest at run
  obtain ⟨expanded, s₁, hexpand, rest⟩ := ends_bind_iff.1 run
  refine ⟨expanded, s₁, ?_, ?_⟩
  · change @Eq (Except Fault (List Node) × State W)
      (let r : Except Stop (List Node) × State W :=
        expand setting scope forest { s with steps := 0 }
      (r.1.mapError Stop.fault, r.2)) _ at hexpand
    unfold Ends
    rcases run : (expand setting scope forest { s with steps := 0 } :
      Except Stop (List Node) × State W) with ⟨e | b, s₂⟩
    · rw [run] at hexpand
      simp [mapError_error] at hexpand
    · rw [run] at hexpand
      simpa [mapError_ok] using hexpand
  · dsimp only at rest
    split at rest
    · exact absurd rest not_ends_throw
    · exact (ends_pure_iff.1 rest).1.symm

theorem spelled_compileForest {setting : Setting V W} (keeps : setting.evaluator.KeepsNames)
    {scope : Scope V} {forest t : List Node} {s s' : State W} (spelled : Every Spelled forest)
    (run : Ends (compileForest setting scope forest) s t s') : Every Spelled t := by
  obtain ⟨expanded, s₁, hexpand, rfl⟩ := ends_compileForest run
  have seen := spelled_expand keeps scope (.of_every spelled) _ expanded s₁ hexpand
  have open_ : ∀ cs, ¬ Spelled (.fragment cs) := fun _ h => h
  have head : Spelled (.element "head" [] []) := ⟨by simp [Bindings.names], List.nodup_nil⟩
  exact Titles.every_relocate shallow_spelled head _
    (Stacks.every_resolve shallow_spelled (every_of_seen open_ expanded seen))

/-- Without layout a template gives what is written of its tree. -/
theorem ends_compileSource {setting : Setting V W} {scope : Scope V} {source html : String}
    {s s' : State W} (plain : setting.options.pretty = false)
    (run : Ends (compileSource setting scope source) s html s') :
    ∃ forest t s₁, parse source = .ok forest ∧ Ends (compileForest setting scope forest) s t s₁ ∧
      html = render t := by
  unfold compileSource at run
  cases hparse : parse source with
  | error e =>
    rw [hparse] at run
    exact absurd run not_ends_throw
  | ok forest =>
    rw [hparse] at run
    obtain ⟨t, s₁, htree, rest⟩ := ends_bind_iff.1 run
    refine ⟨forest, t, s₁, rfl, htree, ?_⟩
    simp only [plain, Bool.false_eq_true, if_false] at rest
    split at rest
    · obtain ⟨_, _, -, rest⟩ := ends_bind_iff.1 rest
      exact (ends_pure_iff.1 rest).1.symm
    · exact (ends_pure_iff.1 rest).1.symm

namespace Compiler

/-- What a template compiles to without layout is written of a tree, and when the elements of the
tree are sturdy, it is read with the same elements, whatever the values of expressions are. -/
theorem compileIn_keeps_outline {c c' : Compiler V W} (keeps : c.setting.evaluator.KeepsNames)
    (plain : c.setting.options.pretty = false) {source html : String} {context named : Bindings V}
    (done : c.compileIn source context named = (.ok html, c')) :
    let scope : Scope V := .root (c.context.overlay (context.overlay named))
    ∃ forest t s, parse source = .ok forest ∧
      Ends (compileForest c.setting scope forest) c.state t s ∧ html = render t ∧
      (Every Sturdy t → ∃ u, parse html = .ok u ∧ outline u = outline t) := by
  intro scope
  unfold compileIn at done
  split at done
  · cases done
  · have run : Ends (compileSource c.setting scope source) c.state html c'.state := by
      obtain ⟨result, after⟩ := Prod.mk.inj done
      rw [← after]
      exact Prod.ext result rfl
    obtain ⟨forest, t, s, hparse, htree, rfl⟩ := ends_compileSource plain run
    have spelled := spelled_compileForest keeps (spelled_of_parse hparse) htree
    exact ⟨forest, t, s, hparse, htree, rfl, parse_render_of_sturdy spelled⟩

end Compiler

theorem nameLanguage_keepsNames : nameLanguage.KeepsNames := by
  rintro given scope sources w ⟨inner, left⟩ w' run
  simp only [runScripts, ends_bind_iff, ends_modifyGet_iff, ends_modify_iff, ends_get_iff,
    ends_pure_iff] at run
  obtain ⟨props, _, hopen, _, _, -, _, _, -, w₁, _, -, hleft, -⟩ := run
  obtain ⟨rfl, -⟩ := Prod.ext_iff.1 hopen
  obtain ⟨-, rfl⟩ := Prod.mk.inj hleft
  exact (List.filter_sublist.map _).subset

namespace Compiler

/-- A compiler whose bindings are full of markup, and a component that takes attributes. -/
def markupCompiler : Compiler NameValue NameState :=
  make nameOptions nameLanguage {}
    [("v", .text "</script><b></b>"), ("q", .text "\"></p>&amp;"), ("t", .text "h2")]
    (some (.table [("card", "<p attr>%%q%%<yield></yield></p>")])) {}

/-- A template with values in texts, in attributes, in a raw text element and in a tag. -/
def markupSource : String :=
  "<dynamic tag=\"t\" eval:id=\"v\"><br>%%v%%<style>p</b>%%q%%</style></dynamic>" ++
    "<x-card eval:id=\"q\">%%v%%</x-card>"

/-- The tree of the template with values. -/
def markupTree : List Node :=
  [.element "h2" [("id", "</script><b></b>")]
      [.element "br" [] [], .text "</script><b></b>",
        .element "style" [] [.text "p</b>\"></p>&amp;"]],
    .element "p" [("id", "\"></p>&amp;")] [.text "\"></p>&amp;", .text "</script><b></b>"]]

theorem compileIn_keeps_outline_markupSource :
    ∃ html c' u, markupCompiler.compileIn markupSource [] [] = (.ok html, c') ∧
      html = render markupTree ∧ parse html = .ok u ∧ outline u = outline markupTree := by
  have compiles : (markupCompiler.compileIn markupSource [] []).1.toOption =
      some (render markupTree) := by decide +kernel
  obtain ⟨forest, t, s, hparse, htree, written, reads⟩ :=
    compileIn_keeps_outline (c := markupCompiler) nameLanguage_keepsNames rfl
      (Prod.ext (eq_ok_of_toOption compiles) rfl)
  have expands : (parse markupSource).toOption.bind (fun forest =>
      (compileForest markupCompiler.setting (.root markupCompiler.context) forest
        markupCompiler.state).1.toOption) = some markupTree := by decide +kernel
  rw [hparse] at expands
  obtain ⟨rfl, -⟩ := ends_unique htree (ends_of_toOption expands)
  have sturdy : ∀ n ∈ Node.preorders markupTree, isSturdy n = true := by decide +kernel
  obtain ⟨u, hu, same⟩ := reads fun n hn => sturdy_of_isSturdy (sturdy n hn)
  exact ⟨_, _, u, Prod.ext (eq_ok_of_toOption compiles) rfl, rfl, hu, same⟩

/-- A value can end the raw text element that it stands in, as it is written there as it is. -/
theorem value_ends_raw_text :
    ∃ forest html c' t s u, parse "<script>%%v%%</script>" = .ok forest ∧
      markupCompiler.compileIn "<script>%%v%%</script>" [] [] = (.ok html, c') ∧
      Ends (compileForest markupCompiler.setting (.root markupCompiler.context) forest)
        markupCompiler.state t s ∧ html = render t ∧
      parse html = .ok u ∧ outline t = [.element "script" [] []] ∧
      outline u = [.element "script" [] [], .element "b" [] []] := by
  let forest : List Node := [.element "script" [] [.text "%%v%%"]]
  let t : List Node := [.element "script" [] [.text "</script><b></b>"]]
  have compiles : (markupCompiler.compileIn "<script>%%v%%</script>" [] []).1.toOption =
      some (render t) := by decide +kernel
  have expands : (compileForest markupCompiler.setting (.root markupCompiler.context) forest
      markupCompiler.state).1.toOption = some t := by decide +kernel
  exact ⟨forest, _, _, t, _, [.element "script" [] [], .element "b" [] []], by decide +kernel,
    Prod.ext (eq_ok_of_toOption compiles) rfl, ends_of_toOption expands, rfl, by decide +kernel,
    by decide +kernel, by decide +kernel⟩

end Compiler

end HtmlTemplate
