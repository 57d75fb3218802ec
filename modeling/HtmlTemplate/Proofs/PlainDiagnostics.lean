import HtmlTemplate.Diagnostic
import HtmlTemplate.Proofs.Relocation
import Mathlib.Data.List.Forall2

/-!
# Diagnostics with and without colours

`Coloured t p` says that a text `t` is the text `p` with escape sequences of styles put into it;
removing escape sequences then gives `p` back (`stripColors_of_coloured`), since no sequence can
take a neighbouring character for its own. The coloured form of every diagnostic whose texts have
no escape character is its plain form with such sequences, also after components have been attached
to it, and only the first attachment that tells something changes one that tells nothing
(`colours_agree`).
-/

namespace HtmlTemplate.Terminal

/-! ### Texts with escape sequences -/

/-- A text has no escape character. -/
def Clean (s : String) : Prop := escapeChar ∉ s.toList

instance (s : String) : Decidable (Clean s) := inferInstanceAs (Decidable (_ ∉ _))

@[simp]
theorem clean_append {s t : String} : Clean (s ++ t) ↔ Clean s ∧ Clean t := by
  simp [Clean, String.toList_append]

theorem clean_intercalate {between : String} (clean : Clean between) {texts : List String}
    (each : ∀ t ∈ texts, Clean t) : Clean (between.intercalate texts) := by
  induction texts with
  | nil => rw [String.intercalate_nil]; decide
  | cons t texts ih =>
    have first := each t List.mem_cons_self
    have rest := ih fun u hu => each u (List.mem_cons_of_mem t hu)
    cases texts with
    | nil => rwa [String.intercalate_singleton]
    | cons u texts =>
      rw [String.intercalate_cons_cons]
      simp [first, clean, rest]

/-- Characters with escape sequences of styles put between others, and these others. -/
inductive Marked : List Char → List Char → Prop
  | nil : Marked [] []
  | plain {c : Char} {cs ds : List Char} (other : c ≠ escapeChar) (rest : Marked cs ds) :
    Marked (c :: cs) (c :: ds)
  | sequence {cs ds : List Char} (style : Style) (rest : Marked cs ds) :
    Marked (style.sequence.toList ++ cs) ds

namespace Marked

variable {cs cs' ds ds' : List Char}

theorem refl (clean : escapeChar ∉ cs) : Marked cs cs := by
  induction cs with
  | nil => exact .nil
  | cons c cs ih =>
    rw [List.mem_cons, not_or] at clean
    exact .plain (Ne.symm clean.1) (ih clean.2)

theorem append (h : Marked cs ds) (h' : Marked cs' ds') : Marked (cs ++ cs') (ds ++ ds') := by
  induction h with
  | nil => exact h'
  | plain other _ ih => exact .plain other ih
  | sequence style _ ih =>
    rw [List.append_assoc]
    exact .sequence style ih

end Marked

/-- A sequence is read up to its last character and no further. -/
theorem afterSequence?_sequence (style : Style) (cs : List Char) :
    ∃ body, style.sequence.toList = escapeChar :: body ∧ afterSequence? (body ++ cs) = some cs := by
  have read (body : List Char) (written : style.sequence.toList = escapeChar :: body)
      (same : afterSequence? (body ++ cs) = some cs) : ∃ body,
        style.sequence.toList = escapeChar :: body ∧ afterSequence? (body ++ cs) = some cs :=
    ⟨body, written, same⟩
  cases style <;> exact read _ rfl rfl

theorem stripChars_of_marked {cs ds : List Char} (h : Marked cs ds) :
    ∀ fuel, cs.length ≤ fuel → stripChars fuel cs = ds := by
  induction h with
  | nil => rintro (_ | fuel) - <;> rfl
  | @plain c cs ds other rest ih =>
    rintro (_ | fuel) enough
    · cases enough
    · rw [stripChars, if_neg other, ih fuel (Nat.le_of_succ_le_succ enough)]
  | @sequence cs ds style rest ih =>
    -- a sequence is removed in one step, so less fuel is used than it has characters
    obtain ⟨body, written, same⟩ := afterSequence?_sequence style cs
    rw [written, List.cons_append, List.length_cons, List.length_append]
    rintro (_ | fuel) enough
    · cases enough
    · rw [stripChars, if_pos rfl, same]
      exact ih fuel (by omega)

/-- A text is another one with escape sequences of styles put into it. -/
def Coloured (t p : String) : Prop := Marked t.toList p.toList

theorem stripColors_of_coloured {t p : String} (h : Coloured t p) : stripColors t = p := by
  have enough : t.toList.length ≤ t.length := Nat.le_of_eq String.length_toList
  rw [stripColors, stripChars_of_marked h _ enough, String.ofList_toList]

namespace Coloured

variable {t t' p p' : String}

theorem refl (clean : Clean p) : Coloured p p := Marked.refl clean

theorem append (h : Coloured t p) (h' : Coloured t' p') : Coloured (t ++ t') (p ++ p') := by
  rw [Coloured, String.toList_append, String.toList_append]
  exact Marked.append h h'

theorem intercalate {between : String} (clean : Clean between) {ts ps : List String}
    (h : List.Forall₂ Coloured ts ps) :
    Coloured (between.intercalate ts) (between.intercalate ps) := by
  induction h with
  | nil => exact .refl (by rw [String.intercalate_nil]; decide)
  | @cons t p ts ps first rest ih =>
    cases rest with
    | nil => simpa using first
    | cons _ _ =>
      rw [String.intercalate_cons_cons, String.intercalate_cons_cons]
      exact (first.append (.refl clean)).append ih

/-- Styles only put sequences around a text. -/
theorem colorize (styles : List Style) (h : Coloured t p) :
    Coloured (colorize true styles t) (colorize false styles p) := by
  have before (cs ds : List Char) (h : Marked cs ds) :
      Marked ((String.join (styles.map Style.sequence)).toList ++ cs) ds := by
    rw [String.toList_join]
    induction styles with
    | nil => exact h
    | cons style styles ih =>
      rw [List.map_cons, List.flatMap_cons, List.append_assoc]
      exact .sequence style ih
  have after : Marked Style.reset.sequence.toList [] := by
    simpa using Marked.sequence .reset Marked.nil
  unfold Terminal.colorize
  cases styles with
  | nil => exact h
  | cons style styles =>
    simp only [Bool.true_and, Bool.false_and, List.isEmpty_cons, Bool.not_false, if_true,
      Bool.false_eq_true, if_false]
    rw [Coloured, String.toList_append, String.toList_append, List.append_assoc,
      ← List.append_nil p.toList]
    exact before _ _ (Marked.append h after)

end Coloured

/-! ### Parts of messages -/

theorem coloured_errorHeader {code? : Option String} {t p : String}
    (clean : ∀ code ∈ code?, Clean code) (h : Coloured t p) :
    Coloured (errorHeader true code? t) (errorHeader false code? p) := by
  cases code? with
  | none => exact h
  | some code =>
    unfold errorHeader
    dsimp only
    split
    · exact h
    · have marked := (Coloured.refl (clean code rfl)).colorize [.brightRed, .bold]
      exact (marked.append (.refl (by decide))).append h

theorem coloured_componentStack {stack : List String} (clean : ∀ name ∈ stack, Clean name) :
    Coloured (componentStack true stack) (componentStack false stack) := by
  unfold componentStack
  split
  · exact .refl (by decide)
  · refine .intercalate (by decide) (.cons ((Coloured.refl (by decide)).colorize [.dim]) ?_)
    rw [List.forall₂_map_left_iff, List.forall₂_map_right_iff]
    refine List.forall₂_same.2 fun name mem => ?_
    exact (Coloured.refl (by decide)).append ((Coloured.refl (clean name mem)).colorize [.cyan])

end HtmlTemplate.Terminal

namespace HtmlTemplate

open Terminal

/-- What is found for a misspelt name is one of the candidates. -/
theorem Text.mem_of_closest {word found : String} {candidates : List String}
    (h : Text.closest word candidates = some found) : found ∈ candidates := by
  obtain ⟨best, chosen, rfl⟩ := Option.map_eq_some_iff.1 h
  have close := (Titles.mem_of_foldl_eq_some (fun best? t => ?_) _ none chosen).resolve_right
    (by simp)
  · obtain ⟨candidate, mem, rfl⟩ := List.mem_map.1 (List.mem_filter.1 close).1
    exact mem
  · cases best? with
    | none => exact .inl rfl
    | some b =>
      dsimp only
      split
      · exact .inl rfl
      · exact .inr rfl

namespace Problem

/-- The texts that a problem is about. -/
def texts : Problem → List String
  | other message => [message]
  | configuration message => [message]
  | structural message => [message]
  | componentNotFound name tag? searched => name :: tag?.toList ++ searched
  | missingAttribute tag attributes => tag :: attributes
  | danglingBranch tag => [tag]
  | runtime message expression? values =>
    message :: expression?.toList ++ values.flatMap fun v => [v.name, v.text, v.kind]
  | invalidValue message expression? v =>
    message :: expression?.toList ++ [v.name, v.text, v.kind]
  | componentDepth message expression? values =>
    message :: expression?.toList ++ values.flatMap fun v => [v.name, v.text, v.kind]
  | undefinedVariable name expression? available => name :: expression?.toList ++ available

theorem clean_given {text? : Option String} (clean : ∀ text ∈ text?, Clean text) :
    ∀ text ∈ given text?, Clean text := fun text mem => clean text (Option.mem_filter_iff.1 mem).1

theorem clean_abbreviate {text : String} (clean : Clean text) : Clean (abbreviate text) := by
  unfold abbreviate
  dsimp only
  split
  · rw [clean_append, Clean, String.toList_ofList]
    exact ⟨fun mem => clean (List.mem_of_mem_take mem), by decide⟩
  · exact clean

theorem clean_inQuotes {text : String} (clean : Clean text) : Clean (inQuotes text) := by
  rw [inQuotes, clean_append, clean_append]
  exact ⟨⟨by decide, clean⟩, by decide⟩

theorem clean_withContext {message : String} {expression? : Option String}
    {values : List ShownValue} (clean : Clean message)
    (expression : ∀ text ∈ expression?, Clean text)
    (each : ∀ v ∈ values, Clean v.name ∧ Clean v.text ∧ Clean v.kind) :
    Clean (withContext message expression? values) := by
  refine clean_intercalate (by decide) fun line mem => ?_
  rcases List.mem_cons.1 mem with rfl | mem
  · exact clean
  rcases List.mem_append.1 mem with mem | mem
  · obtain ⟨text, given, rfl⟩ := List.mem_map.1 mem
    rw [clean_append]
    exact ⟨by decide, clean_given expression text (Option.mem_toList.1 given)⟩
  · obtain ⟨v, among, rfl⟩ := List.mem_map.1 mem
    obtain ⟨name, text, kind⟩ := each v among
    simp only [clean_append]
    exact ⟨⟨⟨⟨⟨⟨by decide, name⟩, by decide⟩, clean_abbreviate text⟩, by decide⟩, kind⟩, by decide⟩

/-- The message of a problem holds no sequences but those around a suggestion. -/
theorem coloured_message {p : Problem} (clean : ∀ s ∈ p.texts, Clean s) :
    Coloured (p.message true) (p.message false) := by
  cases p with
  | other text => exact Coloured.refl (p := text) (clean text (by simp [texts]))
  | configuration text => exact Coloured.refl (p := text) (clean text (by simp [texts]))
  | structural text => exact Coloured.refl (p := text) (clean text (by simp [texts]))
  | danglingBranch tag =>
    change Coloured ("Unexpected <" ++ tag ++ ">") ("Unexpected <" ++ tag ++ ">")
    refine .refl ?_
    simp only [clean_append]
    exact ⟨⟨by decide, clean tag (by simp [texts])⟩, by decide⟩
  | missingAttribute tag attributes =>
    have plain (colors : Bool) : message colors (missingAttribute tag attributes) =
        "<" ++ tag ++ "> requires the " ++ " and ".intercalate (attributes.map inQuotes) ++
          (if attributes.length = 1 then " attribute" else " attributes") := rfl
    rw [plain, plain]
    refine .refl ?_
    simp only [clean_append]
    refine ⟨⟨⟨⟨by decide, clean tag (by simp [texts])⟩, by decide⟩, ?_⟩, by split <;> decide⟩
    refine clean_intercalate (by decide) fun quoted mem => ?_
    obtain ⟨attribute_, given, rfl⟩ := List.mem_map.1 mem
    exact clean_inQuotes (clean attribute_ (by simp [texts, given]))
  | componentNotFound name tag? searched =>
    refine (Coloured.append (.refl ?_) (.refl ?_)).append (.refl ?_)
    · rw [clean_append]
      exact ⟨by decide, clean_inQuotes (clean name (by simp [texts]))⟩
    · split
      · rename_i tag found
        have known : tag ∈ tag? := (Option.mem_filter_iff.1 found).1
        simp only [clean_append]
        exact ⟨⟨by decide, clean tag (by simp [texts, Option.mem_def.1 known])⟩, by decide⟩
      · decide
    · split
      · decide
      · rw [clean_append]
        exact ⟨by decide, clean_intercalate (by decide) fun path mem =>
          clean path (by simp [texts, mem])⟩
  | runtime message expression? values =>
    exact .refl (clean_withContext (clean message (by simp [texts]))
      (fun text mem => clean text (by simp [texts, Option.mem_def.1 mem]))
      fun v mem => ⟨clean v.name (by simp [texts]; grind), clean v.text (by simp [texts]; grind),
        clean v.kind (by simp [texts]; grind)⟩)
  | componentDepth message expression? values =>
    exact .refl (clean_withContext (clean message (by simp [texts]))
      (fun text mem => clean text (by simp [texts, Option.mem_def.1 mem]))
      fun v mem => ⟨clean v.name (by simp [texts]; grind), clean v.text (by simp [texts]; grind),
        clean v.kind (by simp [texts]; grind)⟩)
  | invalidValue message expression? v =>
    refine .refl (clean_withContext (clean message (by simp [texts]))
      (fun text mem => clean text (by simp [texts, Option.mem_def.1 mem])) fun v' mem => ?_)
    obtain rfl := List.mem_singleton.1 mem
    exact ⟨clean _ (by simp [texts]), clean _ (by simp [texts]), clean _ (by simp [texts])⟩
  | undefinedVariable name expression? available =>
    -- only a suggestion is coloured, and it is one of the names that are available
    refine (Coloured.append (.refl ?_) ?_).append (.refl ?_)
    · rw [clean_append]
      exact ⟨by decide, clean_inQuotes (clean name (by simp [texts]))⟩
    · split
      · rename_i found closest
        have suggested : Clean found :=
          clean found (by simp [texts, Text.mem_of_closest closest])
        have marked := (Coloured.refl suggested).colorize [.brightGreen, .bold]
        have quote : Coloured "'" "'" := .refl (by decide)
        exact ((Coloured.refl (by decide)).append ((quote.append marked).append quote)).append
          (.refl (by decide))
      · exact .refl (by decide)
    · split
      · rename_i expression found
        have known : expression ∈ expression? := (Option.mem_filter_iff.1 found).1
        rw [clean_append]
        exact ⟨by decide, clean expression (by simp [texts, Option.mem_def.1 known])⟩
      · decide

/-- The hint that goes with a problem says nothing that the problem does not. -/
theorem clean_standardHint {p : Problem} (clean : ∀ s ∈ p.texts, Clean s) :
    ∀ hint ∈ p.standardHint?, Clean hint := by
  intro hint mem
  cases p with
  | danglingBranch tag =>
    obtain rfl := Option.some.inj mem
    simp only [clean_append]
    exact ⟨⟨⟨by decide, clean tag (by simp [texts])⟩, by decide⟩, by decide⟩
  | undefinedVariable name expression? available =>
    obtain rfl := Option.some.inj mem
    decide
  | _ => cases mem

end Problem

/-! ### Diagnostics -/

namespace Diagnostic

/-- The texts that a diagnostic is made of: those that its problem is about, the components, and a
hint that does not come with the problem. -/
def texts (d : Diagnostic) : List String :=
  d.problem.texts ++ d.stack ++
    (if d.hint? = d.problem.standardHint? then [] else d.hint?.toList)

theorem clean_hint {d : Diagnostic} (clean : ∀ s ∈ d.texts, Clean s) :
    ∀ hint ∈ d.hint?, Clean hint := by
  intro hint mem
  by_cases standard : d.hint? = d.problem.standardHint?
  · rw [standard] at mem
    exact Problem.clean_standardHint (fun s mem => clean s (by simp [texts, mem])) hint mem
  · refine clean hint (List.mem_append_right _ ?_)
    rw [if_neg standard]
    exact Option.mem_toList.2 mem

theorem coloured_decoration {d : Diagnostic} (clean : ∀ s ∈ d.texts, Clean s) :
    List.Forall₂ Coloured (d.decoration true) (d.decoration false) := by
  refine List.rel_append ?_ ?_
  · split
    · exact .nil
    · refine .cons (coloured_componentStack fun name mem => clean name ?_) .nil
      simp [texts, mem]
  · rw [List.forall₂_map_left_iff, List.forall₂_map_right_iff]
    refine List.forall₂_same.2 fun hint mem => ?_
    have given : hint ∈ d.hint? := (Option.mem_filter_iff.1 (Option.mem_toList.1 mem)).1
    have label := (Coloured.refl (p := "Hint:") (by decide)).colorize [.green]
    exact (((Coloured.refl (by decide)).append label).append (.refl (by decide))).append
      (.refl (clean_hint clean hint given))

/-- Both written forms of a diagnostic with colours are those without, with sequences in them. -/
theorem coloured_forms {d : Diagnostic} (clean : ∀ s ∈ d.texts, Clean s) :
    Coloured (d.text true) (d.text false) ∧ Coloured (d.compact true) (d.compact false) := by
  have message : Coloured (d.message true) (d.message false) :=
    Problem.coloured_message fun s mem => clean s (by simp [texts, mem])
  refine ⟨.intercalate (by decide) (.cons message (coloured_decoration clean)),
    .intercalate (by decide) (.cons (coloured_errorHeader (fun code mem => ?_) message)
      (coloured_decoration clean))⟩
  obtain ⟨c, -, rfl⟩ := Option.map_eq_some_iff.1 (Option.mem_def.1 mem)
  cases c <;> decide

/-! ### Attaching components -/

/-- A diagnostic after components have been attached to it, one attachment after another. -/
def attachAll (d : Diagnostic) (traces : List (List String)) : Diagnostic :=
  traces.foldl attach d

/-- The first attachment that is not empty tells where a problem arose, unless that is known. -/
theorem attachAll_eq (d : Diagnostic) (traces : List (List String)) :
    d.attachAll traces = if d.stack = [] then
      { d with stack := (traces.find? fun stack => !stack.isEmpty).getD [] } else d := by
  induction traces generalizing d with
  | nil =>
    obtain ⟨problem, stack, hint?⟩ := d
    split
    · rename_i none
      obtain rfl : stack = [] := none
      rfl
    · rfl
  | cons stack traces ih =>
    rw [attachAll, List.foldl_cons, ← attachAll, ih]
    obtain ⟨problem, _ | ⟨name, names⟩, hint?⟩ := d
    · cases stack <;> simp [attach]
    · simp [attach]

/-- An attachment changes something exactly when it is not empty and nothing was known before. -/
theorem attach_ne_iff (d : Diagnostic) (before : List (List String)) (stack : List String) :
    (d.attachAll before).attach stack ≠ d.attachAll before ↔
      d.stack = [] ∧ stack ≠ [] ∧ ∀ earlier ∈ before, earlier = [] := by
  rw [attachAll_eq]
  obtain ⟨problem, _ | ⟨name, names⟩, hint?⟩ := d
  · cases found : before.find? fun stack => !stack.isEmpty with
    | none =>
      have all : ∀ earlier ∈ before, earlier = [] := by simpa using List.find?_eq_none.1 found
      cases stack with
      | nil => simp [attach]
      | cons first rest => simpa [attach] using all
    | some told =>
      have some : told ≠ [] := by simpa using List.find?_some found
      have not_all : ¬ ∀ earlier ∈ before, earlier = [] := fun all =>
        some (all told (List.mem_of_find?_eq_some found))
      simp [attach, some, not_all]
  · simp [attach]

end Diagnostic

/-- Of every diagnostic whose texts have no escape character, after any attachments, both written
forms with colours are those without colours once escape sequences are removed. Among the
attachments only the first one that is not empty changes anything, and only when nothing was known
before; it records the components. -/
theorem Diagnostic.colours_agree (d : Diagnostic) (clean : ∀ s ∈ d.texts, Clean s)
    (traces : List (List String)) (clean_traces : ∀ stack ∈ traces, ∀ name ∈ stack, Clean name) :
    let attached := d.attachAll traces
    stripColors (attached.text true) = attached.text false ∧
      stripColors (attached.compact true) = attached.compact false ∧
      (attached = if d.stack = [] then
        { d with stack := (traces.find? fun stack => !stack.isEmpty).getD [] } else d) ∧
      ∀ before stack after, traces = before ++ stack :: after →
        ((d.attachAll before).attach stack ≠ d.attachAll before ↔
          d.stack = [] ∧ stack ≠ [] ∧ ∀ earlier ∈ before, earlier = []) := by
  intro attached
  have whole := d.attachAll_eq traces
  have still : ∀ s ∈ attached.texts, Clean s := by
    intro s mem
    change s ∈ (d.attachAll traces).texts at mem
    rw [whole] at mem
    split at mem
    · simp only [texts, List.mem_append] at mem
      rcases mem with (mem | mem) | mem
      · exact clean s (by simp only [texts, List.mem_append, mem, true_or])
      · cases found : traces.find? fun stack => !stack.isEmpty with
        | none => simp [found] at mem
        | some stack =>
          rw [found, Option.getD_some] at mem
          exact clean_traces stack (List.mem_of_find?_eq_some found) s mem
      · exact clean s (by simp only [texts, List.mem_append]; exact .inr mem)
    · exact clean s mem
  obtain ⟨text, compact⟩ := coloured_forms still
  exact ⟨stripColors_of_coloured text, stripColors_of_coloured compact, whole,
    fun before stack _ _ => d.attach_ne_iff before stack⟩

/-- A misspelt variable, with a suggestion, in a component. -/
def misspelt : Diagnostic where
  problem := .undefinedVariable "titl" (some "titl.upper()") ["title", "page"]

theorem Diagnostic.colours_agree_misspelt :
    let traces := [[], ["page", "card"], ["page"]]
    (∀ s ∈ misspelt.texts, Clean s) ∧ (∀ stack ∈ traces, ∀ name ∈ stack, Clean name) ∧
      stripColors ((misspelt.attachAll traces).text true) = (misspelt.attachAll traces).text false ∧
      misspelt.attachAll traces = { misspelt with stack := ["page", "card"] } := by
  intro traces
  have clean : ∀ s ∈ misspelt.texts, Clean s := by decide
  have clean_traces : ∀ stack ∈ traces, ∀ name ∈ stack, Clean name := by decide
  obtain ⟨agree, -, whole, -⟩ := misspelt.colours_agree clean traces clean_traces
  exact ⟨clean, clean_traces, agree, whole⟩

end HtmlTemplate
