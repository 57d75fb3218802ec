import HtmlTemplate.Proofs.RoundTrip

/-!
# What a builder keeps

A property of lists of nodes that holds of the empty list and is kept by each way in which a builder
puts a node to others (`Built`) holds of the nodes of a tree (`Built.tree`), whatever events the
builder takes. Of the nodes only the directives depend on the events.
-/

namespace HtmlTemplate.Markup

/-- The data of the directive that an event puts into a tree. -/
def Event.directive? : Event → Option String
  | .declaration text => some ("!" ++ text)
  | .instruction text => some ("?" ++ text)
  | .markedSection text => some ("![" ++ text ++ "]]")
  | _ => none

/-- All directives that an event puts into a tree satisfy `P`. -/
def Event.Directs (P : String → Prop) (e : Event) : Prop := ∀ data ∈ e.directive?, P data

/-- A property of lists of nodes that is kept when nodes are put to others, the directives among
them with data that satisfy `P`. -/
structure Built (P : String → Prop) (I : List Node → Prop) : Prop where
  nil : I []
  reverse : ∀ {ns}, I ns → I ns.reverse
  element : ∀ {cs ns} tag attrs, I cs → I ns → I (.element tag attrs cs :: ns)
  comment : ∀ {ns} data, I ns → I (.comment data :: ns)
  directive : ∀ {ns data}, P data → I ns → I (.directive data :: ns)
  text : ∀ {ns} data, startsWithText ns = false → I ns → I (.text data :: ns)
  /-- More text is put to a text. -/
  longer : ∀ {ns data} data', I (.text data :: ns) → I (.text data' :: ns)

namespace Builder

/-- A property of all lists of nodes of a builder. -/
structure Holds (I : List Node → Prop) (b : Builder) : Prop where
  top : I b.top
  opened : ∀ e ∈ b.opened, I e.before

variable {P : String → Prop} {I : List Node → Prop} {b : Builder}

theorem Holds.current (h : b.Holds I) : I b.current := by
  obtain ⟨top, _ | ⟨e, es⟩⟩ := b
  · exact h.top
  · exact h.opened e List.mem_cons_self

theorem Holds.setCurrent (h : b.Holds I) {ns : List Node} (holds : I ns) :
    (b.setCurrent ns).Holds I := by
  obtain ⟨top, _ | ⟨e, es⟩⟩ := b
  · exact ⟨holds, h.opened⟩
  · refine ⟨h.top, fun e' he' => ?_⟩
    rcases List.mem_cons.1 he' with rfl | he'
    · exact holds
    · exact h.opened e' (List.mem_cons_of_mem e he')

theorem Holds.addText (h : b.Holds I) (built : Built P I) (data : String) :
    (b.addText data).Holds I := by
  have current := h.current
  unfold Builder.addText
  split
  · rename_i last rest shown
    rw [shown] at current
    exact h.setCurrent (built.longer _ current)
  · rename_i other
    refine h.setCurrent (built.text data ?_ current)
    cases shown : b.current with
    | nil => rfl
    | cons n ns =>
      cases n with
      | text last => exact absurd shown (other last ns)
      | _ => rfl

theorem Holds.closeInnermost (h : b.Holds I) (built : Built P I) : b.closeInnermost.Holds I := by
  obtain ⟨top, _ | ⟨e, es⟩⟩ := b
  · exact h
  · have rest : Holds I ⟨top, es⟩ :=
      ⟨h.top, fun e' he' => h.opened e' (List.mem_cons_of_mem e he')⟩
    have inside := built.reverse (h.opened e List.mem_cons_self)
    exact rest.setCurrent (built.element _ _ inside rest.current)

theorem Holds.closeMany (h : b.Holds I) (built : Built P I) (n : Nat) :
    (closeMany n b).Holds I := by
  induction n generalizing b with
  | zero => exact h
  | succ n ih => exact ih (h.closeInnermost built)

theorem Holds.take (h : b.Holds I) (built : Built P I) {e : Event} (directs : e.Directs P) :
    (b.take e).Holds I := by
  have bare (tag : String) (attrs : Attrs) : (b.add (.element tag attrs [])).Holds I :=
    h.setCurrent (built.element tag attrs built.nil h.current)
  have directive {data : String} (good : P data) : (b.add (.directive data)).Holds I :=
    h.setCurrent (built.directive good h.current)
  cases e with
  | startTag tag attrs =>
    rw [Builder.take]
    split
    · exact bare tag _
    · refine ⟨h.top, fun e he => ?_⟩
      rcases List.mem_cons.1 he with rfl | he
      · exact built.nil
      · exact h.opened e he
  | emptyTag tag attrs => exact bare tag _
  | endTag tag =>
    change (b.close tag).Holds I
    unfold Builder.close
    split
    · exact h.closeMany built _
    · exact h
  | data text => exact h.addText built text
  | comment text => exact h.setCurrent (built.comment text h.current)
  | declaration text => exact directive (directs _ rfl)
  | instruction text => exact directive (directs _ rfl)
  | markedSection text => exact directive (directs _ rfl)

theorem Holds.takeAll (h : b.Holds I) (built : Built P I) {events : List Event}
    (directs : ∀ e ∈ events, e.Directs P) : (b.takeAll events).Holds I := by
  induction events generalizing b with
  | nil => exact h
  | cons e events ih =>
    exact ih (h.take built (directs e List.mem_cons_self)) fun e he =>
      directs e (List.mem_cons_of_mem _ he)

end Builder

/-- What is kept holds of a tree, at its top. -/
theorem Built.tree {P : String → Prop} {I : List Node → Prop} (built : Built P I)
    {events : List Event} (directs : ∀ e ∈ events, e.Directs P) :
    I (Builder.takeAll {} events).tree := by
  have start : Builder.Holds I {} := ⟨built.nil, fun _ mem => absurd mem List.not_mem_nil⟩
  exact built.reverse ((start.takeAll built directs).closeMany built _).top

end HtmlTemplate.Markup
