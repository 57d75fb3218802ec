import HtmlTemplate.Proofs.ScannedForms

/-!
# Trees that sources give

Every node of a parsed tree is fit to be written (`fit_of_parse`): it is legible, a void element has
no content, and a raw text element holds nothing but text. The builder keeps its nodes fit at each
event; what ties it to the scanner is that the innermost open element is a raw text element exactly
while the scanner is in raw text, and that no end tag of that element begins in the text it has so
far (`Builder.InMode`).
-/

namespace HtmlTemplate.Markup

open HtmlTemplate.Text Node

/-! ### Fit nodes -/

/-- What a node of a parsed tree is like. -/
structure Fit (n : Node) : Prop where
  legible : Legible n
  void : ∀ tag, n.tag? = some tag → isVoid tag = true → n.children = []
  raw : ∀ tag, n.tag? = some tag → isRawText tag = true → ∀ c ∈ n.children, isText c = true

/-- Forests of fit nodes, at all depths. -/
def AllFit (ns : List Node) : Prop := ∀ n ∈ preorders ns, Fit n

theorem allFit_nil : AllFit [] := every_nil

theorem allFit_cons {n : Node} {ns : List Node} :
    AllFit (n :: ns) ↔ (∀ m ∈ n.preorder, Fit m) ∧ AllFit ns := by
  simp only [AllFit, preorders, List.mem_append, or_imp, forall_and]

theorem AllFit.reverse {ns : List Node} (h : AllFit ns) : AllFit ns.reverse :=
  Every.subset h fun _ => List.mem_reverse.1

/-- A node that is no element and holds no others is fit when it is legible. -/
theorem fit_leaf {n : Node} (legible : Legible n) (leaf : n.tag? = none) : Fit n :=
  ⟨legible, fun tag named => by simp [leaf] at named, fun tag named => by simp [leaf] at named⟩

theorem fit_text (data : String) : Fit (.text data) := fit_leaf trivial rfl

theorem allFit_joinData {before : List Node} (h : AllFit before) (data : String) :
    AllFit (Builder.joinData before data) := by
  have text (data : String) : ∀ m ∈ (Node.text data).preorder, Fit m := by
    simp [preorder, fit_text]
  unfold Builder.joinData
  split
  · exact h
  · split
    · exact allFit_cons.2 ⟨text _, (allFit_cons.1 h).2⟩
    · exact allFit_cons.2 ⟨text _, h⟩

/-! ### Builders -/

/-- An open element whose start tag can be written and whose children so far are fit. -/
structure OpenFit (e : OpenElement) : Prop where
  tag : ReadableTag e.tag
  names : ∀ a ∈ e.attrs, ReadableName a.1
  distinct : e.attrs.names.Nodup
  notVoid : isVoid e.tag = false
  before : AllFit e.before

namespace Builder

/-- A builder whose nodes are fit. -/
structure Fits (b : Builder) : Prop where
  top : AllFit b.top
  opened : ∀ e ∈ b.opened, OpenFit e

theorem fits_empty : Fits {} := ⟨allFit_nil, fun _ mem => absurd mem List.not_mem_nil⟩

theorem Fits.current {b : Builder} (h : b.Fits) : AllFit b.current := by
  obtain ⟨top, _ | ⟨e, es⟩⟩ := b
  · exact h.top
  · exact (h.opened e List.mem_cons_self).before

theorem Fits.setCurrent {b : Builder} (h : b.Fits) {ns : List Node} (fit : AllFit ns) :
    (b.setCurrent ns).Fits := by
  obtain ⟨top, _ | ⟨e, es⟩⟩ := b
  · exact ⟨fit, h.opened⟩
  · refine ⟨h.top, fun e' he' => ?_⟩
    rcases List.mem_cons.1 he' with rfl | he'
    · have old := h.opened e List.mem_cons_self
      exact ⟨old.tag, old.names, old.distinct, old.notVoid, fit⟩
    · exact h.opened e' (List.mem_cons_of_mem e he')

theorem Fits.add {b : Builder} (h : b.Fits) {n : Node} (fit : ∀ m ∈ n.preorder, Fit m) :
    (b.add n).Fits :=
  h.setCurrent (allFit_cons.2 ⟨fit, h.current⟩)

theorem Fits.addData {b : Builder} (h : b.Fits) (data : String) : (b.addData data).Fits :=
  h.setCurrent (allFit_joinData h.current data)

theorem Fits.addText {b : Builder} (h : b.Fits) (data : String) : (b.addText data).Fits := by
  by_cases empty : data = ""
  · subst empty
    unfold Builder.addText
    split
    · rename_i last rest shown
      have fit := h.current
      rw [shown, allFit_cons] at fit
      exact h.setCurrent (allFit_cons.2 ⟨by simp [preorder, fit_text], fit.2⟩)
    · exact h.add (by simp [preorder, fit_text])
  · rw [addText_eq_addData b empty]
    exact h.addData data

/-- The tags of the open elements do not change when something is put into the innermost one. -/
@[simp]
theorem map_tag_setCurrent (b : Builder) (ns : List Node) :
    (b.setCurrent ns).opened.map (·.tag) = b.opened.map (·.tag) := by
  obtain ⟨top, _ | ⟨e, es⟩⟩ := b <;> rfl

/-- Closing the innermost element is fit unless it is a raw text element with other content. -/
theorem Fits.closeInnermost {b : Builder} (h : b.Fits)
    (raw : ∀ e ∈ b.opened.head?, isRawText e.tag = true → (∀ n ∈ e.before, isText n = true) ∧
      holdsEnd e.tag (renderNodes true e.before.reverse).toList = false) :
    b.closeInnermost.Fits := by
  obtain ⟨top, _ | ⟨e, es⟩⟩ := b
  · exact h
  · have old := h.opened e List.mem_cons_self
    have rest : Fits ⟨top, es⟩ :=
      ⟨h.top, fun e' he' => h.opened e' (List.mem_cons_of_mem e he')⟩
    refine rest.add fun m hm => ?_
    rcases List.mem_cons.1 hm with rfl | hm
    · refine ⟨⟨old.tag, old.names, old.distinct, fun isRaw => (raw e rfl isRaw).2⟩,
        fun tag named isVoid_ => ?_, fun tag named isRaw n hn => ?_⟩
      · obtain rfl := Option.some.inj named
        simp [old.notVoid] at isVoid_
      · obtain rfl := Option.some.inj named
        exact (raw e rfl isRaw).1 n (List.mem_reverse.1 hn)
    · exact old.before.reverse m hm

/-- A builder none of whose open elements is a raw text element. -/
def Plain (b : Builder) : Prop := ∀ tag ∈ b.opened.map (·.tag), isRawText tag = false

theorem Plain.setCurrent {b : Builder} (h : b.Plain) (ns : List Node) :
    (b.setCurrent ns).Plain := by
  rw [Plain, map_tag_setCurrent]
  exact h

theorem Plain.addText {b : Builder} (h : b.Plain) (data : String) : (b.addText data).Plain := by
  unfold Builder.addText
  split
  · exact h.setCurrent _
  · exact h.setCurrent _

theorem Plain.closeInnermost {b : Builder} (h : b.Plain) : b.closeInnermost.Plain := by
  obtain ⟨top, _ | ⟨e, es⟩⟩ := b
  · exact h
  · exact Plain.setCurrent (b := ⟨top, es⟩) (fun tag mem => h tag (List.mem_cons_of_mem _ mem)) _

theorem Fits.closeMany {b : Builder} (h : b.Fits) (plain : b.Plain) :
    ∀ n, (closeMany n b).Fits ∧ (closeMany n b).Plain := by
  intro n
  induction n generalizing b with
  | zero => exact ⟨h, plain⟩
  | succ n ih =>
    refine ih (h.closeInnermost fun e he isRaw => ?_) plain.closeInnermost
    rw [plain e.tag (List.mem_map_of_mem (List.mem_of_mem_head? he))] at isRaw
    cases isRaw

theorem Fits.close {b : Builder} (h : b.Fits) (plain : b.Plain) (tag : String) :
    (b.close tag).Fits ∧ (b.close tag).Plain := by
  unfold Builder.close
  split
  · exact h.closeMany plain _
  · exact ⟨h, plain⟩

/-! ### Attributes of a tag -/

theorem readable_foldl_putNew {attrs : List (String × Option String)}
    (names : ∀ a ∈ attrs, ReadableName a.1) : ∀ {found : Attrs},
    (∀ a ∈ found, ReadableName a.1) →
      ∀ a ∈ attrs.foldl (fun acc a => Bindings.putNew acc a.1 (a.2.getD "")) found,
        ReadableName a.1 := by
  induction attrs with
  | nil => exact fun readable => readable
  | cons a attrs ih =>
    intro found readable
    refine ih (fun b hb => names b (List.mem_cons_of_mem a hb)) (fun b hb => ?_)
    rcases Bindings.mem_names_putNew (List.mem_map_of_mem hb) with old | new
    · obtain ⟨c, hc, same⟩ := List.mem_map.1 old
      exact same ▸ readable c hc
    · exact new ▸ names a List.mem_cons_self

/-- The attributes of a tag have readable names and no name twice. -/
theorem attrsOf_spec {attrs : List (String × Option String)}
    (names : ∀ a ∈ attrs, ReadableName a.1) :
    (∀ a ∈ attrsOf attrs, ReadableName a.1) ∧ (attrsOf attrs).names.Nodup :=
  ⟨readable_foldl_putNew names fun _ mem => absurd mem List.not_mem_nil,
    Bindings.nodup_names_foldl_putNew _ _ attrs List.nodup_nil⟩

/-- An element without content is fit when its tag can be read. -/
theorem fit_bare {tag : String} {attrs : List (String × Option String)} (tagged : ReadableTag tag)
    (names : ∀ a ∈ attrs, ReadableName a.1) :
    ∀ m ∈ (Node.element tag (attrsOf attrs) []).preorder, Fit m := by
  obtain ⟨readable, distinct⟩ := attrsOf_spec names
  intro m hm
  rw [preorder, preorders, List.mem_singleton] at hm
  subst hm
  refine ⟨⟨tagged, readable, distinct, fun _ => ?_⟩, fun _ _ _ => rfl, fun _ _ _ c hc => ?_⟩
  · rfl
  · exact absurd hc List.not_mem_nil

/-! ### The builder and the scanner -/

/-- What a builder is like while the scanner is in a mode and has a text left to read. -/
inductive InMode : Option String → List Char → Builder → Prop
  | text {b : Builder} (left : List Char) : b.Plain → InMode none left b
  /-- The innermost open element is the raw text element; no end tag of it begins in its text. -/
  | raw {top : List Node} {tag : String} {attrs : Attrs} {es : List OpenElement}
    (data left : List Char) :
    isRawText tag = true → Plain ⟨top, es⟩ →
      (∀ part, part <:+ data → part ≠ [] → isEndOf tag (part ++ left) = false) →
        InMode (some tag) left ⟨top, ⟨tag, attrs, joinData [] (String.ofList data)⟩ :: es⟩

/-- Adding a fit node opens no raw text. -/
theorem Fits.inMode_add {b : Builder} (h : b.Fits) (plain : b.Plain) (left : List Char) {n : Node}
    (fit : ∀ m ∈ n.preorder, Fit m) : (b.add n).Fits ∧ InMode none left (b.add n) :=
  ⟨h.add fit, .text left (plain.setCurrent _)⟩

/-- Opening an element that is not void opens raw text when it is a raw text element. -/
theorem Fits.inMode_open {b : Builder} (h : b.Fits) (plain : b.Plain) (left : List Char)
    {e : OpenElement} (fit : OpenFit e) (empty : e.before = []) :
    let b' : Builder := { b with opened := e :: b.opened }
    b'.Fits ∧ InMode (if isRawText e.tag then some e.tag else none) left b' := by
  intro b'
  have fits : b'.Fits := by
    refine ⟨h.top, fun e' he => ?_⟩
    rcases List.mem_cons.1 he with rfl | he
    · exact fit
    · exact h.opened e' he
  refine ⟨fits, ?_⟩
  obtain ⟨tag, attrs, _⟩ := e
  subst empty
  split
  · rename_i isRaw
    exact .raw [] left isRaw plain fun part inside nonempty =>
      absurd (List.suffix_nil.1 inside) nonempty
  · rename_i noRaw
    refine .text left fun tag' mem => ?_
    rcases List.mem_cons.1 mem with rfl | mem
    · exact Bool.eq_false_iff.2 noRaw
    · exact plain tag' mem

/-- A sound event leaves a builder whose nodes are fit, in the mode of the scanner. -/
theorem Fits.take {b : Builder} (h : b.Fits) (plain : b.Plain) {e : Event} (sound : Sound e)
    (left : List Char) : (b.take e).Fits ∧ InMode (modeAfter e) left (b.take e) := by
  have leaf {n : Node} (legible : Legible n) (leaf : n.tag? = none) (single : n.preorder = [n]) :
      (b.add n).Fits ∧ InMode none left (b.add n) :=
    h.inMode_add plain left fun m hm => by
      rw [single, List.mem_singleton] at hm
      exact hm ▸ fit_leaf legible leaf
  cases e with
  | startTag tag attrs =>
    obtain ⟨tagged, names⟩ := sound
    cases hvoid : isVoid tag with
    | true =>
      have taken : b.take (.startTag tag attrs) = b.add (.element tag (attrsOf attrs) []) :=
        if_pos hvoid
      rw [taken, modeAfter, isRawText_of_isVoid hvoid]
      exact h.inMode_add plain left (fit_bare tagged names)
    | false =>
      have taken : b.take (.startTag tag attrs) =
          { b with opened := ⟨tag, attrsOf attrs, []⟩ :: b.opened } := if_neg (by simp [hvoid])
      obtain ⟨readable, distinct⟩ := attrsOf_spec names
      rw [taken, modeAfter]
      exact h.inMode_open plain left ⟨tagged, readable, distinct, hvoid, allFit_nil⟩ rfl
  | emptyTag tag attrs => exact h.inMode_add plain left (fit_bare sound.1 sound.2)
  | endTag tag =>
    obtain ⟨fits, plain'⟩ := h.close plain tag
    exact ⟨fits, .text left plain'⟩
  | data text => exact ⟨h.addText text, .text left (plain.addText text)⟩
  | comment text => exact leaf sound rfl rfl
  | declaration text => exact leaf (.declaration sound) rfl rfl
  | instruction text => exact leaf (.instruction sound) rfl rfl
  | markedSection text =>
    obtain ⟨close, text'⟩ := sound
    exact leaf (.markedSection text') rfl rfl

section RawText

variable {tag : String} {b : Builder}

/-- Text is added in raw text when no end tag begins in it. -/
theorem InMode.addData {piece left : List Char} (h : InMode (some tag) (piece ++ left) b)
    (clear : ∀ part, part <:+ piece → part ≠ [] → isEndOf tag (part ++ left) = false) :
    InMode (some tag) left (b.addData (String.ofList piece)) := by
  cases h with
  | @raw top _ attrs es data _ isRaw plain old =>
    have joined : Builder.addData
        ⟨top, ⟨tag, attrs, joinData [] (String.ofList data)⟩ :: es⟩ (String.ofList piece) =
        ⟨top, ⟨tag, attrs, joinData [] (String.ofList (data ++ piece))⟩ :: es⟩ := by
      rw [String.ofList_append, ← joinData_joinData]
      rfl
    rw [joined]
    refine .raw (data ++ piece) left isRaw plain fun part inside nonempty => ?_
    obtain ⟨gone, split⟩ := inside
    rcases List.append_eq_append_iff.1 split with ⟨front, rfl, rfl⟩ | ⟨before, rfl, rfl⟩
    · by_cases empty : front = []
      · subst empty
        exact clear piece List.suffix_rfl (by simpa using nonempty)
      · rw [List.append_assoc]
        exact old front ⟨gone, rfl⟩ empty
    · exact clear part ⟨before, rfl⟩ nonempty

/-- What an open raw text element holds is fit. -/
theorem InMode.rawContent {left : List Char} (h : InMode (some tag) left b) :
    ∀ e ∈ b.opened.head?, isRawText e.tag = true → (∀ n ∈ e.before, isText n = true) ∧
      holdsEnd e.tag (renderNodes true e.before.reverse).toList = false := by
  cases h with
  | @raw top _ attrs es data _ isRaw plain old =>
    intro e he _
    obtain rfl := Option.some.inj he
    dsimp only
    have texts : ∀ n ∈ joinData [] (String.ofList data), isText n = true := by
      unfold joinData
      split
      · exact fun n hn => absurd hn List.not_mem_nil
      · intro n hn
        rw [List.mem_singleton.1 hn]
        rfl
    have written : renderNodes true (joinData [] (String.ofList data)).reverse =
        String.ofList data := by
      unfold joinData
      split
      · rename_i empty
        rw [empty]
        rfl
      · simp [renderNodes, renderNode]
    refine ⟨texts, ?_⟩
    rw [written, String.toList_ofList, holdsEnd_eq_false_iff]
    intro part inside
    by_cases nonempty : part = []
    · rw [nonempty]
      rfl
    · refine Bool.eq_false_iff.2 fun ends => ?_
      have := isEndOf_append ends left
      rw [old part inside nonempty] at this
      cases this

theorem InMode.isRawText {left : List Char} (h : InMode (some tag) left b) :
    isRawText tag = true := by
  cases h with
  | raw data left isRaw plain old => exact isRaw

/-- At its end tag a raw text element is closed. -/
theorem InMode.close {left : List Char} (h : InMode (some tag) left b) (fits : b.Fits) :
    (b.take (.endTag tag)).Fits ∧ (b.take (.endTag tag)).Plain := by
  have content := h.rawContent
  cases h with
  | @raw top _ attrs es data _ isRaw plain old =>
    have closed : Builder.take ⟨top, ⟨tag, attrs, joinData [] (String.ofList data)⟩ :: es⟩
        (.endTag tag) =
        Builder.closeInnermost ⟨top, ⟨tag, attrs, joinData [] (String.ofList data)⟩ :: es⟩ := by
      simp [take, Builder.close, List.findIdx?_cons, closeMany]
    rw [closed]
    exact ⟨fits.closeInnermost content, Plain.setCurrent (b := ⟨top, es⟩) plain _⟩

end RawText

/-- At the end of a source nothing is left to read. -/
theorem InMode.ended {b : Builder} {raw? : Option String} {left : List Char}
    (h : InMode raw? left b) : InMode raw? [] b := by
  cases h with
  | text left plain => exact .text [] plain
  | raw data left isRaw plain old =>
    refine .raw data [] isRaw plain fun part inside nonempty => ?_
    refine Bool.eq_false_iff.2 fun ends => ?_
    rw [List.append_nil] at ends
    have := isEndOf_append ends left
    rw [old part inside nonempty] at this
    cases this

/-- The tree of a builder is fit in whatever mode the source ends. -/
theorem InMode.allFit_tree {b : Builder} {raw? : Option String} {left : List Char}
    (h : InMode raw? left b) (fits : b.Fits) : AllFit b.tree := by
  refine AllFit.reverse ?_
  cases raw? with
  | none =>
    obtain ⟨_, plain⟩ := h
    exact (fits.closeMany plain _).1.top
  | some tag =>
    have closed := fits.closeInnermost h.rawContent
    obtain - | ⟨data, _, isRaw, plain, old⟩ := h
    exact (closed.closeMany (Plain.setCurrent plain _) _).1.top

end Builder

/-! ### The scanner and the builder together -/

/-- A construct outside raw text. -/
theorem inMode_of_scanConstruct {b : Builder} (fits : b.Fits) (plain : b.Plain) {body : List Char}
    {s : Scanned} (h : scanConstruct none body = .ok (some s)) :
    (b.takeAll s.events).Fits ∧ Builder.InMode s.raw? s.rest (b.takeAll s.events) := by
  cases reports_of_scanConstruct h with
  | nothing rest => exact ⟨fits, .text rest plain⟩
  | event sound rest => exact fits.take plain sound rest

/-- An end tag begins with a bracket, so in text with one bracket it begins there or nowhere. -/
theorem isEndOf_suffix_of_fake {tag : String} {inside after : List Char} (noOpen : '<' ∉ inside)
    (fake : isEndOf tag ('<' :: '/' :: (inside ++ '>' :: after)) = false) {part : List Char}
    (suffix : part <:+ '<' :: '/' :: inside ++ ['>']) (nonempty : part ≠ []) :
    isEndOf tag (part ++ after) = false := by
  obtain ⟨gone, parts⟩ := suffix
  cases gone with
  | nil =>
    obtain rfl := parts
    simpa using fake
  | cons c gone =>
    have inner : gone ++ part = '/' :: (inside ++ ['>']) := (List.cons.inj parts).2
    obtain ⟨d, ds, rfl⟩ := List.exists_cons_of_ne_nil nonempty
    have mem : d ∈ '/' :: (inside ++ ['>']) := inner ▸ by simp
    have other : d ≠ '<' := by
      rintro rfl
      simp [noOpen] at mem
    exact isEndOf_of_first_ne other _

/-- A place where the scanner stops in raw text, with the text before it. -/
theorem inMode_of_closeRaw {tag : String} (raw : isRawText tag = true) {b : Builder}
    (fits : b.Fits) {cs before from_ after : List Char} (mode : Builder.InMode (some tag) cs b)
    (cut : cutAt (closeRaw tag) cs = some (before, from_, after)) :
    ∃ s, scanConstruct (some tag) (from_.drop 1) = .ok (some s) ∧
      ((b.addData (String.ofList before)).takeAll s.events).Fits ∧
        Builder.InMode s.raw? s.rest ((b.addData (String.ofList before)).takeAll s.events) := by
  obtain ⟨split, hit, misses⟩ := cutAt_eq_some cut
  obtain ⟨inside, rfl, noOpen, noBracket⟩ := closeRaw_eq_some raw hit
  rw [split] at mode
  have mode₁ := mode.addData fun part ⟨gone, parts⟩ nonempty =>
    isEndOf_of_closeRaw_eq_none (misses gone part parts.symm nonempty)
  refine ⟨_, congrArg Except.ok (scanEndTag_raw noBracket), ?_⟩
  split
  · obtain ⟨fits', plain'⟩ := mode₁.close (fits.addData _)
    exact ⟨fits', .text after plain'⟩
  · rename_i fake
    have written : String.ofList ('<' :: '/' :: inside ++ ['>']) ≠ "" := by simp
    have taken : (b.addData (String.ofList before)).takeAll
        [.data (String.ofList ('<' :: '/' :: inside ++ ['>']))] =
        (b.addData (String.ofList before)).addData
          (String.ofList ('<' :: '/' :: inside ++ ['>'])) :=
      Builder.addText_eq_addData _ written
    dsimp only
    rw [taken]
    refine ⟨(fits.addData _).addData _, Builder.InMode.addData ?_ fun part inside' nonempty => ?_⟩
    · simpa using mode₁
    · exact isEndOf_suffix_of_fake noOpen (by simpa using fake) inside' nonempty

/-- Text outside raw text. -/
theorem fits_takeData {b : Builder} (fits : b.Fits) (plain : b.Plain) (data : List Char) :
    (b.take (dataEvent none data)).Fits ∧ (b.take (dataEvent none data)).Plain :=
  ⟨fits.addText _, plain.addText _⟩

/-- The text before a construct outside raw text, where there is some. -/
theorem fits_takeLead {b : Builder} (fits : b.Fits) (plain : b.Plain) (before : List Char) :
    (b.takeAll (if before.isEmpty then [] else [dataEvent none before])).Fits ∧
      (b.takeAll (if before.isEmpty then [] else [dataEvent none before])).Plain := by
  split
  · exact ⟨fits, plain⟩
  · exact fits_takeData fits plain before

theorem takeAll_lead_raw (tag : String) (b : Builder) (before : List Char) :
    b.takeAll (if before.isEmpty then [] else [dataEvent (some tag) before]) =
      b.addData (String.ofList before) := by
  rw [← take_dataEvent_raw tag b before]
  split <;> rfl

/-- A construct, with the text before it. -/
theorem inMode_of_construct {b : Builder} (fits : b.Fits) {raw? : Option String}
    {cs before from_ : List Char} (mode : Builder.InMode raw? cs b)
    (next : nextConstruct raw? cs = some (before, from_)) {s : Scanned}
    (reads : scanConstruct raw? (from_.drop 1) = .ok (some s)) :
    let events := (if before.isEmpty then [] else [dataEvent raw? before]) ++ s.events
    (b.takeAll events).Fits ∧ Builder.InMode s.raw? s.rest (b.takeAll events) := by
  dsimp only
  rw [Builder.takeAll_append]
  cases raw? with
  | none =>
    obtain ⟨_, plain⟩ := mode
    obtain ⟨fits₁, plain₁⟩ := fits_takeLead fits plain before
    exact inMode_of_scanConstruct fits₁ plain₁ reads
  | some tag =>
    obtain ⟨⟨before, from_, after⟩, cut, same⟩ := Option.map_eq_some_iff.1 next
    obtain ⟨rfl, rfl⟩ := Prod.mk.inj same
    obtain ⟨s', reads', fits', mode'⟩ := inMode_of_closeRaw mode.isRawText fits mode cut
    obtain rfl : s' = s := Option.some.inj (Except.ok.inj (reads'.symm.trans reads))
    rw [takeAll_lead_raw]
    exact ⟨fits', mode'⟩

/-- Only outside raw text a source breaks off inside a construct. -/
theorem plain_of_broken {b : Builder} (fits : b.Fits) {raw? : Option String}
    {cs before from_ : List Char} (mode : Builder.InMode raw? cs b)
    (next : nextConstruct raw? cs = some (before, from_))
    (reads : scanConstruct raw? (from_.drop 1) = .ok none) : raw? = none ∧ b.Plain := by
  cases raw? with
  | none =>
    obtain ⟨_, plain⟩ := mode
    exact ⟨rfl, plain⟩
  | some tag =>
    obtain ⟨⟨before, from_, after⟩, cut, same⟩ := Option.map_eq_some_iff.1 next
    obtain ⟨rfl, rfl⟩ := Prod.mk.inj same
    obtain ⟨s, reads', -⟩ := inMode_of_closeRaw mode.isRawText fits mode cut
    rw [reads] at reads'
    cases reads'

/-- Whatever the scanner reports, the nodes of the builder stay fit, and the builder stays in the
mode of the scanner. -/
theorem inMode_of_scans {final : Bool} {raw? : Option String} {cs : List Char} {es : List Event}
    {state : Scanner} (h : Scans final raw? cs es state) : ∀ {b : Builder}, b.Fits →
      Builder.InMode raw? cs b →
        (b.takeAll es).Fits ∧ Builder.InMode state.raw? state.pending (b.takeAll es) := by
  induction h with
  | waits raw? cs => exact fun fits mode => ⟨fits, mode⟩
  | data cs =>
    intro b fits mode
    obtain ⟨_, plain⟩ := mode
    obtain ⟨fits', plain'⟩ := fits_takeData fits plain cs
    exact ⟨fits', .text [] plain'⟩
  | construct next reads _ ih =>
    intro b fits mode
    obtain ⟨fits', mode'⟩ := inMode_of_construct fits mode next reads
    rw [Builder.takeAll_append]
    exact ih fits' mode'
  | last next reads =>
    intro b fits mode
    obtain ⟨fits', mode'⟩ := inMode_of_construct fits mode next reads
    exact ⟨fits', mode'.ended⟩
  | @broken raw? cs before from_ data rest more state next reads _ ih =>
    intro b fits mode
    obtain ⟨rfl, plain⟩ := plain_of_broken fits mode next reads
    obtain ⟨fits₁, plain₁⟩ := fits_takeLead fits plain before
    obtain ⟨fits₂, plain₂⟩ := fits_takeData fits₁ plain₁ data
    rw [Builder.takeAll_append, Builder.takeAll_cons]
    exact ih fits₂ (.text _ plain₂)
  | @breaksOff raw? cs before from_ pending next reads =>
    intro b fits mode
    obtain ⟨rfl, plain⟩ := plain_of_broken fits mode next reads
    obtain ⟨fits₁, plain₁⟩ := fits_takeLead fits plain before
    exact ⟨fits₁, .text _ plain₁⟩

/-- Every node of a parsed tree is fit. -/
theorem fit_of_parse {source : String} {t : List Node} (h : parse source = .ok t) :
    ∀ n ∈ preorders t, Fit n := by
  rw [parse_eq_readAll, readAll] at h
  cases first : scan false none source.toList with
  | error e => simp [first, Except.map] at h
  | ok out =>
    obtain ⟨reported, state⟩ := out
    simp only [first] at h
    cases second : scan true state.raw? state.pending with
    | error e => simp [second, Except.map] at h
    | ok out =>
      obtain ⟨more, state'⟩ := out
      simp only [second, Except.map, Except.ok.injEq] at h
      have start : Builder.Plain {} := fun _ mem => absurd mem List.not_mem_nil
      obtain ⟨fits, mode⟩ :=
        inMode_of_scans (scans_of_scan first) Builder.fits_empty (.text _ start)
      obtain ⟨fits', mode'⟩ := inMode_of_scans (scans_of_scan second) fits mode
      rw [← h, Builder.takeAll_append]
      exact mode'.allFit_tree fits'

end HtmlTemplate.Markup
