import HtmlTemplate.Proofs.Bindings
import HtmlTemplate.Proofs.Relocation
import HtmlTemplate.Stacks

/-!
# What stacks leave behind

Collecting and replaying move nodes and make none, so that what holds of all nodes holds of all
nodes afterwards (`every_resolve`). Collecting takes every push out of a forest, but of a push that
stands directly in another one an empty element goes into the bucket. Replaying fills every
placeholder of the forest, but not those in the content that it puts there. `resolve_complete_iff`
says exactly when neither shows in the result.
-/

namespace HtmlTemplate.Stacks

open HtmlTemplate.Markup

variable {tag x : String} {buckets : Bindings Bucket}

/-! ### Collecting -/

mutual

theorem collectIn_of_lost : ∀ (n : Node) (c : Collection), c.lost = true →
    collectIn tag n c = ([n], c)
  | .element t attrs cs, c, h => by simp [collectIn, h]
  | .fragment cs, c, h => by simp [collectIn, collectAmong_of_lost cs c h]
  | .text _, _, _ => rfl
  | .comment _, _, _ => rfl
  | .directive _, _, _ => rfl
  | .blank, _, _ => rfl

/-- Nothing more is collected after a push that names no bucket. -/
theorem collectAmong_of_lost : ∀ (ns : List Node) (c : Collection), c.lost = true →
    collectAmong tag ns c = (ns, c)
  | [], _, _ => rfl
  | n :: ns, c, h => by simp [collectAmong, collectIn_of_lost n c h, collectAmong_of_lost ns c h]

end

theorem lost_of_collectAmong {ns : List Node} {c : Collection}
    (h : (collectAmong tag ns c).2.lost = false) : c.lost = false := by
  cases hc : c.lost with
  | false => rfl
  | true => rw [collectAmong_of_lost ns c hc, hc] at h; exact h

mutual

theorem collectIn_of_lacks : ∀ (n : Node) (c : Collection), Lacks tag [n] →
    collectIn tag n c = ([n], c)
  | .element t attrs cs, c, h => by
    obtain ⟨other, inside⟩ := lacks_element_iff.1 h
    have apart : (t == tag) = false := by simpa using other
    rw [collectIn, collectAmong_of_lacks cs c inside, apart]
    by_cases lost : c.lost <;> simp [lost]
  | .fragment cs, c, h => by
    rw [collectIn, collectAmong_of_lacks cs c (lacks_fragment_iff.1 h)]
  | .text _, _, _ | .comment _, _, _ | .directive _, _, _ | .blank, _, _ => rfl

/-- Without pushes nothing is collected. -/
theorem collectAmong_of_lacks : ∀ (ns : List Node) (c : Collection), Lacks tag ns →
    collectAmong tag ns c = (ns, c)
  | [], _, _ => rfl
  | n :: ns, c, h => by
    obtain ⟨here, later⟩ := lacks_cons_iff.1 h
    rw [collectAmong, collectIn_of_lacks n c here]
    dsimp only
    rw [collectAmong_of_lacks ns c later]
    rfl

end

mutual

theorem lacks_collectIn : ∀ (n : Node) (c : Collection), (collectIn tag n c).2.lost = false →
    Lacks tag (collectIn tag n c).1
  | .element t attrs cs, c, h => by
    rw [collectIn] at h ⊢
    split at h
    · rename_i lost
      simp [lost] at h
    · rename_i lost
      rw [if_neg lost]
      split at h
      · rename_i ht
        rw [if_pos ht]
        cases hname : attrs.get? "stack" with
        | none => simp [hname] at h
        | some name => exact lacks_nil tag
      · rename_i ht
        rw [if_neg ht]
        exact lacks_element_iff.2 ⟨by simpa using ht, lacks_collectAmong cs c h⟩
  | .fragment cs, c, h => lacks_fragment_iff.2 (lacks_collectAmong cs c h)
  | .text _, _, _ => lacks_leaf rfl rfl tag
  | .comment _, _, _ => lacks_leaf rfl rfl tag
  | .directive _, _, _ => lacks_leaf rfl rfl tag
  | .blank, _, _ => lacks_leaf rfl rfl tag

/-- A forest that is collected to its end has no pushes left. -/
theorem lacks_collectAmong : ∀ (ns : List Node) (c : Collection),
    (collectAmong tag ns c).2.lost = false → Lacks tag (collectAmong tag ns c).1
  | [], _, _ => lacks_nil tag
  | n :: ns, c, h => lacks_append_iff.2
      ⟨lacks_collectIn n c (lost_of_collectAmong h), lacks_collectAmong ns (collectIn tag n c).2 h⟩

end

/-! ### Buckets -/

/-- All nodes in the buckets of a collection have a property. -/
def Collection.Holds (P : Node → Prop) (c : Collection) : Prop :=
  ∀ name b, c.buckets.get? name = some b → ∀ n ∈ b.content, P n

namespace Bucket

theorem mem_add {b : Bucket} {m n : Node} (h : n ∈ (b.add m).content) : n ∈ b.content ∨ n = m := by
  unfold add at h
  split at h
  · simpa using h
  · exact .inl h

theorem mem_addAll {ms : List Node} {n : Node} : ∀ {b : Bucket}, n ∈ (b.addAll ms).content →
    n ∈ b.content ∨ n ∈ ms := by
  induction ms with
  | nil => exact fun h => .inl h
  | cons m ms ih =>
    intro b h
    rcases ih (b := b.add m) h with h | h
    · rcases mem_add h with h | rfl
      · exact .inl h
      · exact .inr List.mem_cons_self
    · exact .inr (List.mem_cons_of_mem m h)

end Bucket

theorem Collection.Holds.push {P : Node → Prop} {c : Collection} (h : c.Holds P) (name : String)
    {content : List Node} (hcontent : ∀ n ∈ content, P n) : (c.push name content).Holds P := by
  intro m b hb n hn
  simp only [Collection.push, Bindings.get?_put] at hb
  split at hb
  · obtain rfl := Option.some.inj hb
    rcases Bucket.mem_addAll hn with hn | hn
    · cases hold : c.buckets.get? name with
      | none => simp [hold] at hn
      | some old => exact h name old hold n (by simpa [hold] using hn)
    · exact hcontent n hn
  · exact h m b hb n hn

/-- What the pushes of a forest put into buckets has a property. -/
def Pushes (tag : String) (P : Node → Prop) (forest : List Node) : Prop :=
  ∀ attrs cs, .element tag attrs cs ∈ Node.preorders forest → ∀ n ∈ cs, P (withoutPushes tag n)

theorem pushes_cons_iff {P : Node → Prop} {n : Node} {ns : List Node} :
    Pushes tag P (n :: ns) ↔ Pushes tag P [n] ∧ Pushes tag P ns := by
  simp only [Pushes, Node.preorders, List.append_nil, List.mem_append, or_imp, forall_and]

mutual

theorem holds_collectIn {P : Node → Prop} : ∀ (n : Node) (c : Collection), Pushes tag P [n] →
    c.Holds P → (collectIn tag n c).2.Holds P
  | .element t attrs cs, c, hpushes, hc => by
    have inside : Pushes tag P cs := fun attrs' cs' h =>
      hpushes attrs' cs' (by simp [Node.preorders, Node.preorder, h])
    rw [collectIn]
    split
    · exact hc
    · split
      · rename_i ht
        have ht : t = tag := by simpa using ht
        cases hname : attrs.get? "stack" with
        | none => exact hc
        | some name =>
          refine holds_collectAmong cs _ inside (hc.push name fun n hn => ?_)
          obtain ⟨m, hm, rfl⟩ := List.mem_map.1 hn
          exact hpushes attrs cs (by simp [Node.preorders, Node.preorder, ht]) m hm
      · exact holds_collectAmong cs c inside hc
  | .fragment cs, c, hpushes, hc => holds_collectAmong cs c
      (fun attrs' cs' h => hpushes attrs' cs' (by simp [Node.preorders, Node.preorder, h])) hc
  | .text _, _, _, hc => hc
  | .comment _, _, _, hc => hc
  | .directive _, _, _, hc => hc
  | .blank, _, _, hc => hc

/-- Nothing comes into the buckets but what the pushes put there. -/
theorem holds_collectAmong {P : Node → Prop} : ∀ (ns : List Node) (c : Collection),
    Pushes tag P ns → c.Holds P → (collectAmong tag ns c).2.Holds P
  | [], _, _, hc => hc
  | n :: ns, c, hpushes, hc =>
    holds_collectAmong ns (collectIn tag n c).2 (pushes_cons_iff.1 hpushes).2
      (holds_collectIn n c (pushes_cons_iff.1 hpushes).1 hc)

end

mutual

theorem lacks_withoutPushes : ∀ n : Node, n.hasTag tag = false → Lacks tag [withoutPushes tag n]
  | .element t attrs cs, h => by
    have ht : t ≠ tag := by simpa [Node.hasTag, Node.tag?] using h
    rw [withoutPushes, if_neg (by simpa using ht)]
    exact lacks_element_iff.2 ⟨ht, lacks_dropPushes cs⟩
  | .fragment cs, _ => lacks_fragment_iff.2 (lacks_dropPushes cs)
  | .text _, _ => lacks_leaf rfl rfl tag
  | .comment _, _ => lacks_leaf rfl rfl tag
  | .directive _, _ => lacks_leaf rfl rfl tag
  | .blank, _ => lacks_leaf rfl rfl tag

theorem lacks_dropPushes : ∀ ns : List Node, Lacks tag (dropPushes tag ns)
  | [] => lacks_nil tag
  | n :: ns => by
    cases hn : n.hasTag tag with
    | true => simpa [dropPushes, hn] using lacks_dropPushes ns
    | false =>
      simpa [dropPushes, hn] using
        lacks_cons_iff.2 ⟨lacks_withoutPushes n hn, lacks_dropPushes ns⟩

end

theorem hasTag_withoutPushes (n : Node) : (withoutPushes tag n).hasTag x = n.hasTag x := by
  cases n with
  | element t attrs cs =>
    rw [withoutPushes]
    split <;> rfl
  | _ => rfl

section Every

variable {P : Node → Prop}

mutual

theorem every_withoutPushes (shallow : Shallow P) : ∀ n : Node, Every P [n] →
    Every P [withoutPushes tag n]
  | .element t attrs cs, h => by
    obtain ⟨here, hcs⟩ := every_element_iff.1 h
    rw [withoutPushes]
    split
    · exact every_element_iff.2 ⟨shallow.element here _, every_nil⟩
    · exact every_element_iff.2 ⟨shallow.element here _, every_dropPushes shallow cs hcs⟩
  | .fragment cs, h => by
    obtain ⟨here, hcs⟩ := every_fragment_iff.1 h
    exact every_fragment_iff.2 ⟨shallow.fragment here _, every_dropPushes shallow cs hcs⟩
  | .text _, h => h
  | .comment _, h => h
  | .directive _, h => h
  | .blank, h => h

theorem every_dropPushes (shallow : Shallow P) : ∀ ns : List Node, Every P ns →
    Every P (dropPushes tag ns)
  | [], h => h
  | n :: ns, h => by
    obtain ⟨hn, hns⟩ := every_cons_iff.1 h
    rw [dropPushes]
    split
    · exact every_dropPushes shallow ns hns
    · exact every_cons_iff.2
        ⟨every_withoutPushes shallow n hn, every_dropPushes shallow ns hns⟩

end

mutual

theorem every_collectIn (shallow : Shallow P) : ∀ (n : Node) (c : Collection), Every P [n] →
    Every P (collectIn tag n c).1
  | .element t attrs cs, c, h => by
    obtain ⟨here, hcs⟩ := every_element_iff.1 h
    rw [collectIn]
    split
    · exact h
    · split
      · cases attrs.get? "stack" with
        | none => exact h
        | some name => exact every_nil
      · exact every_element_iff.2 ⟨shallow.element here _, every_collectAmong shallow cs c hcs⟩
  | .fragment cs, c, h => by
    obtain ⟨here, hcs⟩ := every_fragment_iff.1 h
    exact every_fragment_iff.2 ⟨shallow.fragment here _, every_collectAmong shallow cs c hcs⟩
  | .text _, _, h => h
  | .comment _, _, h => h
  | .directive _, _, h => h
  | .blank, _, h => h

/-- Nothing new is left when pushes are collected. -/
theorem every_collectAmong (shallow : Shallow P) : ∀ (ns : List Node) (c : Collection),
    Every P ns → Every P (collectAmong tag ns c).1
  | [], _, h => h
  | n :: ns, c, h => by
    obtain ⟨hn, hns⟩ := every_cons_iff.1 h
    exact every_append_iff.2 ⟨every_collectIn shallow n c hn,
      every_collectAmong shallow ns (collectIn tag n c).2 hns⟩

end

/-- Nothing new comes into buckets. -/
theorem every_content (shallow : Shallow P) {forest : List Node} (h : Every P forest)
    {name : String} {b : Bucket} (hb : (collect tag forest).2.buckets.get? name = some b) :
    Every P b.content := by
  have start : ({} : Collection).Holds fun n => Every P [n] :=
    fun name b h => by simp [Bindings.get?] at h
  have pushes : Pushes tag (fun n => Every P [n]) forest := fun attrs cs mem n hn => by
    have inside : Every P cs := fun m hm => h m (Node.preorders_children_subset forest mem hm)
    exact every_withoutPushes shallow n (inside.of_mem hn)
  exact every_of_forall_mem (holds_collectAmong forest {} pushes start name b hb)

end Every

/-- A bucket of a forest has no push inside its nodes; a push among them is an empty one. -/
theorem lacks_content_iff {forest : List Node} {name : String} {b : Bucket}
    (hb : (collect tag forest).2.buckets.get? name = some b) :
    Lacks tag b.content ↔ ∀ n ∈ b.content, n.hasTag tag = false := by
  have start : ({} : Collection).Holds fun n => n.hasTag tag = false → Lacks tag [n] :=
    fun name b h => by simp [Bindings.get?] at h
  have pushes : Pushes tag (fun n => n.hasTag tag = false → Lacks tag [n]) forest :=
    fun _ _ _ n _ h => lacks_withoutPushes n (by rwa [hasTag_withoutPushes] at h)
  have inside := holds_collectAmong forest {} pushes start name b hb
  refine ⟨fun h n hn => lacks_of_hasTag (h.of_mem hn), fun h => ?_⟩
  exact lacks_of_forall_mem fun n hn => inside n hn (h n hn)

/-! ### Replaying -/

mutual

theorem replayIn_of_lost : ∀ n : Node, replayIn tag buckets n true = ([n], true)
  | .element t attrs cs => by simp [replayIn]
  | .fragment cs => by simp [replayIn, replayAmong_of_lost cs]
  | .text _ => rfl
  | .comment _ => rfl
  | .directive _ => rfl
  | .blank => rfl

/-- Nothing more is replayed after a placeholder that names no stack. -/
theorem replayAmong_of_lost : ∀ ns : List Node, replayAmong tag buckets ns true = (ns, true)
  | [] => rfl
  | n :: ns => by simp [replayAmong, replayIn_of_lost n, replayAmong_of_lost ns]

end

mutual

theorem replayIn_of_lacks : ∀ n : Node, Lacks tag [n] →
    replayIn tag buckets n false = ([n], false)
  | .element t attrs cs, h => by
    obtain ⟨other, inside⟩ := lacks_element_iff.1 h
    have apart : (t == tag) = false := by simpa using other
    rw [replayIn, replayAmong_of_lacks cs inside, apart]
    rfl
  | .fragment cs, h => by
    rw [replayIn, replayAmong_of_lacks cs (lacks_fragment_iff.1 h)]
  | .text _, _ | .comment _, _ | .directive _, _ | .blank, _ => rfl

/-- Without placeholders nothing is replaced. -/
theorem replayAmong_of_lacks : ∀ ns : List Node, Lacks tag ns →
    replayAmong tag buckets ns false = (ns, false)
  | [], _ => rfl
  | n :: ns, h => by
    obtain ⟨here, later⟩ := lacks_cons_iff.1 h
    rw [replayAmong, replayIn_of_lacks n here]
    dsimp only
    rw [replayAmong_of_lacks ns later]
    rfl

end

theorem not_lost_of_replayAmong {ns : List Node} {lost : Bool}
    (h : (replayAmong tag buckets ns lost).2 = false) : lost = false := by
  cases lost with
  | false => rfl
  | true => rw [replayAmong_of_lost] at h; exact h

mutual

/-- The placeholders in a tree that are not inside another one. -/
def outermostIn (tag : String) : Node → List Node
  | .element t attrs cs => if t == tag then [.element t attrs cs] else outermostAmong tag cs
  | .fragment cs => outermostAmong tag cs
  | _ => []

/-- The placeholders in a forest that are not inside another one. -/
def outermostAmong (tag : String) : List Node → List Node
  | [] => []
  | n :: ns => outermostIn tag n ++ outermostAmong tag ns

end

/-- What takes the place of a placeholder. -/
def shown (buckets : Bindings Bucket) (placeholder : Node) : List Node :=
  (((placeholder.attrs.get? "name").bind buckets.get?).map Bucket.content).getD []

mutual

theorem lacks_replayIn_iff : ∀ (n : Node) (lost : Bool),
    (replayIn tag buckets n lost).2 = false → (x ≠ tag → Lacks x [n]) →
      (Lacks x (replayIn tag buckets n lost).1 ↔
        ∀ q ∈ outermostIn tag n, Lacks x (shown buckets q))
  | .element t attrs cs, lost, h, hx => by
    rw [replayIn] at h ⊢
    cases lost with
    | true => simp at h
    | false =>
      by_cases ht : t = tag
      · subst ht
        cases hname : attrs.get? "name" with
        | none => simp [hname] at h
        | some name => simp [hname, outermostIn, shown, Node.attrs]
      · have hbeq : ¬ ((t == tag) = true) := by simpa using ht
        simp only [Bool.false_eq_true, if_false, if_neg hbeq] at h ⊢
        have inside := lacks_replayAmong_iff cs false h fun hne => (lacks_element_iff.1 (hx hne)).2
        rw [lacks_element_iff, inside, outermostIn, if_neg hbeq]
        refine ⟨fun h => h.2, fun h => ⟨fun heq => ?_, h⟩⟩
        exact (lacks_element_iff.1 (hx fun hxt => ht (heq.trans hxt))).1 heq
  | .fragment cs, lost, h, hx => by
    rw [replayIn] at h ⊢
    rw [lacks_fragment_iff, outermostIn,
      lacks_replayAmong_iff cs lost h fun hne => lacks_fragment_iff.1 (hx hne)]
  | .text _, _, _, _ => ⟨fun _ _ hq => absurd hq List.not_mem_nil, fun _ => lacks_leaf rfl rfl x⟩
  | .comment _, _, _, _ => ⟨fun _ _ hq => absurd hq List.not_mem_nil, fun _ => lacks_leaf rfl rfl x⟩
  | .directive _, _, _, _ =>
    ⟨fun _ _ hq => absurd hq List.not_mem_nil, fun _ => lacks_leaf rfl rfl x⟩
  | .blank, _, _, _ => ⟨fun _ _ hq => absurd hq List.not_mem_nil, fun _ => lacks_leaf rfl rfl x⟩

/-- A tag that is that of placeholders or does not occur in a forest occurs after replaying exactly
in what is put there. -/
theorem lacks_replayAmong_iff : ∀ (ns : List Node) (lost : Bool),
    (replayAmong tag buckets ns lost).2 = false → (x ≠ tag → Lacks x ns) →
      (Lacks x (replayAmong tag buckets ns lost).1 ↔
        ∀ q ∈ outermostAmong tag ns, Lacks x (shown buckets q))
  | [], _, _, _ => by simp [replayAmong, outermostAmong, lacks_nil]
  | n :: ns, lost, h, hx => by
    have here := lacks_replayIn_iff n lost (not_lost_of_replayAmong h) fun hne =>
      (lacks_cons_iff.1 (hx hne)).1
    have rest := lacks_replayAmong_iff ns (replayIn tag buckets n lost).2 h fun hne =>
      (lacks_cons_iff.1 (hx hne)).2
    rw [replayAmong, lacks_append_iff, here, rest, outermostAmong]
    simp only [List.mem_append, or_imp, forall_and]

end

section Every

variable {P : Node → Prop}

mutual

theorem every_replayIn (shallow : Shallow P)
    (filled : ∀ name b, buckets.get? name = some b → Every P b.content) :
    ∀ (n : Node) (lost : Bool), Every P [n] → Every P (replayIn tag buckets n lost).1
  | .element t attrs cs, lost, h => by
    obtain ⟨here, hcs⟩ := every_element_iff.1 h
    rw [replayIn]
    split
    · exact h
    · split
      · cases attrs.get? "name" with
        | none => exact h
        | some name =>
          cases hb : buckets.get? name with
          | none => simpa [hb] using every_nil
          | some b => simpa [hb] using filled name b hb
      · exact every_element_iff.2
          ⟨shallow.element here _, every_replayAmong shallow filled cs false hcs⟩
  | .fragment cs, lost, h => by
    obtain ⟨here, hcs⟩ := every_fragment_iff.1 h
    exact every_fragment_iff.2
      ⟨shallow.fragment here _, every_replayAmong shallow filled cs lost hcs⟩
  | .text _, _, h => h
  | .comment _, _, h => h
  | .directive _, _, h => h
  | .blank, _, h => h

theorem every_replayAmong (shallow : Shallow P)
    (filled : ∀ name b, buckets.get? name = some b → Every P b.content) :
    ∀ (ns : List Node) (lost : Bool), Every P ns → Every P (replayAmong tag buckets ns lost).1
  | [], _, h => h
  | n :: ns, lost, h => by
    obtain ⟨hn, hns⟩ := every_cons_iff.1 h
    exact every_append_iff.2 ⟨every_replayIn shallow filled n lost hn,
      every_replayAmong shallow filled ns (replayIn tag buckets n lost).2 hns⟩

end

/-- Moving pushed content makes no nodes. -/
theorem every_resolve (shallow : Shallow P) {pushTag stackTag : String} {forest : List Node}
    (h : Every P forest) : Every P (resolve pushTag stackTag forest).forest := by
  have collected : Every P (collect pushTag forest).1 := every_collectAmong shallow forest {} h
  unfold resolve
  dsimp only
  split
  · exact collected
  · exact every_replayAmong shallow (fun _ _ hb => every_content shallow h hb) _ false collected

end Every

/-! ### Both -/

/-- Without pushes and placeholders a forest stays as it is. -/
theorem resolve_of_lacks {pushTag stackTag : String} {forest : List Node}
    (hpush : Lacks pushTag forest) (hstack : Lacks stackTag forest) :
    resolve pushTag stackTag forest = ⟨forest, [], none⟩ := by
  unfold resolve collect replay
  rw [collectAmong_of_lacks forest {} hpush]
  dsimp only
  rw [replayAmong_of_lacks forest hstack]
  rfl

section Both

variable {pushTag stackTag : String} {forest : List Node}

/-- Neither pushes nor placeholders occur in a forest. -/
def Cleared (pushTag stackTag : String) (forest : List Node) : Prop :=
  Lacks pushTag forest ∧ Lacks stackTag forest

/-- No bucket that a placeholder of a forest shows has a push among its nodes or a placeholder in
them. -/
def ShowsNoResidue (pushTag stackTag : String) (forest : List Node) : Prop :=
  ∀ q ∈ outermostAmong stackTag (collect pushTag forest).1,
    (∀ n ∈ shown (collect pushTag forest).2.buckets q, n.hasTag pushTag = false) ∧
      Lacks stackTag (shown (collect pushTag forest).2.buckets q)

/-- No push stands directly in a push, and no placeholder anywhere in one. -/
def PlainPushes (pushTag stackTag : String) (forest : List Node) : Prop :=
  ∀ attrs cs, .element pushTag attrs cs ∈ Node.preorders forest →
    ∀ n ∈ cs, n.hasTag pushTag = false ∧ Lacks stackTag [n]

/-- What a placeholder shows is nothing or the content of a bucket. -/
theorem shown_cases (buckets : Bindings Bucket) (q : Node) :
    shown buckets q = [] ∨ ∃ name b, buckets.get? name = some b ∧ shown buckets q = b.content := by
  unfold shown
  cases hb : (q.attrs.get? "name").bind buckets.get? with
  | none => exact .inl rfl
  | some b =>
    obtain ⟨name, -, hname⟩ := Option.bind_eq_some_iff.1 hb
    exact .inr ⟨name, b, hname, rfl⟩

theorem lacks_shown_iff (q : Node) :
    Lacks pushTag (shown (collect pushTag forest).2.buckets q) ↔
      ∀ n ∈ shown (collect pushTag forest).2.buckets q, n.hasTag pushTag = false := by
  rcases shown_cases (collect pushTag forest).2.buckets q with hnil | ⟨name, b, hb, hcontent⟩
  · simp [hnil, lacks_nil]
  · rw [hcontent]
    exact lacks_content_iff hb

/-- A resolution without problem has collected and replayed to the end. -/
theorem resolve_ok (ok : (resolve pushTag stackTag forest).problem? = none) :
    (collect pushTag forest).2.lost = false ∧
      (replay stackTag (collect pushTag forest).2.buckets (collect pushTag forest).1).2 = false ∧
      (resolve pushTag stackTag forest).forest =
        (replay stackTag (collect pushTag forest).2.buckets (collect pushTag forest).1).1 := by
  unfold resolve at ok ⊢
  cases hlost : (collect pushTag forest).2.lost with
  | true => simp [hlost] at ok
  | false =>
    simp only [hlost, Bool.false_eq_true, if_false] at ok ⊢
    refine ⟨trivial, ?_, trivial⟩
    cases hreplay : (replay stackTag (collect pushTag forest).2.buckets
      (collect pushTag forest).1).2 with
    | true => simp [hreplay] at ok
    | false => rfl

theorem cleared_resolve_iff (ok : (resolve pushTag stackTag forest).problem? = none) :
    Cleared pushTag stackTag (resolve pushTag stackTag forest).forest ↔
      ShowsNoResidue pushTag stackTag forest := by
  obtain ⟨collected, replayed, hforest⟩ := resolve_ok ok
  have pushes := lacks_replayAmong_iff (x := pushTag) (collect pushTag forest).1 false replayed
    fun _ => lacks_collectAmong forest {} collected
  have placeholders :=
    lacks_replayAmong_iff (x := stackTag) (collect pushTag forest).1 false replayed
    fun hne => absurd rfl hne
  rw [Cleared, hforest, replay, pushes, placeholders]
  simp only [lacks_shown_iff, ShowsNoResidue, ← forall_and]

theorem showsNoResidue_of_plainPushes (plain : PlainPushes pushTag stackTag forest) :
    ShowsNoResidue pushTag stackTag forest := by
  have pushes : Pushes pushTag (fun n => n.hasTag pushTag = false ∧ Lacks stackTag [n]) forest := by
    intro attrs cs h n hn
    obtain ⟨hpush, hstack⟩ := plain attrs cs h n hn
    exact ⟨by rwa [hasTag_withoutPushes], every_withoutPushes (shallow_hasTag stackTag) n hstack⟩
  have start : ({} : Collection).Holds fun n => n.hasTag pushTag = false ∧ Lacks stackTag [n] :=
    fun name b h => by simp [Bindings.get?] at h
  intro q _
  rcases shown_cases (collect pushTag forest).2.buckets q with hnil | ⟨name, b, hb, hcontent⟩
  · simp [hnil, lacks_nil]
  · have inside := holds_collectAmong forest {} pushes start name b hb
    rw [hcontent]
    exact ⟨fun n hn => (inside n hn).1, lacks_of_forall_mem fun n hn => (inside n hn).2⟩

/-- Where moving pushed content succeeds, it clears a forest of pushes and placeholders exactly when
no bucket that a placeholder shows has any among its nodes. Relocation of titles changes nothing
about that, unless heads are pushes or placeholders, or titles that it removes hold some. It is so
when no push stands directly in a push and no placeholder in one. -/
theorem resolve_complete_iff (ok : (resolve pushTag stackTag forest).problem? = none) :
    let resolved := (resolve pushTag stackTag forest).forest
    (Cleared pushTag stackTag resolved ↔ ShowsNoResidue pushTag stackTag forest) ∧
    (∀ rule, pushTag ≠ "head" → stackTag ≠ "head" → ShowsNoResidue pushTag stackTag forest →
      Cleared pushTag stackTag (Titles.relocate rule resolved)) ∧
    (∀ rule, Titles.TitlesLack pushTag resolved → Titles.TitlesLack stackTag resolved →
      Cleared pushTag stackTag (Titles.relocate rule resolved) →
        ShowsNoResidue pushTag stackTag forest) ∧
    (PlainPushes pushTag stackTag forest → ShowsNoResidue pushTag stackTag forest) := by
  have exactly := cleared_resolve_iff ok
  refine ⟨exactly, fun rule hpush hstack none => ?_, fun rule pushes placeholders cleared => ?_,
    showsNoResidue_of_plainPushes⟩
  · obtain ⟨pushes, placeholders⟩ := exactly.2 none
    exact ⟨Titles.lacks_relocate hpush rule pushes, Titles.lacks_relocate hstack rule placeholders⟩
  · exact exactly.1 ⟨Titles.lacks_of_lacks_relocate pushes cleared.1,
      Titles.lacks_of_lacks_relocate placeholders cleared.2⟩

/-- A push in a push, and a placeholder for it. -/
def nestedPush : List Node :=
  [.element "push" [("stack", "a")] [.element "push" [("stack", "b")] [.text "x"]],
    .element "stack" [("name", "a")] []]

theorem resolve_complete_iff_nestedPush :
    (resolve "push" "stack" nestedPush).problem? = none ∧
      (Cleared "push" "stack" (resolve "push" "stack" nestedPush).forest ↔
        ShowsNoResidue "push" "stack" nestedPush) :=
  ⟨rfl, (resolve_complete_iff rfl).1⟩

/-- A push that stands directly in a push is still there, empty, after its bucket is shown. -/
theorem nestedPush_left :
    (resolve "push" "stack" nestedPush).problem? = none ∧
      Titles.relocate .preserve (resolve "push" "stack" nestedPush).forest =
        [.element "push" [("stack", "b")] []] ∧
      ¬ Lacks "push" (Titles.relocate .preserve (resolve "push" "stack" nestedPush).forest) :=
  ⟨rfl, by decide +kernel, by decide +kernel⟩

end Both

end HtmlTemplate.Stacks
