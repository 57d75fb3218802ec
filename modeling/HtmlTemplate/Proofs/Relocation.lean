import HtmlTemplate.Proofs.Occurrence
import HtmlTemplate.Titles

/-!
# What relocation of titles keeps

Relocation of titles moves a title, removes others, and may add a head. So what holds of all nodes
of a forest and of heads holds of all nodes afterwards (`every_relocate`). In particular a tag other
than that of heads that does not occur in a forest does not occur afterwards (`lacks_relocate`), and
where no title has the tag inside it, none of its elements is lost (`lacks_of_lacks_relocate`).
-/

namespace HtmlTemplate.Titles

open HtmlTemplate.Markup

variable {tag : String}

/-! ### Titles in forests -/

/-- What goes through a list by keeping what it has or taking an entry ends with an entry. -/
theorem mem_of_foldl_eq_some {α : Type} {step : Option α → α → Option α}
    (hstep : ∀ best? t, step best? t = some t ∨ step best? t = best?) (rest : List α) :
    ∀ (best? : Option α) {best : α}, rest.foldl step best? = some best →
      best ∈ rest ∨ best? = some best := by
  induction rest with
  | nil => exact fun best? best h => .inr h
  | cons t rest ih =>
    intro best? best h
    rcases ih _ h with hrest | hbest
    · exact .inl (List.mem_cons_of_mem t hrest)
    · rcases hstep best? t with htaken | hkept
      · rw [htaken] at hbest
        exact .inl (Option.some.inj hbest ▸ List.mem_cons_self)
      · rw [hkept] at hbest
        exact .inr hbest

theorem deepest?_mem {titles : List (Node × Nat)} {best : Node × Nat}
    (h : deepest? titles = some best) : best ∈ titles := by
  refine (mem_of_foldl_eq_some (fun best? t => ?_) titles none h).resolve_right (by simp)
  cases best? with
  | none => exact .inl rfl
  | some b =>
    dsimp only
    split
    · exact .inl rfl
    · exact .inr rfl

mutual

theorem withoutTitles_of_lacks : ∀ n : Node, Lacks "title" [n] → withoutTitles n = n
  | .element t attrs cs, h => by
    rw [withoutTitles, dropTitles_of_lacks cs (lacks_element_iff.1 h).2]
  | .fragment cs, h => by
    rw [withoutTitles, dropTitles_of_lacks cs (lacks_fragment_iff.1 h)]
  | .text _, _ | .comment _, _ | .directive _, _ | .blank, _ => rfl

theorem dropTitles_of_lacks : ∀ ns : List Node, Lacks "title" ns → dropTitles ns = ns
  | [], _ => rfl
  | n :: ns, h => by
    obtain ⟨here, later⟩ := lacks_cons_iff.1 h
    rw [dropTitles, lacks_of_hasTag here, withoutTitles_of_lacks n here,
      dropTitles_of_lacks ns later]
    rfl

end

/-! ### Nothing new but a head -/

section Every

variable {P : Node → Prop}

mutual

theorem every_withoutTitles (shallow : Shallow P) : ∀ n : Node, Every P [n] →
    Every P [withoutTitles n]
  | .element t attrs cs, h => by
    obtain ⟨here, hcs⟩ := every_element_iff.1 h
    exact every_element_iff.2 ⟨shallow.element here _, every_dropTitles shallow cs hcs⟩
  | .fragment cs, h => by
    obtain ⟨here, hcs⟩ := every_fragment_iff.1 h
    exact every_fragment_iff.2 ⟨shallow.fragment here _, every_dropTitles shallow cs hcs⟩
  | .text _, h => h
  | .comment _, h => h
  | .directive _, h => h
  | .blank, h => h

theorem every_dropTitles (shallow : Shallow P) : ∀ ns : List Node, Every P ns →
    Every P (dropTitles ns)
  | [], _ => every_nil
  | n :: ns, h => by
    obtain ⟨hn, hns⟩ := every_cons_iff.1 h
    rw [dropTitles]
    split
    · exact every_dropTitles shallow ns hns
    · exact every_cons_iff.2 ⟨every_withoutTitles shallow n hn, every_dropTitles shallow ns hns⟩

end

mutual

theorem every_titlesIn (shallow : Shallow P) : ∀ (n : Node) (depth : Nat), Every P [n] →
    ∀ t ∈ titlesIn depth n, Every P [t.1]
  | .element t attrs cs, depth, h => by
    obtain ⟨here, hcs⟩ := every_element_iff.1 h
    intro title htitle
    rw [titlesIn] at htitle
    split at htitle
    · rcases List.mem_cons.1 htitle with rfl | htitle
      · exact every_element_iff.2 ⟨shallow.element here _, every_dropTitles shallow cs hcs⟩
      · exact every_titlesAmong shallow cs 1 hcs title htitle
    · exact every_titlesAmong shallow cs (depth + 1) hcs title htitle
  | .fragment cs, depth, h => every_titlesAmong shallow cs (depth + 1) (every_fragment_iff.1 h).2
  | .text _, _, _ => by simp [titlesIn]
  | .comment _, _, _ => by simp [titlesIn]
  | .directive _, _, _ => by simp [titlesIn]
  | .blank, _, _ => by simp [titlesIn]

theorem every_titlesAmong (shallow : Shallow P) : ∀ (ns : List Node) (depth : Nat), Every P ns →
    ∀ t ∈ titlesAmong depth ns, Every P [t.1]
  | [], _, _ => by simp [titlesAmong]
  | n :: ns, depth, h => by
    obtain ⟨hn, hns⟩ := every_cons_iff.1 h
    intro title htitle
    rcases List.mem_append.1 htitle with htitle | htitle
    · exact every_titlesIn shallow n depth hn title htitle
    · exact every_titlesAmong shallow ns depth hns title htitle

end

theorem every_bodyTitle (shallow : Shallow P) {children : List Node} {title : Node}
    (h : Every P children) (found : bodyTitle? children = some title) : Every P [title] := by
  unfold bodyTitle? at found
  cases hbody : children.find? (·.hasTag "body") with
  | none => simp [hbody] at found
  | some body =>
    simp only [hbody, Option.map_eq_some_iff] at found
    obtain ⟨best, hbest, rfl⟩ := found
    have inside := (h.of_mem (List.mem_of_find?_eq_some hbody)).children
    exact every_titlesAmong shallow body.children 0 inside best (deepest?_mem hbest)

theorem every_headWith (shallow : Shallow P) {title n : Node} (htitle : Every P [title])
    (h : Every P [n]) : Every P [headWith title n] := by
  cases n with
  | element t attrs cs =>
    obtain ⟨here, hcs⟩ := every_element_iff.1 h
    exact every_element_iff.2 ⟨shallow.element here _,
      every_append_iff.2 ⟨every_dropTitles shallow cs hcs, htitle⟩⟩
  | _ => exact h

theorem every_ensureHead (shallow : Shallow P) (head : P (.element "head" [] []))
    {title? : Option Node} {children : List Node}
    (htitle : ∀ title, title? = some title → Every P [title]) (h : Every P children) :
    Every P (ensureHead title? children) := by
  cases title? with
  | none => exact h
  | some title =>
    simp only [ensureHead]
    split
    · exact h
    · exact every_cons_iff.2
        ⟨every_element_iff.2 ⟨shallow.element head _, htitle title rfl⟩, h⟩

mutual

theorem every_relocateIn (shallow : Shallow P) (head : P (.element "head" [] [])) :
    ∀ n : Node, Every P [n] → Every P [relocateIn n]
  | .element t attrs cs, h => by
    obtain ⟨here, hcs⟩ := every_element_iff.1 h
    rw [relocateIn]
    split
    · have htitle (title : Node) (found : bodyTitle? cs = some title) : Every P [title] :=
        every_bodyTitle shallow hcs found
      exact every_element_iff.2 ⟨shallow.element here _, every_ensureHead shallow head htitle
        (every_relocateChildren shallow head cs _ _ _ htitle hcs)⟩
    · exact every_element_iff.2 ⟨shallow.element here _, every_relocateAmong shallow head cs hcs⟩
  | .fragment cs, h => by
    obtain ⟨here, hcs⟩ := every_fragment_iff.1 h
    exact every_fragment_iff.2 ⟨shallow.fragment here _, every_relocateAmong shallow head cs hcs⟩
  | .text _, h => h
  | .comment _, h => h
  | .directive _, h => h
  | .blank, h => h

theorem every_relocateAmong (shallow : Shallow P) (head : P (.element "head" [] [])) :
    ∀ ns : List Node, Every P ns → Every P (relocateAmong ns)
  | [], h => h
  | n :: ns, h => by
    obtain ⟨hn, hns⟩ := every_cons_iff.1 h
    exact every_cons_iff.2
      ⟨every_relocateIn shallow head n hn, every_relocateAmong shallow head ns hns⟩

theorem every_relocateChildren (shallow : Shallow P) (head : P (.element "head" [] [])) :
    ∀ (ns : List Node) (title? : Option Node) (bodyMet headMet : Bool),
      (∀ title, title? = some title → Every P [title]) → Every P ns →
        Every P (relocateChildren title? bodyMet headMet ns)
  | [], _, _, _, _, h => h
  | n :: ns, title?, bodyMet, headMet, htitle, h => by
    obtain ⟨hn, hns⟩ := every_cons_iff.1 h
    have rest := fun b h => every_relocateChildren shallow head ns title? b h htitle hns
    rw [relocateChildren.eq_def]
    dsimp only
    split
    · exact every_cons_iff.2 ⟨every_withoutTitles shallow n hn, rest _ _⟩
    · split
      · cases title? with
        | some title =>
          exact every_cons_iff.2 ⟨every_headWith shallow (htitle title rfl) hn, rest _ _⟩
        | none => exact every_cons_iff.2 ⟨every_relocateIn shallow head n hn, rest _ _⟩
      · exact every_cons_iff.2 ⟨every_relocateIn shallow head n hn, rest _ _⟩

end

/-- Relocation of titles makes no nodes but heads. -/
theorem every_relocate (shallow : Shallow P) (head : P (.element "head" [] [])) (rule : TitleRule)
    {forest : List Node} (h : Every P forest) : Every P (relocate rule forest) := by
  unfold relocate
  split
  · exact every_relocateAmong shallow head forest h
  · cases rule with
    | preserve => exact h
    | remove => exact every_dropTitles shallow forest h

end Every

/-- Relocation of titles adds no elements but heads. -/
theorem lacks_relocate (hhead : tag ≠ "head") (rule : TitleRule) {forest : List Node}
    (h : Lacks tag forest) : Lacks tag (relocate rule forest) :=
  every_relocate (shallow_hasTag tag) (by simpa [Node.hasTag, Node.tag?] using hhead.symm) rule h

/-! ### Nothing lost but titles -/

/-- No title of a forest has an element with the tag inside it or is one. -/
def TitlesLack (tag : String) (forest : List Node) : Prop :=
  ∀ n ∈ Node.preorders forest, n.hasTag "title" = true → Lacks tag [n]

theorem titlesLack_cons_iff {n : Node} {ns : List Node} :
    TitlesLack tag (n :: ns) ↔ TitlesLack tag [n] ∧ TitlesLack tag ns := by
  simp only [TitlesLack, Node.preorders, List.append_nil, List.mem_append, or_imp, forall_and]

theorem TitlesLack.children {t : String} {attrs : Attrs} {cs : List Node}
    (h : TitlesLack tag [.element t attrs cs]) : TitlesLack tag cs := fun n hn =>
  h n (by simp [Node.preorders, Node.preorder, hn])

theorem TitlesLack.of_fragment {cs : List Node} (h : TitlesLack tag [.fragment cs]) :
    TitlesLack tag cs := fun n hn =>
  h n (by simp [Node.preorders, Node.preorder, hn])

theorem TitlesLack.lacks {n : Node} (h : TitlesLack tag [n]) (title : n.hasTag "title" = true) :
    Lacks tag [n] :=
  h n (by cases n <;> simp [Node.preorders, Node.preorder]) title

mutual

theorem lacks_of_withoutTitles : ∀ n : Node, TitlesLack tag [n] →
    Lacks tag [withoutTitles n] → Lacks tag [n]
  | .element t attrs cs, bare, h => by
    obtain ⟨ht, hcs⟩ := lacks_element_iff.1 h
    exact lacks_element_iff.2 ⟨ht, lacks_of_dropTitles cs bare.children hcs⟩
  | .fragment cs, bare, h =>
    lacks_fragment_iff.2 (lacks_of_dropTitles cs bare.of_fragment (lacks_fragment_iff.1 h))
  | .text _, _, h => h
  | .comment _, _, h => h
  | .directive _, _, h => h
  | .blank, _, h => h

theorem lacks_of_dropTitles : ∀ ns : List Node, TitlesLack tag ns →
    Lacks tag (dropTitles ns) → Lacks tag ns
  | [], _, h => h
  | n :: ns, bare, h => by
    obtain ⟨hn, hns⟩ := titlesLack_cons_iff.1 bare
    rw [dropTitles] at h
    split at h
    · rename_i title
      exact lacks_cons_iff.2 ⟨hn.lacks title, lacks_of_dropTitles ns hns h⟩
    · obtain ⟨first, rest⟩ := lacks_cons_iff.1 h
      exact lacks_cons_iff.2 ⟨lacks_of_withoutTitles n hn first, lacks_of_dropTitles ns hns rest⟩

end

theorem lacks_of_headWith {title n : Node} (bare : TitlesLack tag [n])
    (h : Lacks tag [headWith title n]) : Lacks tag [n] := by
  cases n with
  | element t attrs cs =>
    obtain ⟨ht, hcs⟩ := lacks_element_iff.1 h
    exact lacks_element_iff.2
      ⟨ht, lacks_of_dropTitles cs bare.children (lacks_append_iff.1 hcs).1⟩
  | _ => exact h

theorem lacks_of_ensureHead {title? : Option Node} {children : List Node}
    (h : Lacks tag (ensureHead title? children)) : Lacks tag children := by
  cases title? with
  | none => exact h
  | some title =>
    simp only [ensureHead] at h
    split at h
    · exact h
    · exact (lacks_cons_iff.1 h).2

mutual

theorem lacks_of_relocateIn : ∀ n : Node, TitlesLack tag [n] →
    Lacks tag [relocateIn n] → Lacks tag [n]
  | .element t attrs cs, bare, h => by
    rw [relocateIn] at h
    split at h
    · obtain ⟨ht, hcs⟩ := lacks_element_iff.1 h
      exact lacks_element_iff.2
        ⟨ht, lacks_of_relocateChildren cs _ _ _ bare.children (lacks_of_ensureHead hcs)⟩
    · obtain ⟨ht, hcs⟩ := lacks_element_iff.1 h
      exact lacks_element_iff.2 ⟨ht, lacks_of_relocateAmong cs bare.children hcs⟩
  | .fragment cs, bare, h =>
    lacks_fragment_iff.2 (lacks_of_relocateAmong cs bare.of_fragment (lacks_fragment_iff.1 h))
  | .text _, _, h => h
  | .comment _, _, h => h
  | .directive _, _, h => h
  | .blank, _, h => h

theorem lacks_of_relocateAmong : ∀ ns : List Node, TitlesLack tag ns →
    Lacks tag (relocateAmong ns) → Lacks tag ns
  | [], _, h => h
  | n :: ns, bare, h => by
    obtain ⟨hn, hns⟩ := titlesLack_cons_iff.1 bare
    obtain ⟨first, rest⟩ := lacks_cons_iff.1 h
    exact lacks_cons_iff.2 ⟨lacks_of_relocateIn n hn first, lacks_of_relocateAmong ns hns rest⟩

theorem lacks_of_relocateChildren : ∀ (ns : List Node) (title? : Option Node)
    (bodyMet headMet : Bool), TitlesLack tag ns →
      Lacks tag (relocateChildren title? bodyMet headMet ns) → Lacks tag ns
  | [], _, _, _, _, h => h
  | n :: ns, title?, bodyMet, headMet, bare, h => by
    obtain ⟨hn, hns⟩ := titlesLack_cons_iff.1 bare
    rw [relocateChildren.eq_def] at h
    dsimp only at h
    split at h
    · obtain ⟨first, rest⟩ := lacks_cons_iff.1 h
      exact lacks_cons_iff.2 ⟨lacks_of_withoutTitles n hn first,
        lacks_of_relocateChildren ns title? _ _ hns rest⟩
    · split at h
      · cases title? with
        | some title =>
          obtain ⟨first, rest⟩ := lacks_cons_iff.1 h
          exact lacks_cons_iff.2 ⟨lacks_of_headWith hn first,
            lacks_of_relocateChildren ns _ _ _ hns rest⟩
        | none =>
          obtain ⟨first, rest⟩ := lacks_cons_iff.1 h
          exact lacks_cons_iff.2 ⟨lacks_of_relocateIn n hn first,
            lacks_of_relocateChildren ns _ _ _ hns rest⟩
      · obtain ⟨first, rest⟩ := lacks_cons_iff.1 h
        exact lacks_cons_iff.2 ⟨lacks_of_relocateIn n hn first,
          lacks_of_relocateChildren ns title? _ _ hns rest⟩

end

/-- Relocation of titles loses no elements but titles and what is inside them. -/
theorem lacks_of_lacks_relocate {rule : TitleRule} {forest : List Node}
    (bare : TitlesLack tag forest) (h : Lacks tag (relocate rule forest)) : Lacks tag forest := by
  unfold relocate at h
  split at h
  · exact lacks_of_relocateAmong forest bare h
  · cases rule with
    | preserve => exact h
    | remove => exact lacks_of_dropTitles forest bare h

end HtmlTemplate.Titles
