import ForumQuery.Proofs.Parts

/-!
# Names — clauses that are written with a list of names

Slugs and names of tags are written with ASCII letters and digits and a few marks (`NameOver`), none
of which is blank or a separator.  So a list of them, written with a separator between each two, is
one clause of a query, and it names what is written (`Context.yields_categories`,
`Context.yields_tags`); and so is a list of levels, whatever its items are
(`Context.yields_levels`).
-/

namespace ForumQuery

open Query Contribution Text

/-! ### Characters -/

/-- What holds of the first 128 characters holds of each of them. -/
theorem forall_ascii (P : Char → Prop) (h : ∀ n < 128, P (Char.ofNat n)) {c : Char}
    (hc : c.toNat < 128) : P c :=
  Char.ofNat_toNat c ▸ h c.toNat hc

namespace Clause

theorem toNat_lt_of_isSlugChar {c : Char} (h : isSlugChar c = true) : c.toNat < 128 := by
  have hlast : ∀ last : Char, last.toNat < 128 → c.val ≤ last.val → c.toNat < 128 :=
    fun last hlast hle => Nat.lt_of_le_of_lt (UInt32.le_iff_toNat_le.1 hle) hlast
  simp only [isSlugChar, Bool.or_eq_true, beq_iff_eq] at h
  rcases h with (h | rfl) | rfl
  · rcases Bool.or_eq_true_iff.1 h with hletter | hdigit
    · rcases Bool.or_eq_true_iff.1 hletter with hupper | hlower
      · exact hlast 'Z' (by decide) (of_decide_eq_true hupper).2
      · exact hlast 'z' (by decide) (of_decide_eq_true (Bool.and_eq_true_iff.1 hlower).2)
    · exact hlast '9' (by decide) (of_decide_eq_true (Bool.and_eq_true_iff.1 hdigit).2)
  · decide
  · decide

theorem isBlank_of_isSlugChar {c : Char} (h : isSlugChar c = true) : isBlank c = false := by
  have hascii := forall_ascii (fun c => isSlugChar c = true → isBlank c = false)
    (by decide +kernel) (toNat_lt_of_isSlugChar h)
  exact hascii h

theorem isSlugChar_of_isTagChar {c : Char} (h : isTagChar c = true) : isSlugChar c = true := by
  rw [isSlugChar]
  exact Bool.or_eq_true_iff.2 (.inl h)

end Clause

/-! ### Names -/

/-- A name that is written with an alphabet. -/
structure NameOver (alphabet : Char → Bool) (name : String) : Prop where
  ne_empty : name ≠ ""
  chars : ∀ c ∈ name.toList, alphabet c = true

instance (alphabet : Char → Bool) (name : String) : Decidable (NameOver alphabet name) :=
  decidable_of_iff (name ≠ "" ∧ name.toList.all alphabet = true)
    ⟨fun h => ⟨h.1, List.all_eq_true.1 h.2⟩, fun h => ⟨h.ne_empty, List.all_eq_true.2 h.chars⟩⟩

namespace NameOver

variable {name : String}

theorem slug (h : NameOver Clause.isTagChar name) : NameOver Clause.isSlugChar name where
  ne_empty := h.ne_empty
  chars c hc := Clause.isSlugChar_of_isTagChar (h.chars c hc)

theorem solid (h : NameOver Clause.isSlugChar name) : Solid name where
  ne_empty := h.ne_empty
  solid c hc := Clause.isBlank_of_isSlugChar (h.chars c hc)

/-- A name is an item of a list if no separator is of its alphabet. -/
theorem isItem {alphabet : Char → Bool} {permitted : List Separator} (h : NameOver alphabet name)
    (hseparators : ∀ s ∈ permitted, alphabet s.char = false) :
    ValueList.IsItem permitted alphabet name.toList := by
  refine ⟨mt String.toList_eq_nil_iff.1 h.ne_empty, h.chars, fun s hs hmem => ?_⟩
  have hchar := h.chars s.char hmem
  rw [hseparators s hs] at hchar
  cases hchar

/-- The items of a list are names. -/
theorem of_parse? {alphabet : Char → Bool} {permitted : List Separator} {raw : String}
    {list : ValueList} (h : ValueList.parse? permitted alphabet raw = some list)
    (hname : name ∈ list.items) : NameOver alphabet name := by
  have hitem := (ValueList.parse?_eq_some_iff.1 h).isItem_of_mem hname
  exact ⟨mt String.toList_eq_nil_iff.2 hitem.ne_nil, hitem.alphabet⟩

end NameOver

/-! ### Clauses -/

namespace Clause

theorem ofCategories?_intercalate {flag : Option Flag} (hflag : flag ≠ some .exclude)
    {slugs : List String} (hne : slugs ≠ []) (h : ∀ slug ∈ slugs, NameOver isSlugChar slug) :
    ofCategories? flag (",".intercalate slugs) =
      some (categories slugs.eraseDups (flag ≠ some .strict)) := by
  have hseparators : ∀ s ∈ [Separator.comma], isSlugChar s.char = false := by decide
  have hcomma : ",".toList = [Separator.comma.char] := rfl
  obtain ⟨separator, -, hread⟩ := ValueList.exists_parse?_intercalate hcomma
    (List.mem_singleton_self _) hne fun slug hslug => (h slug hslug).isItem hseparators
  rw [ofCategories?, if_neg hflag, hread]
  rfl

theorem ofTags?_intercalate {names : List String} (hne : names ≠ [])
    (h : ∀ name ∈ names, NameOver isTagChar name) :
    ofTags? none ("+".intercalate names) = some (tags names.eraseDups .all false) := by
  have hseparators : ∀ s ∈ [Separator.comma, Separator.plus], isTagChar s.char = false := by decide
  have hplus : "+".toList = [Separator.plus.char] := rfl
  obtain ⟨separator, hseparator, hread⟩ := ValueList.exists_parse?_intercalate hplus
    (by decide) hne fun name hname => (h name hname).isItem hseparators
  have hmode : MatchMode.ofSeparator separator = .all := by
    rcases hseparator with rfl | rfl <;> rfl
  rw [ofTags?, if_neg (by decide), hread, Option.map_some, hmode]
  rfl

/-- The items of a list of levels are what stands between its commas. -/
theorem ofState_intercalate {items : List String} (hne : items ≠ [])
    (h : ∀ item ∈ items, ',' ∉ item.toList ∧ item ≠ "pinned" ∧ item ≠ "bookmarked") :
    ofState (",".intercalate items) = levels (items.filterMap Level.ofName?) := by
  have hcommas : ∀ part ∈ items.map String.toList, ',' ∉ part :=
    List.forall_mem_map.2 fun item hitem => (h item hitem).1
  have hsplit : (",".intercalate items).toList.splitOn ',' = items.map String.toList := by
    rw [String.toList_intercalate]
    exact List.splitOn_intercalate ',' hcommas (mt List.map_eq_nil_iff.1 hne)
  -- a text without commas is its own and only item
  have hnot : ∀ text : String, text ∉ items → text.toList.splitOn ',' = [text.toList] →
      ",".intercalate items ≠ text := by
    rintro _ hmem halone rfl
    have hparts : (",".intercalate items).toList ∈ items.map String.toList := by
      rw [← hsplit, halone]
      exact List.mem_singleton_self _
    obtain ⟨item, hitem, htext⟩ := List.mem_map.1 hparts
    exact hmem (String.toList_injective htext ▸ hitem)
  have hpinned := hnot "pinned" (fun hmem => (h _ hmem).2.1 rfl) (by decide)
  have hbookmarked := hnot "bookmarked" (fun hmem => (h _ hmem).2.2 rfl) (by decide)
  have hnames : levelsNamed (",".intercalate items) = items.filterMap Level.ofName? := by
    rw [levelsNamed, hsplit, List.filterMap_map]
    exact List.filterMap_congr fun item _ => congrArg Level.ofName? String.ofList_toList
  rw [ofState, hnames]
  · exact hpinned
  · exact hbookmarked

end Clause

/-! ### Queries -/

namespace Context

variable {context : Context}

/-- **What a list of slugs adds** where it stands in a query. -/
theorem yields_categories {flag : Option Flag} (hflag : flag ≠ some .exclude) {slugs : List String}
    (hne : slugs ≠ []) (h : ∀ slug ∈ slugs, NameOver Clause.isSlugChar slug) :
    context.yields (clauseText flag "category" (",".intercalate slugs)) =
      [(ofSlugs context slugs.eraseDups (flag ≠ some .strict)).value] := by
  have hkey : Solid "category" := by decide
  have hvalue : Solid (",".intercalate slugs) :=
    solid_intercalate rfl (by decide) hne fun slug hslug => (h slug hslug).solid
  have hclause : Clause.ofToken? ⟨flag, "category", ",".intercalate slugs, 0⟩ =
      some (.categories slugs.eraseDups (flag ≠ some .strict)) :=
    Clause.ofCategories?_intercalate hflag hne h
  exact yields_clauseText hkey (by decide +kernel) hvalue hclause

/-- **What a list of tags adds** where it stands in a query. -/
theorem yields_tags {names : List String} (hne : names ≠ [])
    (h : ∀ name ∈ names, NameOver Clause.isTagChar name) :
    context.yields (clauseText none "tags" ("+".intercalate names)) =
      [((Clause.tags names.eraseDups .all false).contribution context).value] := by
  have hkey : Solid "tags" := by decide
  have hvalue : Solid ("+".intercalate names) :=
    solid_intercalate rfl (by decide) hne fun name hname => (h name hname).slug.solid
  exact yields_clauseText hkey (by decide +kernel) hvalue (Clause.ofTags?_intercalate hne h)

/-- **What a list of levels adds** where it stands in a query. -/
theorem yields_levels {items : List String} (hne : items ≠ []) (hsolid : ∀ item ∈ items, Solid item)
    (h : ∀ item ∈ items, ',' ∉ item.toList ∧ item ≠ "pinned" ∧ item ≠ "bookmarked") :
    context.yields (clauseText none "in" (",".intercalate items)) =
      [((Clause.levels (items.filterMap Level.ofName?)).contribution context).value] := by
  have hkey : Solid "in" := by decide
  have hvalue : Solid (",".intercalate items) := solid_intercalate rfl (by decide) hne hsolid
  exact yields_clauseText hkey (by decide +kernel) hvalue
    (congrArg some (Clause.ofState_intercalate hne h))

end Context

end ForumQuery
