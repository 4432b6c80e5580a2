import ForumQuery.Proofs.Directory.Lookup
import ForumQuery.Proofs.Names

/-!
# Groups — what is found for a name does not depend on the others

A directory finds tags by their names in lower case, and a clause picks the rows that answer for a
name by their ASCII letters in lower case.  On the names that a clause can hold these are the same
(`Text.lowercase_eq_toLower`).  So although a row answers for all names of a list that differ from
its own in case only, such names find the same tag, and the group of a name is the tag that may be
seen under it, with the one that it is an alias of (`Directory.group_rows`).
-/

namespace ForumQuery

open Query Text

/-! ### Lower case -/

theorem Text.lowerFrom_eq_map {before cs : List Char} (h : ∀ c ∈ cs, c.toNat < 128) :
    lowerFrom before cs = cs.map Char.toLower := by
  induction cs generalizing before with
  | nil => rfl
  | cons c rest ih =>
      rw [List.forall_mem_cons] at h
      have hlower := forall_ascii (fun c => c ≠ 'Σ' ∧ lowerChar c = [c.toLower])
        (by decide +kernel) h.1
      rw [lowerFrom, if_neg hlower.1, hlower.2, ih h.2]
      rfl

/-- **A text of ASCII characters in lower case.** -/
theorem Text.lowercase_eq_toLower {text : String} (h : ∀ c ∈ text.toList, c.toNat < 128) :
    lowercase text = text.toLower := by
  rw [lowercase, lowerFrom_eq_map h, ← String.toList_map, String.ofList_toList]
  rfl

theorem NameOver.lowercase_eq {name : String} (h : NameOver Clause.isTagChar name) :
    lowercase name = name.toLower :=
  lowercase_eq_toLower fun c hc => Clause.toNat_lt_of_isSlugChar (h.slug.chars c hc)

/-! ### Groups -/

namespace Directory

variable (directory : Directory) (guardian : Guardian)

/-- The tags that a name stands for, if they may be seen. -/
def named (name : String) : RankedSet TagId :=
  .ofList (((directory.tag? name).filter (TagEntry.visible guardian)).toList.flatMap fun entry =>
    (entry.row name).ids)

variable {directory guardian}

theorem tag?_congr {first second : String} (h : lowercase first = lowercase second) :
    directory.tag? first = directory.tag? second := by
  rw [tag?, tag?, h]

/-- **What is found for a name does not depend on the other names** of a clause. -/
theorem group_rows {names : List String} (hnames : ∀ name ∈ names, NameOver Clause.isTagChar name)
    {name : String} (hname : name ∈ names) :
    TagRow.group (directory.rows guardian names).value name = directory.named guardian name := by
  refine RankedSet.ext fun tag => ?_
  rw [TagRow.group, named, RankedSet.mem_ofList, RankedSet.mem_ofList, List.mem_flatMap,
    List.mem_flatMap, value_rows]
  constructor
  · rintro ⟨row, hrow, htag⟩
    obtain ⟨hmem, hanswers⟩ := List.mem_filter.1 hrow
    obtain ⟨other, hother, hvalue⟩ := List.mem_filterMap.1 hmem
    rw [value_row?, Option.map_eq_some_iff] at hvalue
    obtain ⟨entry, hentry, rfl⟩ := hvalue
    -- the row is that of a name which differs in case only
    have hlower : lowercase other = lowercase name := by
      rw [(hnames other hother).lowercase_eq, (hnames name hname).lowercase_eq]
      exact beq_iff_eq.1 hanswers
    rw [tag?_congr hlower] at hentry
    exact ⟨entry, Option.mem_toList.2 hentry, htag⟩
  · rintro ⟨entry, hentry, htag⟩
    refine ⟨entry.row name, List.mem_filter.2 ⟨List.mem_filterMap.2 ⟨name, hname, ?_⟩, ?_⟩, htag⟩
    · rw [value_row?, Option.mem_toList.1 hentry]
      rfl
    · exact beq_self_eq_true _

/-- What a clause for tags adds, name by name. -/
theorem value_contribution_tags_context {names : List String} (hne : names ≠ [])
    (hnames : ∀ name ∈ names, NameOver Clause.isTagChar name) (taggingEnabled : Bool)
    (now : Instant) (mode : MatchMode) (exclude : Bool) :
    ((Clause.tags names mode exclude).contribution
        (directory.context guardian taggingEnabled now)).value =
      if taggingEnabled then .ofGroups (names.map (directory.named guardian)) mode exclude
      else .inert := by
  have hgroups : names.map (TagRow.group (directory.rows guardian names).value) =
      names.map (directory.named guardian) :=
    List.map_congr_left fun name hname => group_rows hnames hname
  rw [Clause.value_contribution_tags_of_ne_nil _ hne, value_lookupTags_context, hgroups]
  rfl

end Directory

end ForumQuery
