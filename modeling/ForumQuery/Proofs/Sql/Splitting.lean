import ForumQuery.Directory.Permissions
import ForumQuery.Proofs.Exchange
import ForumQuery.Proofs.Directory.Groups
import ForumQuery.Proofs.Sql.Drafts

/-!
# Splitting — a clause for all of some tags is a clause for each

A clause for all of some tags makes one condition with a join for each tag, and a clause for each of
them makes as many conditions of one join.  The chains differ, but the labels are counted alike
(`conditionsFrom_everyGroup_singletons`), both collapse where a tag is not found
(`Contribution.exchangeable_ofGroups`), and a draft takes the joins of a condition one by one
(`Draft.foldl_apply_singletons`).  What is found for a name does not depend on the other names of
its clause; so wherever such a clause stands in a query, it can be split and the statement is the
same (`statement_split`).
-/

namespace ForumQuery

open Query Sql Contribution

/-! ### Contributions -/

namespace Contribution

theorem labelTotal_everyGroup_singletons (groups : List (RankedSet TagId)) :
    labelTotal (groups.map fun tags => everyGroup [tags]) = groups.length := by
  induction groups with
  | nil => rfl
  | cons tags rest ih =>
      rw [List.map_cons, labelTotal, ih, List.length_cons, Nat.add_comm]
      rfl

/-- The conditions of one group each take the labels that the condition of all groups does. -/
theorem conditionsFrom_everyGroup_singletons (number : Nat) (groups : List (RankedSet TagId)) :
    conditionsFrom number (groups.map fun tags => everyGroup [tags]) =
      (Builder.joinsFrom number groups).map fun join => .taggedWithAll [join] := by
  induction groups generalizing number with
  | nil => rfl
  | cons tags rest ih =>
      rw [List.map_cons, conditionsFrom, Builder.joinsFrom, List.map_cons]
      exact congrArg (_ :: ·) (ih (number + 1))

/-- One group each adds what it adds alone, where none is empty. -/
theorem map_ofGroups_of_not_isEmpty {groups : List (RankedSet TagId)}
    (h : ¬ ∃ tags ∈ groups, tags.isEmpty = true) :
    (groups.map fun tags => ofGroups [tags] .all false) =
      groups.map fun tags => everyGroup [tags] := by
  refine List.map_congr_left fun tags ht => ofGroups_of_not_isEmpty ?_ false
  rintro ⟨other, hother, hempty⟩
  exact h ⟨tags, ht, List.mem_singleton.1 hother ▸ hempty⟩

/-- **A clause for all of some tags can be exchanged for a clause for each**, whatever is found for
them. -/
theorem exchangeable_ofGroups (groups : List (RankedSet TagId)) :
    Exchangeable [ofGroups groups .all false]
      (groups.map fun tags => ofGroups [tags] .all false) := by
  by_cases h : ∃ tags ∈ groups, tags.isEmpty = true
  · obtain ⟨tags, ht, hempty⟩ := h
    refine (equivalent_of_collapse (List.mem_singleton.2 ?_)
      (List.mem_map.2 ⟨tags, ht, ?_⟩)).toExchangeable
    · exact (ofGroups_of_isEmpty ht hempty false).symm
    · exact ofGroups_of_isEmpty (List.mem_singleton_self tags) hempty false
  · have hscopes : (groups.map fun tags => everyGroup [tags]).filterMap scope? = [] :=
      List.filterMap_eq_nil_iff.2 (List.forall_mem_map.2 fun _ _ => rfl)
    rw [ofGroups_of_not_isEmpty h false, map_ofGroups_of_not_isEmpty h]
    constructor
    case collapse_iff => simp
    case labels => exact fun _ => (labelTotal_everyGroup_singletons groups).symm
    case scopes => exact fun _ registry => congrArg registry.registerAll hscopes.symm

/-- The conditions of a clause for all of some tags and of clauses for each, if none collapses. -/
theorem conditionsFrom_ofGroups {groups : List (RankedSet TagId)}
    (h : .collapse ∉ [ofGroups groups .all false]) (number : Nat) :
    conditionsFrom number [ofGroups groups .all false] =
        [.taggedWithAll (Builder.joinsFrom number groups)] ∧
      conditionsFrom number (groups.map fun tags => ofGroups [tags] .all false) =
        (Builder.joinsFrom number groups).map fun join => .taggedWithAll [join] := by
  have hfull : ¬ ∃ tags ∈ groups, tags.isEmpty = true := by
    rintro ⟨tags, ht, hempty⟩
    exact h (List.mem_singleton.2 (ofGroups_of_isEmpty ht hempty false).symm)
  rw [ofGroups_of_not_isEmpty hfull false, map_ofGroups_of_not_isEmpty hfull]
  exact ⟨rfl, conditionsFrom_everyGroup_singletons number groups⟩

end Contribution

/-! ### Drafts -/

namespace Sql.Draft

/-- **A draft takes the joins of a condition one by one.** -/
theorem foldl_apply_singletons (draft : Draft) (joins : List TagJoin) :
    (joins.map fun join => .taggedWithAll [join]).foldl apply draft =
      draft.apply (.taggedWithAll joins) :=
  List.foldl_map

/-- Chains that differ in conditions of which every draft makes the same. -/
theorem ofFilter_chain_congr {first second : List Predicate}
    (h : ∀ draft : Draft, first.foldl apply draft = second.foldl apply draft)
    (left right : List Predicate) :
    ofFilter (.chain (left ++ first ++ right)) = ofFilter (.chain (left ++ second ++ right)) := by
  have hfold : ∀ predicates : List Predicate,
      ofFilter (.chain predicates) = predicates.foldl apply ∅ := fun _ => rfl
  rw [hfold, hfold, List.foldl_append, List.foldl_append, h, List.foldl_append, List.foldl_append]

end Sql.Draft

/-! ### Queries -/

namespace Directory

variable {directory : Directory} {guardian : Guardian} {taggingEnabled : Bool} {now : Instant}

/-- A clause for all of some tags and clauses for each of them make the same draft, wherever they
stand in a query. -/
theorem ofFilter_compile_split {names : List String} (hne : names ≠ [])
    (hnames : ∀ name ∈ names, NameOver Clause.isTagChar name) (hnodup : names.Nodup)
    {first last joined split : String}
    (hjoined : Spaced [first, clauseText none "tags" ("+".intercalate names), last] joined)
    (hsplit : Spaced (first :: names.map (clauseText none "tags") ++ [last]) split) :
    let context := directory.context guardian taggingEnabled now
    Draft.ofFilter (context.compile joined).value = Draft.ofFilter (context.compile split).value := by
  intro context
  have hlist := context.yields_between hjoined
  rw [context.yields_tags hne hnames, eraseDups_of_nodup hnodup,
    value_contribution_tags_context hne hnames] at hlist
  have hone : ∀ name ∈ names, context.yields (clauseText none "tags" name) =
      [if taggingEnabled then ofGroups [directory.named guardian name] .all false else .inert] := by
    intro name hname
    have halone := List.forall_mem_singleton.2 (hnames name hname)
    have hyields := context.yields_tags (List.cons_ne_nil name []) halone
    rw [eraseDups_of_nodup (List.nodup_singleton name),
      value_contribution_tags_context (List.cons_ne_nil name []) halone,
      String.intercalate_singleton] at hyields
    exact hyields
  have heach := context.yields_between_map hone hsplit
  cases taggingEnabled with
  | false =>
      -- neither the clause nor its parts add anything
      have hequivalent : Equivalent [.inert] (names.map fun _ => .inert) :=
        equivalent_of_inert (List.forall_mem_singleton.2 rfl)
          (List.forall_mem_map.2 fun _ _ => rfl)
      rw [Context.value_compile_eq_of_equivalent hequivalent hlist heach]
  | true =>
      have hgroups : (names.map fun name => ofGroups [directory.named guardian name] .all false) =
          (names.map (directory.named guardian)).map fun tags => ofGroups [tags] .all false := by
        rw [List.map_map]
        rfl
      simp only [if_true] at hlist heach
      rw [hgroups] at heach
      rcases Context.value_compile_exchange (exchangeable_ofGroups _) hlist heach with
        ⟨hnothing, hnothing'⟩ | ⟨hcollapse, left, number, right, hchain, hchain'⟩
      · rw [hnothing, hnothing']
      · obtain ⟨hall, hsingles⟩ := conditionsFrom_ofGroups hcollapse number
        rw [hchain, hchain', hall, hsingles]
        refine Draft.ofFilter_chain_congr (fun draft => ?_) left right
        exact (Draft.foldl_apply_singletons draft _).symm

end Directory

/-- **A clause for all of some tags can be split**, wherever it stands in a query: a clause for each
of them makes the same statement. -/
theorem statement_split (directory : Directory) (guardian : Guardian) (taggingEnabled : Bool)
    (now : Instant) {names : List String} (hne : names ≠ [])
    (hnames : ∀ name ∈ names, NameOver Clause.isTagChar name) (hnodup : names.Nodup)
    {first last joined split : String}
    (hjoined : Spaced [first, clauseText none "tags" ("+".intercalate names), last] joined)
    (hsplit : Spaced (first :: names.map (clauseText none "tags") ++ [last]) split) :
    let context := directory.context guardian taggingEnabled now
    let one := Draft.ofFilter (context.compile joined).value
    let each := Draft.ofFilter (context.compile split).value
    one.statement.text = each.statement.text ∧ one.statement.params = each.statement.params ∧
      one.distinct = each.distinct ∧ one.includesDeleted = each.includesDeleted := by
  intro context one each
  have hdraft : one = each := Directory.ofFilter_compile_split hne hnames hnodup hjoined hsplit
  rw [hdraft]
  exact ⟨rfl, rfl, rfl, rfl⟩

/-- Two spellings of an alias, before a clause that takes a label too. -/
theorem statement_split_spellings :
    let directory := (∅ : Directory).addTag "Go" ⟨2⟩ (some ⟨3⟩) none
    let context := directory.context ({} : Permissions).guardian true
      ⟨0, 0, by decide, by decide⟩
    let joined := "status:open" ++ " " ++
      (clauseText none "tags" ("+".intercalate ["Go", "go"]) ++ " " ++ "-tags:go")
    let split := "status:open" ++ " " ++ (clauseText none "tags" "Go" ++ " " ++
      (clauseText none "tags" "go" ++ " " ++ "-tags:go"))
    joined = "status:open tags:Go+go -tags:go" ∧
      (context.compile split).value.predicates.length = 4 ∧
      (Draft.ofFilter (context.compile joined).value).statement.text =
        (Draft.ofFilter (context.compile split).value).statement.text := by
  intro directory context joined split
  have hgap : IsGap " " := ⟨by decide, List.all_eq_true.1 (by decide)⟩
  have hnames : ∀ name ∈ ["Go", "go"], NameOver Clause.isTagChar name := by decide
  have hsplit := statement_split directory ({} : Permissions).guardian true
    ⟨0, 0, by decide, by decide⟩ (List.cons_ne_nil _ _) hnames (by decide)
    (.cons "status:open" hgap (.cons _ hgap (.single "-tags:go")))
    (.cons _ hgap (.cons _ hgap (.cons _ hgap (.single _))))
  exact ⟨by decide +kernel, by decide +kernel, hsplit.1⟩

end ForumQuery
