import ForumQuery.Proofs.Accumulation

/-!
# Yield — what a token can add

`Clause.value_contribution_*` say what each clause adds, without the questions asked on the way to
it; so a token adds the same wherever the same is found for its clause (`Context.yield_congr`).

`Contribution.Allowed` lists what any token can add, and `Context.allowed_yield` that it adds
nothing else: an actor that it names is the one who is asking, an instant is the one of the context,
and deleted topics are asked for only where they may be seen.  Of the conditions that are added at
once none is one that a scope ends as, and none makes a join; those that make joins come from
contributions whose labels are still open.  So whatever condition a query ends as is about nobody
but the one who is asking (`actor_of_mem_predicates`).
-/

namespace ForumQuery

open Query Contribution

namespace Clause

variable (context : Context)

theorem value_contribution_bookmarked :
    (bookmarked.contribution context).value =
      match context.guardian.actor with
      | some actor => condition (.bookmarkedBy actor)
      | none => collapse := by
  cases h : context.guardian.actor <;> simp [contribution, Guardian.askActor, h]

theorem value_contribution_levels (names : List Level) :
    ((levels names).contribution context).value =
      match context.guardian.actor with
      | some actor => scope (.levels actor (.ofList names))
      | none => collapse := by
  cases h : context.guardian.actor <;> simp [contribution, Guardian.askActor, h]

theorem value_ofStatus (wanted : Status) (category : Option CategoryId) :
    (Contribution.ofStatus context wanted category).value =
      if wanted = .deleted ∧ context.guardian.seesDeleted category = false then inert
      else condition (.status wanted) := by
  cases wanted with
  | deleted =>
      cases h : context.guardian.seesDeleted category <;>
        simp [Contribution.ofStatus, Guardian.askDeleted, h]
  | ongoing | closed | archived | listed | unlisted | unrestricted => rfl

theorem value_ofSlugs (slugs : List String) (withSubtree : Bool) :
    (ofSlugs context slugs withSubtree).value =
      let visible := (context.lookupCategories slugs).value.filter context.guardian.seesCategory
      if visible.length < slugs.length then collapse
      else scope (.categories (if withSubtree then (context.subtree (.ofList visible)).value
        else .ofList visible)) := by
  simp only [ofSlugs, Consult.value_bind, Guardian.value_visible]
  split
  · rfl
  · cases withSubtree <;> rfl

end Clause

/-! ### Groups of tags -/

namespace FoundTags

/-- What is found for some names: the groups that have a tag, and the union of all. -/
theorem foldl_add (found : FoundTags) (groups : List (RankedSet TagId)) :
    groups.foldl add found =
      ⟨found.groups ++ groups.filter fun group => !group.isEmpty,
        groups.foldl (· ∪ ·) found.all⟩ := by
  induction groups generalizing found with
  | nil => simp
  | cons group rest ih =>
      rw [List.foldl_cons, ih, add]
      cases hempty : group.isEmpty with
      | true =>
          have hunion : found.all ∪ group = found.all :=
            RankedSet.ext fun tag => by simp [RankedSet.isEmpty_iff.1 hempty tag]
          simp [hempty, hunion]
      | false => simp [hempty]

theorem ofRows_eq (rows : List TagRow) (names : List String) :
    ofRows rows names = (names.map (TagRow.group rows)).foldl add {} := by
  rw [ofRows, List.foldl_map]

end FoundTags

namespace Contribution

/-- What groups of tags add, one for each name. -/
def ofGroups (groups : List (RankedSet TagId)) (mode : MatchMode) (exclude : Bool) :
    Contribution :=
  match mode with
  | .all =>
    if groups.any RankedSet.isEmpty then collapse
    else if exclude then notEveryGroup groups
    else everyGroup groups
  | .any =>
    let tags := groups.foldl (· ∪ ·) ∅
    if tags.isEmpty then inert
    else if exclude then condition (.taggedWithNone tags)
    else someTag tags

variable {groups : List (RankedSet TagId)}

/-- **The tags that are found add what their groups do**: a group is missing from those that were
found if and only if it has no tag. -/
theorem ofTags_foldl_add (hne : groups ≠ []) (mode : MatchMode) (exclude : Bool) :
    ofTags (groups.foldl FoundTags.add {}) groups.length mode exclude =
      ofGroups groups mode exclude := by
  rw [FoundTags.foldl_add, List.nil_append]
  cases mode with
  | any => cases exclude <;> rfl
  | all =>
      have hlength : (groups.filter fun group => !group.isEmpty).length = groups.length ↔
          ¬ groups.any RankedSet.isEmpty = true := by
        simp [List.length_filter_eq_length_iff]
      by_cases hany : groups.any RankedSet.isEmpty = true
      · have hmissing := mt hlength.1 (not_not.2 hany)
        simp [ofTags, ofGroups, hany, hmissing]
      · have hfound : (groups.filter fun group => !group.isEmpty) = groups :=
          List.filter_sublist.eq_of_length (hlength.2 hany)
        -- some group has a tag, so the tags are not empty together
        obtain ⟨group, hmem⟩ := List.exists_mem_of_ne_nil _ hne
        have hall : ¬ (groups.foldl (· ∪ ·) ∅).isEmpty = true := by
          intro hall
          refine hany (List.any_eq_true.2 ⟨group, hmem, RankedSet.isEmpty_iff.2 fun tag htag => ?_⟩)
          exact RankedSet.isEmpty_iff.1 hall tag
            (RankedSet.mem_foldl_union.2 (.inr ⟨group, hmem, htag⟩))
        cases exclude <;> simp [ofTags, ofGroups, hany, hfound, hall]

end Contribution

namespace Clause

/-- **What a clause for tags adds**, by the groups of its names. -/
theorem value_contribution_tags (context : Context) (names : List String) (mode : MatchMode)
    (exclude : Bool) :
    ((tags names mode exclude).contribution context).value =
      if context.taggingEnabled ∧ names ≠ [] then
        ofGroups (names.map (TagRow.group (context.lookupTags names).value)) mode exclude
      else inert := by
  rw [contribution]
  split
  · next h =>
    have hne : names.map (TagRow.group (context.lookupTags names).value) ≠ [] :=
      mt List.map_eq_nil_iff.1 h.2
    rw [← ofTags_foldl_add hne, List.length_map, ← FoundTags.ofRows_eq]
    rfl
  · rfl

theorem value_contribution_tags_of_ne_nil (context : Context) {names : List String}
    (hne : names ≠ []) (mode : MatchMode) (exclude : Bool) :
    ((tags names mode exclude).contribution context).value =
      if context.taggingEnabled then
        ofGroups (names.map (TagRow.group (context.lookupTags names).value)) mode exclude
      else inert := by
  simp only [value_contribution_tags, hne, ne_eq, not_false_eq_true, and_true]

end Clause

namespace Contribution

variable {groups : List (RankedSet TagId)}

/-- A clause for all of some groups collapses if one of them is empty. -/
theorem ofGroups_of_isEmpty {tags : RankedSet TagId} (hmem : tags ∈ groups)
    (h : tags.isEmpty = true) (exclude : Bool) : ofGroups groups .all exclude = collapse :=
  if_pos (List.any_eq_true.2 ⟨tags, hmem, h⟩)

/-- A clause for all of some groups asks for each of them if none is empty. -/
theorem ofGroups_of_not_isEmpty (h : ¬ ∃ tags ∈ groups, tags.isEmpty = true) (exclude : Bool) :
    ofGroups groups .all exclude = if exclude then notEveryGroup groups else everyGroup groups :=
  if_neg (mt List.any_eq_true.1 h)

/-- A clause for any of some groups is inert if no group has a tag. -/
theorem ofGroups_of_forall_notMem (h : ∀ tags ∈ groups, ∀ tag, tag ∉ tags) (exclude : Bool) :
    ofGroups groups .any exclude = inert := by
  refine if_pos (RankedSet.isEmpty_iff.2 fun tag htag => ?_)
  rcases RankedSet.mem_foldl_union.1 htag with htag | ⟨tags, ht, htag⟩
  · exact RankedSet.not_mem_empty tag htag
  · exact h tags ht tag htag

/-- A clause for any of some groups asks for their tags together if a group has one. -/
theorem ofGroups_of_mem {tags : RankedSet TagId} {tag : TagId} (hmem : tags ∈ groups)
    (htag : tag ∈ tags) (exclude : Bool) :
    let all := groups.foldl (· ∪ ·) ∅
    ofGroups groups .any exclude =
      if exclude then condition (.taggedWithNone all) else someTag all := by
  refine if_neg fun hempty => ?_
  exact RankedSet.isEmpty_iff.1 hempty tag (RankedSet.mem_foldl_union.2 (.inr ⟨tags, hmem, htag⟩))

end Contribution

/-! ### What is allowed -/

/-- What the site lets a token add. -/
inductive Contribution.Allowed (context : Context) : Contribution → Prop where
  | inert : Allowed context inert
  | collapse : Allowed context collapse
  | status {wanted : Status} (h : wanted = .deleted → context.guardian.seesDeleted none = true) :
      Allowed context (condition (.status wanted))
  | pinned : Allowed context (condition (.activelyPinned context.now))
  | bookmarked {actor : ActorId} (h : context.guardian.actor = some actor) :
      Allowed context (condition (.bookmarkedBy actor))
  | noTag (tags : RankedSet TagId) : Allowed context (condition (.taggedWithNone tags))
  | everyGroup (groups : List (RankedSet TagId)) : Allowed context (everyGroup groups)
  | notEveryGroup (groups : List (RankedSet TagId)) : Allowed context (notEveryGroup groups)
  | someTag (tags : RankedSet TagId) : Allowed context (someTag tags)
  | levels {actor : ActorId} (h : context.guardian.actor = some actor) (set : RankedSet Level) :
      Allowed context (scope (.levels actor set))
  | categories (set : RankedSet CategoryId) : Allowed context (scope (.categories set))

theorem Contribution.allowed_ofGroups (context : Context) (groups : List (RankedSet TagId))
    (mode : MatchMode) (exclude : Bool) : (ofGroups groups mode exclude).Allowed context := by
  cases mode with
  | all =>
      rw [ofGroups]
      split
      · exact .collapse
      · cases exclude
        · exact .everyGroup groups
        · exact .notEveryGroup groups
  | any =>
      rw [ofGroups]
      split
      · exact .inert
      · cases exclude
        · exact .someTag _
        · exact .noTag _

theorem Clause.allowed_contribution (context : Context) (clause : Clause) :
    (clause.contribution context).value.Allowed context := by
  cases clause with
  | pinned => exact .pinned
  | bookmarked =>
      rw [value_contribution_bookmarked]
      split
      · next actor h => exact .bookmarked h
      · exact .collapse
  | levels names =>
      rw [value_contribution_levels]
      split
      · next actor h => exact .levels h _
      · exact .collapse
  | status wanted =>
      rw [contribution, value_ofStatus]
      split
      · exact .inert
      · next h => exact .status fun hw => by simpa [hw] using h
  | tags names mode exclude =>
      rw [value_contribution_tags]
      split
      · exact allowed_ofGroups context _ mode exclude
      · exact .inert
  | categories slugs withSubtree =>
      rw [contribution, value_ofSlugs]
      dsimp only
      split
      · exact .collapse
      · exact .categories _

/-- What a clause adds is what its token adds. -/
theorem Context.yield_of_ofToken? (context : Context) {token : Token} {clause : Clause}
    (h : Clause.ofToken? token = some clause) :
    context.yield token = (clause.contribution context).value := by
  rw [yield, contribution, h]

/-- **A token adds the same in two contexts** that agree on who is asking, on the instant and on
what is found for its clause. -/
theorem Context.yield_congr {first second : Context} {token : Token}
    (hguardian : first.guardian = second.guardian)
    (htagging : first.taggingEnabled = second.taggingEnabled) (hnow : first.now = second.now)
    (htags : ∀ names mode exclude, Clause.ofToken? token = some (.tags names mode exclude) →
      names.map (TagRow.group (first.lookupTags names).value) =
        names.map (TagRow.group (second.lookupTags names).value))
    (hslugs : ∀ slugs withSubtree, Clause.ofToken? token = some (.categories slugs withSubtree) →
      (ofSlugs first slugs withSubtree).value = (ofSlugs second slugs withSubtree).value) :
    first.yield token = second.yield token := by
  cases hclause : Clause.ofToken? token with
  | none => rw [yield, yield, contribution, contribution, hclause]
  | some clause =>
      rw [yield_of_ofToken? _ hclause, yield_of_ofToken? _ hclause]
      cases clause with
      | pinned => exact congrArg (fun now => condition (.activelyPinned now)) hnow
      | bookmarked =>
          rw [Clause.value_contribution_bookmarked, Clause.value_contribution_bookmarked,
            hguardian]
      | levels names =>
          rw [Clause.value_contribution_levels, Clause.value_contribution_levels, hguardian]
      | status wanted =>
          rw [Clause.contribution, Clause.contribution, Clause.value_ofStatus,
            Clause.value_ofStatus, hguardian]
      | tags names mode exclude =>
          rw [Clause.value_contribution_tags, Clause.value_contribution_tags, htagging,
            htags names mode exclude hclause]
      | categories slugs withSubtree => exact hslugs slugs withSubtree hclause

/-- **A token adds what it is allowed to add.** -/
theorem Context.allowed_yield (context : Context) (token : Token) :
    (context.yield token).Allowed context := by
  rw [yield, contribution]
  split
  · next clause _ => exact clause.allowed_contribution context
  · exact .inert

/-- The kind of the scope that ends as a condition. -/
def Predicate.scopeKind? : Predicate → Option ScopeKind
  | levelIn .. => some .levels
  | categoryIn _ => some .categories
  | status _ | activelyPinned _ | bookmarkedBy _ | taggedWithAll _ | taggedWithAny _
  | missingSomeTag _ | taggedWithNone _ => none

theorem Scope.scopeKind?_predicate (scope : Scope) :
    scope.predicate.scopeKind? = some scope.kind := by
  cases scope <;> rfl

namespace Contribution

variable {context : Context} {contribution : Contribution} {predicate : Predicate} {first : Nat}

/-- No condition that is added at once is one that a scope ends as. -/
theorem Allowed.scopeKind?_eq_none (h : contribution.Allowed context)
    (hp : predicate ∈ contribution.condition? first) : predicate.scopeKind? = none := by
  cases h <;> simp [condition?] at hp <;> subst hp <;> rfl

/-- The actor of a scope is the one who is asking. -/
theorem Allowed.actor_of_scope? (h : contribution.Allowed context) {registered : Scope}
    (hs : contribution.scope? = some registered) {actor : ActorId}
    (ha : registered.actor? = some actor) : context.guardian.actor = some actor := by
  cases h with
  | levels hactor set =>
      cases hs
      cases ha
      exact hactor
  | categories set =>
      cases hs
      cases ha
  | _ => cases hs

/-- A condition that is added at once makes as many joins as labels were taken. -/
theorem Allowed.map_label_joins (h : contribution.Allowed context) :
    ((contribution.condition? first).toList.flatMap Predicate.joins).map TagJoin.label =
      (List.range' first contribution.labelCount).map Builder.label := by
  cases h <;> simp [condition?, labelCount, Predicate.joins, Builder.map_label_joinsFrom]

end Contribution

/-! ### Actors -/

/-- The actor that a condition is about. -/
def Predicate.actor? : Predicate → Option ActorId
  | bookmarkedBy actor | levelIn actor _ => some actor
  | status _ | activelyPinned _ | categoryIn _ | taggedWithAll _ | taggedWithAny _
  | missingSomeTag _ | taggedWithNone _ => none

theorem Scope.actor?_predicate (scope : Scope) : scope.predicate.actor? = scope.actor? := by
  cases scope <;> rfl

namespace Contribution

variable {context : Context} {contributions : List Contribution} {actor : ActorId}

/-- The actor of a condition that is added at once is the one who is asking. -/
theorem Allowed.actor_of_condition? {contribution : Contribution} (h : contribution.Allowed context)
    {predicate : Predicate} {number : Nat} (hp : predicate ∈ contribution.condition? number)
    (ha : predicate.actor? = some actor) : context.guardian.actor = some actor := by
  cases h with
  | bookmarked hactor =>
      cases hp
      cases ha
      exact hactor
  | status | pinned | noTag | everyGroup | notEveryGroup | someTag =>
      cases hp
      cases ha
  | inert | collapse | levels | categories => cases hp

theorem exists_of_mem_conditionsFrom {predicate : Predicate} {first : Nat}
    (hp : predicate ∈ conditionsFrom first contributions) :
    ∃ contribution ∈ contributions, ∃ number, predicate ∈ contribution.condition? number := by
  induction contributions generalizing first with
  | nil => exact absurd hp List.not_mem_nil
  | cons contribution rest ih =>
      rcases List.mem_append.1 hp with hp | hp
      · exact ⟨contribution, List.mem_cons_self, first, Option.mem_toList.1 hp⟩
      · obtain ⟨later, hl, hlater⟩ := ih hp
        exact ⟨later, List.mem_cons_of_mem _ hl, hlater⟩

/-- A scope that is left asks on behalf of the one who is asking. -/
theorem actor_of_mem_registerAll (h : ∀ contribution ∈ contributions, contribution.Allowed context)
    {scope : Scope} (hs : scope ∈ (Registry.registerAll ∅ (contributions.filterMap scope?)).scopes)
    (ha : scope.actor? = some actor) : context.guardian.actor = some actor := by
  cases scope with
  | categories => cases ha
  | levels named set =>
      cases ha
      obtain ⟨hlast, -⟩ := Registry.unites_of_mem_registerAll hs
      obtain ⟨last, hl, ha⟩ := List.mem_filterMap.1 (List.mem_of_getLast? hlast)
      obtain ⟨contribution, hc, hscope⟩ := List.mem_filterMap.1 hl
      exact (h contribution hc).actor_of_scope? hscope ha

/-- **A condition is about nobody but the one who is asking.** -/
theorem actor_of_mem_predicates (h : ∀ contribution ∈ contributions, contribution.Allowed context)
    {predicate : Predicate} (hp : predicate ∈ predicates contributions)
    (ha : predicate.actor? = some actor) : context.guardian.actor = some actor := by
  rcases List.mem_append.1 hp with hp | hp
  · obtain ⟨contribution, hc, number, hcondition⟩ := exists_of_mem_conditionsFrom hp
    exact (h contribution hc).actor_of_condition? hcondition ha
  · obtain ⟨scope, hs, rfl⟩ := List.mem_map.1 hp
    exact actor_of_mem_registerAll h hs (scope.actor?_predicate ▸ ha)

end Contribution

end ForumQuery
