import ForumQuery.Proofs.Labels
import ForumQuery.Proofs.Spelling

/-!
# Composition — a query is what its tokens are

Each token of a query can be compiled by itself (`Context.alone`), and the filters that come out
say all there is to say about the query (`compile_composes`).  Nothing passes the query if and only
if nothing passes one of its tokens.  Otherwise the conditions of the tokens stand one after the
other: first those that are added at once, with the labels of their joins counted through
(`Renumbers`), then the open ones, those of a kind merged into one (`Merges`).
-/

namespace ForumQuery

open Query Contribution

/-- What a token compiles to by itself. -/
def Context.alone (context : Context) (token : Token) : Filter :=
  (context.compile (String.ofList token.spelling)).value

/-- The same conditions, with the labels of their joins counted through from 0. -/
structure Renumbers (parts renumbered : List Predicate) : Prop where
  bare : renumbered.map Predicate.bare = parts.map Predicate.bare
  labels : labels renumbered = (List.range (labels parts).length).map Builder.label
  distinct : (ForumQuery.labels renumbered).Nodup

/-- The open conditions of some parts, merged into one of each kind, in the order in which the kinds
first occur: the sets are united, and the actor is the one given. -/
structure Merges (actor : Option ActorId) (parts merged : List Predicate) : Prop where
  kinds : merged.map Predicate.scopeKind? =
    (parts.filterMap Predicate.scopeKind?).eraseDups.map some
  levels : ∀ named set, .levelIn named set ∈ merged → actor = some named ∧
    ∀ level, level ∈ set ↔ ∃ other part, .levelIn other part ∈ parts ∧ level ∈ part
  categories : ∀ set, .categoryIn set ∈ merged →
    ∀ category, category ∈ set ↔ ∃ part, .categoryIn part ∈ parts ∧ category ∈ part

/-! ### One token -/

/-- A token by itself yields what it yields in a query. -/
theorem Context.yields_spelling (context : Context) {query : String} {token : Token}
    (h : token ∈ Token.scan query) :
    context.yields (String.ofList token.spelling) = [context.yield token] := by
  rw [yields, Token.scan_spelling h]
  rfl

theorem Contribution.predicates_singleton (contribution : Contribution) :
    predicates [contribution] =
      (contribution.condition? 0).toList ++ contribution.scope?.toList.map Scope.predicate := by
  rw [predicates, conditionsFrom, conditionsFrom, List.append_nil]
  cases h : contribution.scope? with
  | none => simp [h, Registry.predicates]; rfl
  | some scope => simp [h]; rfl

/-- Nothing passes a token by itself if and only if it collapses. -/
theorem Context.alone_eq_nothing_iff {context : Context} {query : String} {token : Token}
    (h : token ∈ Token.scan query) :
    context.alone token = .nothing ↔ context.yield token = .collapse := by
  rw [alone, value_compile_eq_nothing_iff, context.yields_spelling h, List.mem_singleton, eq_comm]

theorem Context.predicates_alone {context : Context} {query : String} {token : Token}
    (h : token ∈ Token.scan query) (hc : context.yield token ≠ .collapse) :
    (context.alone token).predicates = predicates [context.yield token] := by
  have hnot : .collapse ∉ context.yields (String.ofList token.spelling) := by
    rw [context.yields_spelling h, List.mem_singleton]
    exact hc.symm
  rw [alone, value_compile hnot, context.yields_spelling h]
  rfl

/-- Nothing passes some token if and only if some token collapses. -/
theorem Context.nothing_mem_alone_iff {context : Context} {query : String} :
    .nothing ∈ (Token.scan query).map context.alone ↔ .collapse ∈ context.yields query := by
  rw [yields, List.mem_map, List.mem_map]
  exact exists_congr fun token => and_congr_right fun h => alone_eq_nothing_iff h

/-- The conditions of the tokens of a query, each compiled by itself. -/
theorem Context.flatMap_alone {context : Context} {query : String}
    (h : .collapse ∉ context.yields query) :
    ((Token.scan query).map context.alone).flatMap Filter.predicates =
      (context.yields query).flatMap fun contribution => predicates [contribution] := by
  rw [List.flatMap_map, yields, List.flatMap_map]
  refine List.flatMap_congr fun token ht => predicates_alone ht fun e => h ?_
  exact e ▸ List.mem_map_of_mem ht

/-! ### All of them -/

namespace Scope

theorem predicate_eq_levelIn_iff {scope : Scope} {actor : ActorId} {set : RankedSet Level} :
    scope.predicate = .levelIn actor set ↔ scope = .levels actor set := by
  cases scope <;> simp [predicate]

theorem predicate_eq_categoryIn_iff {scope : Scope} {set : RankedSet CategoryId} :
    scope.predicate = .categoryIn set ↔ scope = .categories set := by
  cases scope <;> simp [predicate]

/-- A level that a scope asks for is one that the condition it ends as asks for. -/
theorem exists_hasLevel_iff (scopes : List Scope) (level : Level) :
    (∃ scope ∈ scopes, scope.HasLevel level) ↔
      ∃ actor set, .levelIn actor set ∈ scopes.map predicate ∧ level ∈ set := by
  refine ⟨?_, ?_⟩
  · rintro ⟨scope, hs, hl⟩
    cases scope with
    | levels actor set => exact ⟨actor, set, List.mem_map_of_mem hs, hl⟩
    | categories => exact hl.elim
  · rintro ⟨actor, set, hp, hl⟩
    obtain ⟨scope, hs, hscope⟩ := List.mem_map.1 hp
    exact ⟨.levels actor set, predicate_eq_levelIn_iff.1 hscope ▸ hs, hl⟩

/-- A category that a scope asks for is one that the condition it ends as asks for. -/
theorem exists_hasCategory_iff (scopes : List Scope) (category : CategoryId) :
    (∃ scope ∈ scopes, scope.HasCategory category) ↔
      ∃ set, .categoryIn set ∈ scopes.map predicate ∧ category ∈ set := by
  refine ⟨?_, ?_⟩
  · rintro ⟨scope, hs, hc⟩
    cases scope with
    | levels => exact hc.elim
    | categories set => exact ⟨set, List.mem_map_of_mem hs, hc⟩
  · rintro ⟨set, hp, hc⟩
    obtain ⟨scope, hs, hscope⟩ := List.mem_map.1 hp
    exact ⟨.categories set, predicate_eq_categoryIn_iff.1 hscope ▸ hs, hc⟩

end Scope

namespace Contribution

variable {context : Context} {contributions : List Contribution}

theorem filter_isNone_predicates
    (h : ∀ contribution ∈ contributions, contribution.Allowed context) :
    (contributions.flatMap fun contribution => predicates [contribution]).filter
        (·.scopeKind?.isNone) =
      contributions.flatMap fun contribution => (contribution.condition? 0).toList := by
  rw [List.filter_flatMap]
  refine List.flatMap_congr fun contribution hc => ?_
  rw [predicates_singleton, List.filter_append, List.filter_map, List.filter_eq_self.2,
    List.filter_eq_nil_iff.2, List.map_nil, List.append_nil]
  · intro scope _
    simp [Scope.scopeKind?_predicate]
  · intro predicate hp
    simp [(h contribution hc).scopeKind?_eq_none (Option.mem_toList.1 hp)]

theorem filter_isSome_predicates
    (h : ∀ contribution ∈ contributions, contribution.Allowed context) :
    (contributions.flatMap fun contribution => predicates [contribution]).filter
        (·.scopeKind?.isSome) =
      (contributions.filterMap scope?).map Scope.predicate := by
  rw [List.filter_flatMap, List.filterMap_eq_flatMap_toList, List.map_flatMap]
  refine List.flatMap_congr fun contribution hc => ?_
  rw [predicates_singleton, List.filter_append, List.filter_eq_nil_iff.2, List.filter_eq_self.2,
    List.nil_append]
  · intro predicate hp
    obtain ⟨scope, -, rfl⟩ := List.mem_map.1 hp
    simp [Scope.scopeKind?_predicate]
  · intro predicate hp
    simp [(h contribution hc).scopeKind?_eq_none (Option.mem_toList.1 hp)]

/-- Conditions that are added at once are renumbered. -/
theorem renumbers_conditionsFrom
    (h : ∀ contribution ∈ contributions, contribution.Allowed context) :
    Renumbers (contributions.flatMap fun contribution => (contribution.condition? 0).toList)
      (conditionsFrom 0 contributions) := by
  -- where the labels start shows in nothing but the labels
  have hbare : ∀ first, (conditionsFrom first contributions).map Predicate.bare =
      (contributions.flatMap fun contribution => (contribution.condition? 0).toList).map
        Predicate.bare := by
    clear h
    induction contributions with
    | nil => exact fun _ => rfl
    | cons contribution rest ih =>
        intro first
        rw [conditionsFrom, List.flatMap_cons, List.map_append, List.map_append, ih,
          ← Option.toList_map, ← Option.toList_map, bare_condition? contribution first 0]
  -- a part takes as many labels alone as among the others
  have htotal : (labels (contributions.flatMap fun contribution =>
      (contribution.condition? 0).toList)).length = labelTotal contributions := by
    clear hbare
    induction contributions with
    | nil => rfl
    | cons contribution rest ih =>
        rw [List.forall_mem_cons] at h
        rw [List.flatMap_cons, labels_append, List.length_append, ih h.2, labels,
          h.1.map_label_joins, List.length_map, List.length_range', labelTotal]
  have hlabels := labels_conditionsFrom h 0
  refine ⟨hbare 0, ?_, hlabels ▸ Builder.nodup_map_label 0 _⟩
  rw [hlabels, htotal, List.range_eq_range']

/-- Scopes are merged. -/
theorem merges_registerAll (h : ∀ contribution ∈ contributions, contribution.Allowed context) :
    Merges context.guardian.actor ((contributions.filterMap scope?).map Scope.predicate)
      (Registry.registerAll ∅ (contributions.filterMap scope?)).predicates := by
  refine ⟨?_, fun named set hp => ?_, fun set hp => ?_⟩
  · have hkinds : Predicate.scopeKind? ∘ Scope.predicate = some ∘ Scope.kind :=
      funext Scope.scopeKind?_predicate
    rw [Registry.predicates, List.map_map, List.filterMap_map, hkinds, ← List.map_map,
      Registry.map_kind_registerAll, ← List.filterMap_map, List.filterMap_some]
  · obtain ⟨scope, hs, hscope⟩ := List.mem_map.1 hp
    rw [Scope.predicate_eq_levelIn_iff.1 hscope] at hs
    obtain ⟨-, hlevels⟩ := Registry.unites_of_mem_registerAll hs
    refine ⟨actor_of_mem_registerAll h hs rfl, fun level => ?_⟩
    exact (hlevels level).trans (Scope.exists_hasLevel_iff ..)
  · obtain ⟨scope, hs, hscope⟩ := List.mem_map.1 hp
    rw [Scope.predicate_eq_categoryIn_iff.1 hscope] at hs
    exact fun category =>
      (Registry.unites_of_mem_registerAll hs category).trans (Scope.exists_hasCategory_iff ..)

end Contribution

/-- **A query is composed of its tokens.** -/
theorem compile_composes (context : Context) (query : String) :
    let parts := (Token.scan query).map context.alone
    ((context.compile query).value = .nothing ↔ .nothing ∈ parts) ∧
      (.nothing ∉ parts → ∃ conditions scopes,
        (context.compile query).value = .chain (conditions ++ scopes) ∧
        Renumbers ((parts.flatMap Filter.predicates).filter (·.scopeKind?.isNone)) conditions ∧
        Merges context.guardian.actor
          ((parts.flatMap Filter.predicates).filter (·.scopeKind?.isSome)) scopes) := by
  intro parts
  refine ⟨?_, fun h => ?_⟩
  · exact Context.value_compile_eq_nothing_iff.trans Context.nothing_mem_alone_iff.symm
  · rw [Context.nothing_mem_alone_iff] at h
    have hallowed := context.allowed_yields query
    refine ⟨conditionsFrom 0 (context.yields query), _, Context.value_compile h, ?_, ?_⟩
    · rw [Context.flatMap_alone h, filter_isNone_predicates hallowed]
      exact renumbers_conditionsFrom hallowed
    · rw [Context.flatMap_alone h, filter_isSome_predicates hallowed]
      exact merges_registerAll hallowed

end ForumQuery
