import ForumQuery.Directory
import ForumQuery.Directory.Permissions
import ForumQuery.Proofs.Composition
import Mathlib.Tactic.Tauto

/-!
# Matching — which topics pass a query

What passes some contributions depends on which contributions there are, not on their order or on
how often one of them stands (`passes_predicates_iff`): the conditions that are added at once must
all hold, and where levels or categories are asked for at all it is enough to have one of them.  The
labels of joins play no part (`holds_bare`).

Contributions *ask alike* if neither lets anything pass, or they register the same scope and what
they add at once holds of the same topics (`Contribution.AskAlike`), be it over other joins or over
more of them.  Queries whose tokens ask alike, one by one, match the same topics
(`Context.passes_compile_of_askAlike`).

A token is *written* by its flag, its key and its value, and these decide what it yields.  So two
queries in which the same clauses are written match the same topics
(`passes_compile_congr`).
-/

namespace ForumQuery

open Query Contribution

/-! ### Conditions without labels -/

theorem TagJoin.tags_bare (join : TagJoin) : join.bare.tags = join.tags := rfl

/-- The labels of its joins play no part in whether a condition holds. -/
theorem Predicate.holds_bare (topic : Topic) (predicate : Predicate) :
    predicate.bare.Holds topic ↔ predicate.Holds topic := by
  cases predicate <;> simp [bare, Holds, TagJoin.tags_bare]

/-- Joins of some groups ask for a tag of each group, whatever their labels. -/
theorem Predicate.holds_taggedWithAll_joinsFrom (topic : Topic) (first : Nat)
    (groups : List (RankedSet TagId)) :
    (taggedWithAll (Builder.joinsFrom first groups)).Holds topic ↔
      ∀ tags ∈ groups, topic.HasSome tags := by
  have htags := Builder.map_tags_joinsFrom first groups
  rw [Holds, ← List.forall_mem_map (f := TagJoin.tags) (P := topic.HasSome), htags]

/-- Joins of some groups, excluded, ask that the topic have no tag of some group. -/
theorem Predicate.holds_missingSomeTag_joinsFrom (topic : Topic) (first : Nat)
    (groups : List (RankedSet TagId)) :
    (missingSomeTag (Builder.joinsFrom first groups)).Holds topic ↔
      ∃ tags ∈ groups, ¬ topic.HasSome tags := by
  have hall := not_congr (holds_taggedWithAll_joinsFrom topic first groups)
  simp only [Holds, not_forall, exists_prop] at hall
  exact hall

theorem Contribution.holds_condition?_congr (contribution : Contribution) (first second : Nat)
    (topic : Topic) : (∀ predicate ∈ contribution.condition? first, predicate.Holds topic) ↔
      ∀ predicate ∈ contribution.condition? second, predicate.Holds topic := by
  have hbare := bare_condition? contribution first second
  cases h₁ : contribution.condition? first with
  | none =>
      cases h₂ : contribution.condition? second with
      | none => rfl
      | some _ => simp [h₁, h₂] at hbare
  | some p =>
      cases h₂ : contribution.condition? second with
      | none => simp [h₁, h₂] at hbare
      | some q =>
          simp only [h₁, h₂, Option.map_some, Option.some.injEq] at hbare
          simp only [Option.mem_some_iff, forall_eq']
          rw [← Predicate.holds_bare topic p, hbare, Predicate.holds_bare]

/-! ### What passes contributions -/

namespace Contribution

/-- A contribution registers a scope of a kind. -/
def Registers (kind : ScopeKind) (contribution : Contribution) : Prop :=
  ∃ scope ∈ contribution.scope?, scope.kind = kind

/-- A topic meets what some contributions ask for. -/
structure Met (context : Context) (contributions : List Contribution) (topic : Topic) : Prop where
  conditions : ∀ contribution ∈ contributions, ∀ predicate ∈ contribution.condition? 0,
    predicate.Holds topic
  levels : (∃ contribution ∈ contributions, contribution.Registers .levels) →
    ∃ actor ∈ context.guardian.actor, ∃ member ∈ topic.membership actor, ∃ level ∈ member.level,
      ∃ contribution ∈ contributions, ∃ scope ∈ contribution.scope?, scope.HasLevel level
  categories : (∃ contribution ∈ contributions, contribution.Registers .categories) →
    ∃ category ∈ topic.category,
      ∃ contribution ∈ contributions, ∃ scope ∈ contribution.scope?, scope.HasCategory category

/-- What meets some contributions meets all others that are the same but for order and repeats. -/
theorem Met.congr {context : Context} {first second : List Contribution} {topic : Topic}
    (h : ∀ contribution, contribution ∈ first ↔ contribution ∈ second)
    (hmet : Met context first topic) : Met context second topic := by
  obtain ⟨hconditions, hlevels, hcategories⟩ := hmet
  simp only [h] at hconditions hlevels hcategories
  exact ⟨hconditions, hlevels, hcategories⟩

/-- Two contributions ask for the same: neither lets anything pass, or what they add at once holds
of the same topics and they register the same scope. -/
structure AskAlike (first second : Contribution) : Prop where
  collapse_iff : first = .collapse ↔ second = .collapse
  scope?_eq : first.scope? = second.scope?
  holds_iff : ∀ topic : Topic, (∀ predicate ∈ first.condition? 0, predicate.Holds topic) ↔
    ∀ predicate ∈ second.condition? 0, predicate.Holds topic

theorem AskAlike.refl (contribution : Contribution) : AskAlike contribution contribution where
  collapse_iff := .rfl
  scope?_eq := rfl
  holds_iff _ := .rfl

theorem AskAlike.symm {first second : Contribution} (h : AskAlike first second) :
    AskAlike second first where
  collapse_iff := h.collapse_iff.symm
  scope?_eq := h.scope?_eq.symm
  holds_iff topic := (h.holds_iff topic).symm

/-- Each of some contributions asks for the same as one of some others. -/
def AskWithin (first second : List Contribution) : Prop :=
  ∀ contribution ∈ first, ∃ other ∈ second, AskAlike contribution other

/-- The scopes that some contributions register are among those of others that ask for the same. -/
theorem AskWithin.exists_scope {first second : List Contribution} (h : AskWithin first second)
    {p : Scope → Prop} (hp : ∃ contribution ∈ first, ∃ scope ∈ contribution.scope?, p scope) :
    ∃ contribution ∈ second, ∃ scope ∈ contribution.scope?, p scope := by
  obtain ⟨contribution, hc, scope, hs, hp⟩ := hp
  obtain ⟨other, ho, halike⟩ := h contribution hc
  exact ⟨other, ho, scope, halike.scope?_eq ▸ hs, hp⟩

theorem AskWithin.collapse_mem {first second : List Contribution} (h : AskWithin first second)
    (hc : .collapse ∈ first) : .collapse ∈ second := by
  obtain ⟨other, ho, halike⟩ := h _ hc
  exact halike.collapse_iff.1 rfl ▸ ho

theorem askWithin_of_forall₂ {first second : List Contribution}
    (h : List.Forall₂ AskAlike first second) : AskWithin first second := by
  induction h with
  | nil => exact nofun
  | cons halike _ ih =>
      refine List.forall_mem_cons.2 ⟨⟨_, List.mem_cons_self, halike⟩, fun contribution hc => ?_⟩
      obtain ⟨other, ho, halike⟩ := ih contribution hc
      exact ⟨other, List.mem_cons_of_mem _ ho, halike⟩

/-- What meets some contributions meets all others that ask for the same. -/
theorem Met.of_askWithin {context : Context} {first second : List Contribution} {topic : Topic}
    (hfirst : AskWithin first second) (hsecond : AskWithin second first)
    (hmet : Met context first topic) : Met context second topic where
  conditions contribution hc := by
    obtain ⟨other, ho, halike⟩ := hsecond contribution hc
    exact (halike.holds_iff topic).2 (hmet.conditions other ho)
  levels hreg := by
    obtain ⟨actor, ha, member, hm, level, hl, hscope⟩ := hmet.levels (hsecond.exists_scope hreg)
    exact ⟨actor, ha, member, hm, level, hl, hfirst.exists_scope hscope⟩
  categories hreg := by
    obtain ⟨category, hc, hscope⟩ := hmet.categories (hsecond.exists_scope hreg)
    exact ⟨category, hc, hfirst.exists_scope hscope⟩

variable {context : Context} {contributions : List Contribution} {topic : Topic}

theorem holds_conditionsFrom_iff (first : Nat) :
    (∀ predicate ∈ conditionsFrom first contributions, predicate.Holds topic) ↔
      ∀ contribution ∈ contributions, ∀ predicate ∈ contribution.condition? 0,
        predicate.Holds topic := by
  induction contributions generalizing first with
  | nil => simp [conditionsFrom]
  | cons contribution rest ih =>
      rw [conditionsFrom, List.forall_mem_append, ih, List.forall_mem_cons]
      refine and_congr_left' ?_
      rw [← holds_condition?_congr contribution first 0 topic]
      exact forall_congr' fun _ => imp_congr_left Option.mem_toList

/-- The kinds that are open at the end are those that were registered. -/
theorem exists_registers_iff (kind : ScopeKind) :
    (∃ contribution ∈ contributions, contribution.Registers kind) ↔
      ∃ scope ∈ (Registry.registerAll ∅ (contributions.filterMap scope?)).scopes,
        scope.kind = kind := by
  rw [← List.mem_map, Registry.map_kind_registerAll, List.mem_eraseDups, List.mem_map]
  refine ⟨?_, ?_⟩
  · rintro ⟨contribution, hc, scope, hs, hk⟩
    exact ⟨scope, List.mem_filterMap.2 ⟨contribution, hc, hs⟩, hk⟩
  · rintro ⟨scope, hs, hk⟩
    obtain ⟨contribution, hc, hs⟩ := List.mem_filterMap.1 hs
    exact ⟨contribution, hc, scope, hs, hk⟩

theorem exists_mem_filterMap_scope? (p : Scope → Prop) :
    (∃ scope ∈ contributions.filterMap scope?, p scope) ↔
      ∃ contribution ∈ contributions, ∃ scope ∈ contribution.scope?, p scope := by
  refine ⟨?_, ?_⟩
  · rintro ⟨scope, hs, hp⟩
    obtain ⟨contribution, hc, hs⟩ := List.mem_filterMap.1 hs
    exact ⟨contribution, hc, scope, hs, hp⟩
  · rintro ⟨contribution, hc, scope, hs, hp⟩
    exact ⟨scope, List.mem_filterMap.2 ⟨contribution, hc, hs⟩, hp⟩

/-- **A topic passes what some contributions end as if and only if it meets what they ask for.** -/
theorem passes_predicates_iff (h : ∀ contribution ∈ contributions, contribution.Allowed context) :
    (Filter.chain (predicates contributions)).Passes topic ↔ Met context contributions topic := by
  rw [Filter.Passes, predicates, List.forall_mem_append, holds_conditionsFrom_iff,
    Registry.predicates, List.forall_mem_map]
  constructor
  · rintro ⟨hconditions, hscopes⟩
    refine ⟨hconditions, fun hreg => ?_, fun hreg => ?_⟩
    · obtain ⟨scope, hs, hk⟩ := (exists_registers_iff .levels).1 hreg
      cases scope with
      | categories => cases hk
      | levels actor set =>
          obtain ⟨member, hm, level, hl, hset⟩ := hscopes _ hs
          refine ⟨actor, actor_of_mem_registerAll h hs rfl, member, hm, level, hl, ?_⟩
          rw [← exists_mem_filterMap_scope?]
          exact ((Registry.unites_of_mem_registerAll hs).2 level).1 hset
    · obtain ⟨scope, hs, hk⟩ := (exists_registers_iff .categories).1 hreg
      cases scope with
      | levels => cases hk
      | categories set =>
          obtain ⟨category, hc, hset⟩ := hscopes _ hs
          refine ⟨category, hc, ?_⟩
          rw [← exists_mem_filterMap_scope?]
          exact (Registry.unites_of_mem_registerAll hs category).1 hset
  · intro hmet
    refine ⟨hmet.conditions, fun scope hs => ?_⟩
    -- a scope that is left was asked for, and unites all that was asked for with it
    have hreg := (exists_registers_iff scope.kind).2 ⟨scope, hs, rfl⟩
    cases scope with
    | levels actor set =>
        obtain ⟨asking, ha, member, hm, level, hl, hset⟩ := hmet.levels hreg
        rw [actor_of_mem_registerAll h hs rfl, Option.mem_some_iff] at ha
        subst ha
        rw [← exists_mem_filterMap_scope?] at hset
        exact ⟨member, hm, level, hl, ((Registry.unites_of_mem_registerAll hs).2 level).2 hset⟩
    | categories set =>
        obtain ⟨category, hc, hset⟩ := hmet.categories hreg
        rw [← exists_mem_filterMap_scope?] at hset
        exact ⟨category, hc, (Registry.unites_of_mem_registerAll hs category).2 hset⟩

end Contribution

/-! ### Queries in which the same clauses are written -/

/-- What a token writes: its flag, its key and its value. -/
def Query.Token.written (token : Token) : Option Flag × String × String :=
  (token.flag, token.key, token.value)

/-- What is written decides what is added. -/
theorem Context.yield_eq_of_written_eq (context : Context) {first second : Token}
    (h : first.written = second.written) : context.yield first = context.yield second := by
  obtain ⟨flag, key, value, position⟩ := first
  obtain ⟨flag', key', value', position'⟩ := second
  simp only [Token.written, Prod.mk.injEq] at h
  obtain ⟨rfl, rfl, rfl⟩ := h
  rfl

theorem Context.mem_yields_of_written (context : Context) {first second : String}
    (h : ∀ clause, clause ∈ (Token.scan first).map Token.written ↔
      clause ∈ (Token.scan second).map Token.written) {contribution : Contribution}
    (hc : contribution ∈ context.yields first) : contribution ∈ context.yields second := by
  obtain ⟨token, ht, rfl⟩ := List.mem_map.1 hc
  obtain ⟨other, ho, hw⟩ := List.mem_map.1 ((h token.written).1 (List.mem_map_of_mem ht))
  exact List.mem_map.2 ⟨other, ho, context.yield_eq_of_written_eq hw⟩

/-- A topic passes a query if and only if no token collapses and it meets what they all ask for. -/
theorem Context.passes_compile_iff (context : Context) (query : String) (topic : Topic) :
    (context.compile query).value.Passes topic ↔
      .collapse ∉ context.yields query ∧ Met context (context.yields query) topic := by
  by_cases hc : .collapse ∈ context.yields query
  · simp [value_compile_eq_nothing_iff.2 hc, Filter.Passes, hc]
  · rw [value_compile hc, passes_predicates_iff (context.allowed_yields query)]
    exact (and_iff_right hc).symm

/-- **Queries that ask for the same, token by token**, match the same topics. -/
theorem Context.passes_compile_of_askAlike {context : Context} {first second : String}
    (h : List.Forall₂ AskAlike (context.yields first) (context.yields second)) :
    ((context.compile first).value = .nothing ↔ (context.compile second).value = .nothing) ∧
      ∀ topic, (context.compile first).value.Passes topic ↔
        (context.compile second).value.Passes topic := by
  have hfirst : AskWithin (context.yields first) (context.yields second) := askWithin_of_forall₂ h
  have hsecond : AskWithin (context.yields second) (context.yields first) :=
    askWithin_of_forall₂ (h.flip.imp fun _ _ halike => halike.symm)
  have hcollapse : .collapse ∈ context.yields first ↔ .collapse ∈ context.yields second :=
    ⟨hfirst.collapse_mem, hsecond.collapse_mem⟩
  refine ⟨?_, fun topic => ?_⟩
  · rw [Context.value_compile_eq_nothing_iff, Context.value_compile_eq_nothing_iff, hcollapse]
  · rw [Context.passes_compile_iff, Context.passes_compile_iff, hcollapse]
    exact and_congr_right fun _ => ⟨.of_askWithin hfirst hsecond, .of_askWithin hsecond hfirst⟩

/-- **The order, the number and the spacing of clauses do not matter.** -/
theorem passes_compile_congr (context : Context) {first second : String}
    (h : ∀ clause, clause ∈ (Token.scan first).map Token.written ↔
      clause ∈ (Token.scan second).map Token.written) :
    ((context.compile first).value = .nothing ↔ (context.compile second).value = .nothing) ∧
      ∀ topic, (context.compile first).value.Passes topic ↔
        (context.compile second).value.Passes topic := by
  have hyields : ∀ contribution,
      contribution ∈ context.yields first ↔ contribution ∈ context.yields second :=
    fun _ => ⟨context.mem_yields_of_written h, context.mem_yields_of_written fun c => (h c).symm⟩
  refine ⟨?_, fun topic => ?_⟩
  · rw [Context.value_compile_eq_nothing_iff, Context.value_compile_eq_nothing_iff, hyields]
  · rw [Context.passes_compile_iff, Context.passes_compile_iff, hyields]
    exact and_congr_right fun _ => ⟨Met.congr hyields, Met.congr fun c => (hyields c).symm⟩

/-- Two spellings of one search: a chunk that is no clause, a repeat, and another order. -/
theorem passes_compile_congr_respelt :
    let context : Context := ⟨({ actor := some ⟨42⟩ } : Permissions).guardian,
      ((∅ : Directory).addTag "a" ⟨1⟩ none none).resolver, true, ⟨0, 0, by decide, by decide⟩⟩
    let first := "in:watching tags:a in:tracking"
    let second := "in:tracking tags: in:watching  tags:a in:tracking"
    (∀ clause, clause ∈ (Token.scan first).map Token.written ↔
      clause ∈ (Token.scan second).map Token.written) ∧
    ((context.compile first).value = .nothing ↔ (context.compile second).value = .nothing) ∧
    ∀ topic, (context.compile first).value.Passes topic ↔
      (context.compile second).value.Passes topic := by
  intro context first second
  have hfirst : (Token.scan first).map Token.written =
      [(none, "in", "watching"), (none, "tags", "a"), (none, "in", "tracking")] := by decide +kernel
  have hsecond : (Token.scan second).map Token.written = [(none, "in", "tracking"),
      (none, "in", "watching"), (none, "tags", "a"), (none, "in", "tracking")] := by decide +kernel
  have h : ∀ clause, clause ∈ (Token.scan first).map Token.written ↔
      clause ∈ (Token.scan second).map Token.written := by
    intro clause
    rw [hfirst, hsecond]
    simp only [List.mem_cons, List.not_mem_nil, or_false]
    tauto
  exact ⟨h, passes_compile_congr context h⟩

end ForumQuery
