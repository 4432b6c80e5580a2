import ForumQuery.Proofs.Accumulation

/-!
# Invariants — what holds of every condition of a compilation

A property of conditions is kept by a compilation if every token gives nothing but conditions and
scopes with it (`Contribution.Gives`) and two scopes with it merge into one with it
(`Scope.KeptByMerge`).  A builder *keeps* the property if its conditions have it and its scopes end
as conditions that have it (`Builder.Keeps`); a contribution leaves it so (`Keeps.contribute`), and
therefore a run does (`Keeps.takeEach`).

Nothing in this needs the site to answer the same question alike each time.  So the runs here read
each token in a context of its own (`compileAcross`); to compile a query in one context is the case
of a site that does not change (`compileAcross_const`).
-/

namespace ForumQuery

open Query

/-! ### Runs across contexts -/

/-- A builder after some tokens, each read in a context of its own. -/
def Builder.takeEach (contexts : Token → Context) (builder : Builder) (tokens : List Token) :
    Builder :=
  tokens.foldl (fun builder token => (builder.take (contexts token) token).value) builder

/-- What a query compiles to when each token is read in a context of its own. -/
def compileAcross (contexts : Token → Context) (query : String) : Filter :=
  ((Builder.onto .everything).takeEach contexts (Token.scan query)).close

theorem Builder.takeEach_const (context : Context) (builder : Builder) (tokens : List Token) :
    builder.takeEach (fun _ => context) tokens = (builder.takeAll context tokens).value := by
  induction tokens generalizing builder with
  | nil => rfl
  | cons token rest ih => exact ih _

/-- **To compile a query in one context.** -/
theorem compileAcross_const (context : Context) (query : String) :
    compileAcross (fun _ => context) query = (context.compile query).value :=
  congrArg Builder.close (Builder.takeEach_const ..)

/-! ### What is kept -/

/-- Scopes that end as conditions with a property merge into one that does. -/
def Scope.KeptByMerge (P : Predicate → Prop) : Prop :=
  ∀ ⦃older newer merged : Scope⦄, older.merge? newer = some merged → P older.predicate →
    P newer.predicate → P merged.predicate

/-- A contribution gives conditions with a property only, and a scope that ends as one. -/
structure Contribution.Gives (P : Predicate → Prop) (contribution : Contribution) : Prop where
  condition : ∀ {first predicate}, predicate ∈ contribution.condition? first → P predicate
  scope : ∀ {scope}, scope ∈ contribution.scope? → P scope.predicate

namespace Builder

variable {P : Predicate → Prop} {builder : Builder}

/-- All conditions have a property, and all open scopes end as conditions that have it. -/
structure Keeps (P : Predicate → Prop) (builder : Builder) : Prop where
  conditions : ∀ predicate ∈ builder.filter.predicates, P predicate
  scopes : ∀ scope ∈ builder.scopes.scopes, P scope.predicate

theorem keeps_onto_everything : (onto .everything).Keeps P :=
  ⟨fun _ h => absurd h List.not_mem_nil, fun _ h => absurd h List.not_mem_nil⟩

theorem keeps_of_isNothing (h : builder.isNothing = true)
    (hscopes : ∀ scope ∈ builder.scopes.scopes, P scope.predicate) : builder.Keeps P := by
  refine ⟨fun predicate hp => ?_, hscopes⟩
  cases hf : builder.filter with
  | nothing =>
      rw [hf] at hp
      exact absurd hp List.not_mem_nil
  | chain => simp [isNothing, hf, Filter.isNothing] at h

/-- A scope that is registered ends as a condition with the property, merged or not. -/
theorem forall_mem_mergeInto (hmerge : Scope.KeptByMerge P) {newer : Scope}
    (hnewer : P newer.predicate) {scopes : List Scope} (h : ∀ scope ∈ scopes, P scope.predicate) :
    ∀ scope ∈ mergeInto newer scopes, P scope.predicate := by
  induction scopes with
  | nil => exact List.forall_mem_singleton.2 hnewer
  | cons older rest ih =>
      rw [List.forall_mem_cons] at h
      unfold mergeInto
      split
      · next merged hm => exact List.forall_mem_cons.2 ⟨hmerge hm h.1 hnewer, h.2⟩
      · exact List.forall_mem_cons.2 ⟨h.1, ih h.2⟩

/-- **A contribution leaves what is kept.** -/
theorem Keeps.contribute (hmerge : Scope.KeptByMerge P) (h : builder.Keeps P)
    {contribution : Contribution} (hgives : contribution.Gives P) :
    (builder.contribute contribution).Keeps P := by
  by_cases hc : contribution = .collapse
  · subst hc
    exact keeps_of_isNothing rfl h.scopes
  · cases hf : builder.filter with
    | nothing =>
        have hnothing : builder.isNothing = true := by simp [isNothing, hf, Filter.isNothing]
        refine keeps_of_isNothing (isNothing_contribute_of_isNothing hnothing contribution) ?_
        -- no scope is registered where nothing can pass
        cases contribution <;>
          simpa [Builder.contribute, collapse, Builder.and, takeJoins, takeLabel, register,
            hnothing] using h.scopes
    | chain base =>
        have hconditions := h.conditions
        rw [hf] at hconditions
        rw [contribute_eq hf hc]
        refine ⟨fun predicate hp => ?_, ?_⟩
        · rcases List.mem_append.1 hp with hp | hp
          · exact hconditions predicate hp
          · exact hgives.condition (Option.mem_toList.1 hp)
        · cases hs : contribution.scope? with
          | none => exact h.scopes
          | some newer =>
              refine fun scope hmem => forall_mem_mergeInto hmerge (hgives.scope hs) h.scopes scope ?_
              rwa [Option.toList_some, Registry.registerAll_cons, Registry.registerAll_nil,
                Registry.scopes_register] at hmem

/-- **A run keeps what its tokens give.** -/
theorem Keeps.takeEach (hmerge : Scope.KeptByMerge P) (h : builder.Keeps P)
    {contexts : Token → Context} {tokens : List Token}
    (hgives : ∀ token ∈ tokens, ((contexts token).yield token).Gives P) :
    (builder.takeEach contexts tokens).Keeps P := by
  induction tokens generalizing builder with
  | nil => exact h
  | cons token rest ih =>
      rw [List.forall_mem_cons] at hgives
      refine ih ?_ hgives.2
      dsimp only
      rw [value_take]
      split
      · exact h
      · exact h.contribute hmerge hgives.1

theorem Keeps.close (h : builder.Keeps P) :
    ∀ predicate ∈ builder.close.predicates, P predicate := by
  intro predicate hp
  cases hf : builder.filter with
  | nothing =>
      rw [Builder.close, hf, Filter.nothing_andAll] at hp
      exact absurd hp List.not_mem_nil
  | chain base =>
      have hconditions := h.conditions
      rw [hf] at hconditions
      rw [Builder.close, hf, Filter.chain_andAll] at hp
      rcases List.mem_append.1 hp with hp | hp
      · exact hconditions predicate hp
      · obtain ⟨scope, hs, rfl⟩ := List.mem_map.1 hp
        exact h.scopes scope hs

end Builder

/-- **A compilation has only conditions with a property that all its tokens give.** -/
theorem forall_mem_compileAcross {P : Predicate → Prop} (hmerge : Scope.KeptByMerge P)
    {contexts : Token → Context} {query : String}
    (hgives : ∀ token ∈ Token.scan query, ((contexts token).yield token).Gives P) :
    ∀ predicate ∈ (compileAcross contexts query).predicates, P predicate :=
  (Builder.keeps_onto_everything.takeEach hmerge hgives).close

end ForumQuery
