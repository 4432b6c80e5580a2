import ForumQuery.Compile
import ForumQuery.Proofs.Registry

/-!
# Accumulation — what contributions make of a filter

A builder threads three things through a compilation: the filter, the open scopes and the number of
the next label.  `contributeAll_eq` says what all three are after any contributions none of which
collapses: the conditions come after those of the base, in the order of the contributions and with
labels counted on (`conditionsFrom`); the scopes are registered in the same order; and as many
labels are gone as the contributions took.  A collapse anywhere leaves the filter that nothing
passes (`isNothing_contributeAll`).

A compilation is such a run.  It stops asking questions at the first collapse, which changes the
questions and the unused labels but not the filter; so `Context.narrow` is determined by what the
tokens *yield*, each read without the others (`value_narrow_congr`): `value_narrow_eq_nothing_iff`
says when it collapses and `value_narrow` what it is otherwise; `value_compile` is the case of a
query alone.
-/

namespace ForumQuery

open Query

namespace Contribution

/-- The number of labels that a contribution takes. -/
def labelCount : Contribution → Nat
  | everyGroup groups | notEveryGroup groups => groups.length
  | someTag _ => 1
  | inert | collapse | condition _ | scope _ => 0

/-- The condition that a contribution adds at once, its joins labelled from a number on. -/
def condition? (first : Nat) : Contribution → Option Predicate
  | condition predicate => some predicate
  | everyGroup groups => some (.taggedWithAll (Builder.joinsFrom first groups))
  | notEveryGroup groups => some (.missingSomeTag (Builder.joinsFrom first groups))
  | someTag tags => some (.taggedWithAny ⟨Builder.label first, tags⟩)
  | inert | collapse | scope _ => none

/-- The scope that a contribution registers. -/
def scope? : Contribution → Option Scope
  | .scope found => some found
  | inert | collapse | condition _ | everyGroup _ | notEveryGroup _ | someTag _ => none

/-- The conditions that some contributions add at once, the labels counted on from a number. -/
def conditionsFrom (first : Nat) : List Contribution → List Predicate
  | [] => []
  | contribution :: rest =>
      (contribution.condition? first).toList ++
        conditionsFrom (first + contribution.labelCount) rest

/-- The conditions that some contributions end as: those added at once, then the scopes. -/
def predicates (contributions : List Contribution) : List Predicate :=
  conditionsFrom 0 contributions ++
    (Registry.registerAll ∅ (contributions.filterMap scope?)).predicates

end Contribution

open Contribution

namespace Builder

/-- A builder after some contributions. -/
def contributeAll (builder : Builder) (contributions : List Contribution) : Builder :=
  contributions.foldl contribute builder

/-! ### One contribution -/

/-- Once nothing can pass, nothing can pass for good. -/
theorem isNothing_contribute_of_isNothing {builder : Builder} (h : builder.isNothing = true)
    (contribution : Contribution) : (builder.contribute contribution).isNothing = true := by
  cases hf : builder.filter with
  | chain => simp [isNothing, hf, Filter.isNothing] at h
  | nothing =>
      cases contribution <;>
        simp [contribute, isNothing, collapse, Builder.and, takeJoins, takeLabel, register, hf,
          Filter.isNothing]

/-- What a contribution does to a builder that something can pass. -/
theorem contribute_eq {builder : Builder} {base : List Predicate}
    (hf : builder.filter = .chain base) {contribution : Contribution}
    (hc : contribution ≠ .collapse) :
    builder.contribute contribution =
      ⟨.chain (base ++ (contribution.condition? builder.nextLabel).toList),
        builder.scopes.registerAll contribution.scope?.toList,
        builder.nextLabel + contribution.labelCount⟩ := by
  obtain ⟨filter, scopes, nextLabel⟩ := builder
  subst hf
  cases contribution with
  | collapse => exact absurd rfl hc
  | inert => simp [contribute, condition?, scope?, labelCount]
  | condition => rfl
  | everyGroup => rfl
  | notEveryGroup => rfl
  | someTag => rfl
  | scope scope =>
      simp [contribute, register, isNothing, Filter.isNothing, condition?, Contribution.scope?,
        labelCount]

/-! ### All of them -/

/-- Something can pass as long as it could before and nothing collapses. -/
theorem isNothing_contributeAll {builder : Builder} {contributions : List Contribution} :
    (builder.contributeAll contributions).isNothing = true ↔
      builder.isNothing = true ∨ .collapse ∈ contributions := by
  induction contributions generalizing builder with
  | nil => simp [contributeAll]
  | cons contribution rest ih =>
      rw [contributeAll, List.foldl_cons, ← contributeAll, ih, List.mem_cons, ← or_assoc]
      -- one contribution leaves nothing only if nothing was left or it collapses
      refine or_congr_left ⟨fun h => ?_, ?_⟩
      · by_cases hc : contribution = .collapse
        · exact .inr hc.symm
        · cases hf : builder.filter with
          | nothing => exact .inl (by simp [isNothing, hf, Filter.isNothing])
          | chain base =>
              rw [contribute_eq hf hc] at h
              simp [isNothing, Filter.isNothing] at h
      · rintro (h | rfl)
        · exact isNothing_contribute_of_isNothing h contribution
        · rfl

/-- **A builder after contributions none of which collapses.** -/
theorem contributeAll_eq {builder : Builder} {base : List Predicate}
    (hf : builder.filter = .chain base) {contributions : List Contribution}
    (hc : .collapse ∉ contributions) :
    (builder.contributeAll contributions).filter =
        .chain (base ++ conditionsFrom builder.nextLabel contributions) ∧
      (builder.contributeAll contributions).scopes =
        builder.scopes.registerAll (contributions.filterMap Contribution.scope?) := by
  induction contributions generalizing builder base with
  | nil => exact ⟨by simp [contributeAll, conditionsFrom, hf], rfl⟩
  | cons contribution rest ih =>
      obtain ⟨hne, hrest⟩ := not_or.1 (mt List.mem_cons.2 hc)
      have hstep := contribute_eq hf (Ne.symm hne)
      obtain ⟨hfilter, hscopes⟩ := ih (congrArg Builder.filter hstep) hrest
      rw [contributeAll, List.foldl_cons, ← contributeAll]
      refine ⟨?_, ?_⟩
      · rw [hfilter, hstep, conditionsFrom, List.append_assoc]
      · rw [hscopes, hstep]
        cases h : contribution.scope? <;> simp [h]

end Builder

/-! ### Compilations -/

/-- What a token adds, whatever else the query holds. -/
def Context.yield (context : Context) (token : Token) : Contribution :=
  (context.contribution token).value

/-- What the tokens of a query add. -/
def Context.yields (context : Context) (query : String) : List Contribution :=
  (Token.scan query).map context.yield

namespace Builder

theorem value_take (context : Context) (builder : Builder) (token : Token) :
    (builder.take context token).value =
      if builder.isNothing then builder else builder.contribute (context.yield token) := by
  rw [take]
  split <;> rfl

theorem value_takeAll_cons (context : Context) (builder : Builder) (token : Token)
    (rest : List Token) :
    (builder.takeAll context (token :: rest)).value =
      ((builder.take context token).value.takeAll context rest).value := rfl

/-- A run stops asking once nothing can pass, and adds nothing any more. -/
theorem value_takeAll_of_isNothing {context : Context} {builder : Builder}
    (h : builder.isNothing = true) (tokens : List Token) :
    (builder.takeAll context tokens).value = builder := by
  induction tokens with
  | nil => rfl
  | cons token rest ih => rw [value_takeAll_cons, value_take, if_pos h, ih]

/-- A token leaves nothing if nothing was left or it collapses. -/
theorem isNothing_take {context : Context} {builder : Builder} {token : Token} :
    (builder.take context token).value.isNothing = true ↔
      builder.isNothing = true ∨ .collapse = context.yield token := by
  have hone : (builder.contributeAll [context.yield token]).isNothing = true ↔
      builder.isNothing = true ∨ .collapse = context.yield token := by
    rw [isNothing_contributeAll, List.mem_singleton]
  rw [value_take]
  split
  · next hb => simp [hb]
  · exact hone

/-- A run over tokens none of which collapses adds what they yield. -/
theorem value_takeAll {context : Context} {builder : Builder} {tokens : List Token}
    (h : .collapse ∉ tokens.map context.yield) (hb : builder.isNothing = false) :
    (builder.takeAll context tokens).value = builder.contributeAll (tokens.map context.yield) := by
  induction tokens generalizing builder with
  | nil => rfl
  | cons token rest ih =>
      rw [List.map_cons, List.mem_cons, not_or] at h
      have hstep : (builder.take context token).value.isNothing = false := by
        rw [Bool.eq_false_iff, Ne, isNothing_take]
        simp [hb, h.1]
      rw [value_takeAll_cons, ih h.2 hstep, value_take, if_neg (by simp [hb])]
      rfl

/-- A run leaves nothing if nothing was left at its start or one of its tokens collapses. -/
theorem isNothing_takeAll {context : Context} {builder : Builder} {tokens : List Token} :
    (builder.takeAll context tokens).value.isNothing = true ↔
      builder.isNothing = true ∨ .collapse ∈ tokens.map context.yield := by
  induction tokens generalizing builder with
  | nil => simp [takeAll]
  | cons token rest ih =>
      rw [value_takeAll_cons, ih, isNothing_take, or_assoc, List.map_cons, List.mem_cons]

theorem close_of_isNothing {builder : Builder} (h : builder.isNothing = true) :
    builder.close = .nothing := by
  cases hf : builder.filter with
  | nothing => rw [close, hf, Filter.nothing_andAll]
  | chain => simp [isNothing, hf, Filter.isNothing] at h

end Builder

namespace Context

/-- Nothing passes a query that narrows the filter that nothing passes. -/
theorem value_narrow_nothing (context : Context) (query : String) :
    (context.narrow .nothing query).value = .nothing := by
  refine (congrArg Builder.close (Builder.value_takeAll_of_isNothing rfl _)).trans ?_
  exact Builder.close_of_isNothing rfl

/-- **What a query makes of a chain**, when no token collapses. -/
theorem value_narrow {context : Context} {query : String} (h : .collapse ∉ context.yields query)
    (base : List Predicate) :
    (context.narrow (.chain base) query).value =
      .chain (base ++ predicates (context.yields query)) := by
  refine (congrArg Builder.close (Builder.value_takeAll h rfl)).trans ?_
  have honto : (Builder.onto (.chain base)).filter = .chain base := rfl
  obtain ⟨hfilter, hscopes⟩ := Builder.contributeAll_eq honto h
  rw [Builder.close, ← yields, hfilter, hscopes, Filter.chain_andAll, List.append_assoc]
  rfl

/-- A query leaves nothing of a chain if and only if one of its tokens collapses. -/
theorem value_narrow_eq_nothing_iff {context : Context} {query : String} {base : List Predicate} :
    (context.narrow (.chain base) query).value = .nothing ↔ .collapse ∈ context.yields query := by
  refine ⟨fun h => ?_, fun h => Builder.close_of_isNothing (Builder.isNothing_takeAll.2 (.inr h))⟩
  by_contra hc
  rw [value_narrow hc] at h
  cases h

/-- What a query makes of a filter depends on what its tokens yield and on nothing else. -/
theorem value_narrow_congr {first second : Context} {query : String}
    (h : first.yields query = second.yields query) (base : Filter) :
    (first.narrow base query).value = (second.narrow base query).value := by
  cases base with
  | nothing => rw [value_narrow_nothing, value_narrow_nothing]
  | chain base =>
      by_cases hc : .collapse ∈ first.yields query
      · rw [value_narrow_eq_nothing_iff.2 hc, value_narrow_eq_nothing_iff.2 (h ▸ hc)]
      · rw [value_narrow hc, value_narrow (h ▸ hc), h]

/-- What a query compiles to, when no token collapses. -/
theorem value_compile {context : Context} {query : String} (h : .collapse ∉ context.yields query) :
    (context.compile query).value = .chain (predicates (context.yields query)) :=
  value_narrow h []

/-- Nothing passes a query if and only if one of its tokens collapses. -/
theorem value_compile_eq_nothing_iff {context : Context} {query : String} :
    (context.compile query).value = .nothing ↔ .collapse ∈ context.yields query :=
  value_narrow_eq_nothing_iff

end Context

end ForumQuery
