import ForumQuery.Session
import ForumQuery.Proofs.Yield

/-!
# Narrowing — a session is what its steps are

To narrow a filter by a query is to *meet* it with the filter of the query alone: nothing if either
is nothing, else the conditions of both, those of the first before those of the second
(`Context.value_narrow_eq_meet`); and so for a status (`Context.value_narrowToStatus_eq_meet`).  So
any steps that narrow a filter leave the conditions of the filter and those of each step alone, one
after the other, or nothing if one of them is nothing (`narrow_conjoins`).

A step of a session that starts afresh forgets the steps before it.  The *live* steps are those from
the last such step on, and the running filter is what all of them make alone, met in their order
(`Context.running_eq_meetAll`).
-/

namespace ForumQuery

open Query Contribution

/-! ### Two filters -/

namespace Filter

/-- The filter of what passes both. -/
def meet : Filter → Filter → Filter
  | chain first, chain second => chain (first ++ second)
  | chain _, nothing | nothing, _ => nothing

/-- The filter of what passes all. -/
def meetAll (filters : List Filter) : Filter := filters.foldl meet everything

theorem everything_meet (filter : Filter) : everything.meet filter = filter := by
  cases filter <;> rfl

theorem meet_everything (filter : Filter) : filter.meet everything = filter := by
  cases filter with
  | nothing => rfl
  | chain predicates => exact congrArg chain (List.append_nil predicates)

/-- Filters that are met, in closed form. -/
theorem meetAll_eq (filters : List Filter) :
    meetAll filters =
      if .nothing ∈ filters then .nothing else .chain (filters.flatMap predicates) := by
  induction filters using List.reverseRecOn with
  | nil => rfl
  | append_singleton filters last ih =>
      rw [meetAll, List.foldl_append, ← meetAll, ih]
      cases last with
      | nothing => by_cases h : .nothing ∈ filters <;> simp [h, meet]
      | chain predicates =>
          by_cases h : .nothing ∈ filters
          · simp [h, meet]
          · simp [h, meet, Filter.predicates, chain?]

end Filter

/-! ### One step -/

namespace Context

/-- **To narrow a filter is to meet it with the query.** -/
theorem value_narrow_eq_meet (context : Context) (base : Filter) (query : String) :
    (context.narrow base query).value = base.meet (context.compile query).value := by
  cases base with
  | nothing => exact value_narrow_nothing context query
  | chain base =>
      by_cases hc : .collapse ∈ context.yields query
      · rw [value_narrow_eq_nothing_iff.2 hc, value_compile_eq_nothing_iff.2 hc, Filter.meet]
      · rw [value_narrow hc, value_compile hc, Filter.meet]

/-- What a status makes of a filter. -/
theorem value_narrowToStatus (context : Context) (base : Filter) (name : String)
    (category : Option CategoryId) :
    (context.narrowToStatus base name category).value = base.meet
      (match Status.ofName? name with
      | some wanted =>
          if wanted = .deleted ∧ context.guardian.seesDeleted category = false then .everything
          else .chain [.status wanted]
      | none => .everything) := by
  rw [narrowToStatus]
  cases Status.ofName? name with
  | none => exact (Filter.meet_everything base).symm
  | some wanted =>
      simp only [Consult.value_bind, Consult.value_pure, Clause.value_ofStatus]
      split
      · rw [Filter.meet_everything]
        rfl
      · cases base <;> rfl

/-- **To narrow a filter to a status is to meet it with the status.** -/
theorem value_narrowToStatus_eq_meet (context : Context) (base : Filter) (name : String)
    (category : Option CategoryId) :
    (context.narrowToStatus base name category).value =
      base.meet (context.ofStatus name category).value := by
  rw [ofStatus, value_narrowToStatus, value_narrowToStatus, Filter.everything_meet]

/-- A status alone is a chain. -/
theorem exists_value_ofStatus (context : Context) (name : String) (category : Option CategoryId) :
    ∃ added, (context.ofStatus name category).value = .chain added := by
  rw [ofStatus, value_narrowToStatus, Filter.everything_meet]
  cases Status.ofName? name with
  | none => exact ⟨[], rfl⟩
  | some wanted =>
      dsimp only
      split
      · exact ⟨[], rfl⟩
      · exact ⟨[.status wanted], rfl⟩

end Context

namespace Step

/-- A step that starts afresh. -/
def isFresh : Step → Bool
  | compile _ | ofStatus .. => true
  | narrow _ | narrowToStatus .. => false

/-- What a step makes alone. -/
def alone (context : Context) : Step → Filter
  | compile query | narrow query => (context.compile query).value
  | ofStatus name category | narrowToStatus name category => (context.ofStatus name category).value

/-- What a step makes of the running filter. -/
theorem value_run (context : Context) (running : Filter) (step : Step) :
    (step.run context running).value =
      if step.isFresh then step.alone context else running.meet (step.alone context) := by
  cases step with
  | compile | ofStatus => rfl
  | narrow query => exact context.value_narrow_eq_meet running query
  | narrowToStatus name category => exact context.value_narrowToStatus_eq_meet running name category

end Step

/-! ### All of them -/

/-- The running filter after the steps of a session. -/
def Context.running (context : Context) (steps : List Step) : Filter :=
  ((context.session steps).getLast?.map Consult.value).getD .everything

namespace Step

/-- The filter after some steps, from a running filter. -/
def outcome (context : Context) (running : Filter) (steps : List Step) : Filter :=
  ((runAll context running steps).getLast?.map Consult.value).getD running

theorem outcome_cons (context : Context) (running : Filter) (first : Step) (rest : List Step) :
    outcome context running (first :: rest) =
      outcome context (first.run context running).value rest := by
  rw [outcome, runAll, List.getLast?_cons, outcome]
  cases (runAll context (first.run context running).value rest).getLast? <;> rfl

theorem outcome_concat (context : Context) (running : Filter) (steps : List Step) (step : Step) :
    outcome context running (steps ++ [step]) =
      (step.run context (outcome context running steps)).value := by
  induction steps generalizing running with
  | nil => rfl
  | cons first rest ih => rw [List.cons_append, outcome_cons, ih, outcome_cons]

/-- Steps none of which starts afresh meet the running filter with what each of them makes alone. -/
theorem outcome_eq_meetAll (context : Context) (running : Filter) {steps : List Step}
    (h : ∀ step ∈ steps, step.isFresh = false) :
    outcome context running steps = .meetAll (running :: steps.map (alone context)) := by
  induction steps using List.reverseRecOn with
  | nil => exact (Filter.everything_meet running).symm
  | append_singleton steps step ih =>
      have hsteps : ∀ step ∈ steps, step.isFresh = false :=
        fun step hs => h step (List.mem_append_left _ hs)
      have hstep : step.isFresh = false := h step (by simp)
      rw [outcome_concat, value_run, hstep, ih hsteps, List.map_append, ← List.cons_append,
        Filter.meetAll, Filter.meetAll, List.foldl_append]
      rfl

/-- The steps from the last one on that starts afresh. -/
def live (steps : List Step) : List Step :=
  steps.foldl (fun live step => if step.isFresh then [step] else live ++ [step]) []

theorem live_concat (steps : List Step) (step : Step) :
    live (steps ++ [step]) = if step.isFresh then [step] else live steps ++ [step] := by
  rw [live, List.foldl_append]
  rfl

end Step

namespace Context

theorem running_concat (context : Context) (steps : List Step) (step : Step) :
    context.running (steps ++ [step]) = (step.run context (context.running steps)).value :=
  Step.outcome_concat context .everything steps step

/-- **The running filter is what the live steps make alone**, met in their order. -/
theorem running_eq_meetAll (context : Context) (steps : List Step) :
    context.running steps = .meetAll ((Step.live steps).map (Step.alone context)) := by
  induction steps using List.reverseRecOn with
  | nil => rfl
  | append_singleton steps step ih =>
      -- a step that starts afresh drops the live steps before it, any other step joins them
      rw [running_concat, Step.value_run, ih, Step.live_concat]
      split
      · exact (Filter.everything_meet _).symm
      · rw [List.map_append, Filter.meetAll, Filter.meetAll, List.foldl_append]
        rfl

end Context

/-- **To narrow a filter is to conjoin it**, by a query, by a status, and by any steps of these. -/
theorem narrow_conjoins (context : Context) :
    (∀ query, (context.narrow .nothing query).value = .nothing) ∧
      (∀ name category, (context.narrowToStatus .nothing name category).value = .nothing) ∧
      (∀ base query, (context.narrow (.chain base) query).value =
        match (context.compile query).value with
        | .nothing => .nothing
        | .chain added => .chain (base ++ added)) ∧
      (∀ base name category, ∃ added, (context.ofStatus name category).value = .chain added ∧
        (context.narrowToStatus (.chain base) name category).value = .chain (base ++ added)) ∧
      ∀ base steps, (∀ step ∈ steps, step.isFresh = false) →
        let parts := base :: steps.map (Step.alone context)
        Step.outcome context base steps =
          if .nothing ∈ parts then .nothing else .chain (parts.flatMap Filter.predicates) := by
  refine ⟨context.value_narrow_nothing, fun name category => ?_, fun base query => ?_,
    fun base name category => ?_, fun base steps h => ?_⟩
  · rw [Context.value_narrowToStatus_eq_meet]
    cases (context.ofStatus name category).value <;> rfl
  · rw [Context.value_narrow_eq_meet]
    cases (context.compile query).value <;> rfl
  · obtain ⟨added, hadded⟩ := context.exists_value_ofStatus name category
    refine ⟨added, hadded, ?_⟩
    rw [Context.value_narrowToStatus_eq_meet, hadded]
    rfl
  · exact (Step.outcome_eq_meetAll context base h).trans (Filter.meetAll_eq _)

end ForumQuery
