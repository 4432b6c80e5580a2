import ForumQuery.Compile

/-!
# Sessions

A session is a row of steps over a running filter, at first the one that everything passes.  A step
either starts afresh, with a query or a status, or narrows the running filter.
-/

namespace ForumQuery

/-- One step of a session. -/
inductive Step where
  | compile (query : String)
  | narrow (query : String)
  | ofStatus (name : String) (category : Option CategoryId)
  | narrowToStatus (name : String) (category : Option CategoryId)
  deriving DecidableEq, Repr

namespace Step

/-- The filter after a step. -/
def run (context : Context) (running : Filter) : Step → Consult Filter
  | compile query => context.compile query
  | narrow query => context.narrow running query
  | ofStatus name category => context.ofStatus name category
  | narrowToStatus name category => context.narrowToStatus running name category

/-- The consultations of some steps, one for each, from a running filter. -/
def runAll (context : Context) (running : Filter) : List Step → List (Consult Filter)
  | [] => []
  | step :: rest =>
    let outcome := step.run context running
    outcome :: runAll context outcome.value rest

end Step

/-- The consultations of a session, one for each step. -/
def Context.session (context : Context) (steps : List Step) : List (Consult Filter) :=
  Step.runAll context .everything steps

end ForumQuery
