import ForumQuery.Contribution

/-!
# Compiling queries

A query narrows a filter.  It is read token by token, and each token that is a clause contributes to
the filter, until nothing can pass any more: from then on no further question is asked.  At the end
the open scopes are closed.  To compile a query is to narrow the filter that everything passes.

A filter can also be narrowed to a status by the name of it, within a category or everywhere.
-/

namespace ForumQuery

open Query

/-- What a token adds. -/
def Context.contribution (context : Context) (token : Token) : Consult Contribution :=
  match Clause.ofToken? token with
  | some clause => clause.contribution context
  | none => pure .inert

/-- Adds what a token adds, unless nothing can pass any more. -/
def Builder.take (context : Context) (builder : Builder) (token : Token) : Consult Builder :=
  if builder.isNothing then pure builder
  else do
    let contribution ← context.contribution token
    pure (builder.contribute contribution)

/-- Adds what some tokens add, one after the other. -/
def Builder.takeAll (context : Context) (builder : Builder) : List Token → Consult Builder
  | [] => pure builder
  | token :: rest => do
    let builder ← builder.take context token
    takeAll context builder rest

namespace Context

/-- Narrows a filter by a query. -/
def narrow (context : Context) (base : Filter) (query : String) : Consult Filter := do
  let builder ← (Builder.onto base).takeAll context (Token.scan query)
  pure builder.close

/-- Compiles a query. -/
def compile (context : Context) (query : String) : Consult Filter :=
  context.narrow .everything query

/-- Narrows a filter to the status of a name, in a category or everywhere. -/
def narrowToStatus (context : Context) (base : Filter) (name : String)
    (category : Option CategoryId) : Consult Filter :=
  match Status.ofName? name with
  | some wanted => do
    let contribution ← Contribution.ofStatus context wanted category
    pure ((Builder.onto base).contribute contribution).close
  | none => pure base

/-- The filter of the status of a name. -/
def ofStatus (context : Context) (name : String) (category : Option CategoryId) :
    Consult Filter :=
  context.narrowToStatus .everything name category

end Context

end ForumQuery
