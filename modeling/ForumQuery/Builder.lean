import ForumQuery.Registry

/-!
# Builders

The state of one compilation: the filter so far, the scopes that are still open, and the number of
the next label for a join of the tag table.  Labels are `tags_0`, `tags_1` and so on, counted afresh
in every compilation.  Once nothing can pass, no scope is registered any more.
-/

namespace ForumQuery

/-- A filter in the making. -/
structure Builder where
  filter : Filter
  scopes : Registry := ∅
  nextLabel : Nat := 0

namespace Builder

/-- The label of a number. -/
def label (n : Nat) : String := "tags_" ++ toString n

/-- The builder that starts from a filter. -/
def onto (base : Filter) : Builder := { filter := base }

/-- Whether nothing can pass any more. -/
def isNothing (builder : Builder) : Bool := builder.filter.isNothing

/-- Adds a condition. -/
def and (builder : Builder) (predicate : Predicate) : Builder :=
  { builder with filter := builder.filter.and predicate }

/-- Lets nothing pass. -/
def collapse (builder : Builder) : Builder := { builder with filter := .nothing }

/-- Registers a scope. -/
def register (builder : Builder) (scope : Scope) : Builder :=
  if builder.isNothing then builder
  else { builder with scopes := builder.scopes.register scope }

/-- Takes the next label. -/
def takeLabel (builder : Builder) : String × Builder :=
  (label builder.nextLabel, { builder with nextLabel := builder.nextLabel + 1 })

/-- A join for each group of tags, the labels counted from a number on. -/
def joinsFrom (first : Nat) : List (RankedSet TagId) → List TagJoin
  | [] => []
  | tags :: rest => ⟨label first, tags⟩ :: joinsFrom (first + 1) rest

/-- Takes a label for each group of tags. -/
def takeJoins (builder : Builder) (groups : List (RankedSet TagId)) : List TagJoin × Builder :=
  (joinsFrom builder.nextLabel groups,
    { builder with nextLabel := builder.nextLabel + groups.length })

/-- The filter, with the open scopes closed into conditions. -/
def close (builder : Builder) : Filter := builder.filter.andAll builder.scopes.predicates

@[simp] theorem length_joinsFrom (first : Nat) (groups : List (RankedSet TagId)) :
    (joinsFrom first groups).length = groups.length := by
  induction groups generalizing first with
  | nil => rfl
  | cons _ _ ih => simp [joinsFrom, ih]

theorem map_tags_joinsFrom (first : Nat) (groups : List (RankedSet TagId)) :
    (joinsFrom first groups).map TagJoin.tags = groups := by
  induction groups generalizing first with
  | nil => rfl
  | cons _ _ ih => simp [joinsFrom, ih]

theorem map_label_joinsFrom (first : Nat) (groups : List (RankedSet TagId)) :
    (joinsFrom first groups).map TagJoin.label =
      (List.range' first groups.length).map label := by
  induction groups generalizing first with
  | nil => rfl
  | cons _ _ ih => simp [joinsFrom, ih, List.range'_succ]

end Builder

end ForumQuery
