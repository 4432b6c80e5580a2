import ForumQuery.Consult

/-!
# Guardians

The guardian knows who is asking and what they may see.
-/

namespace ForumQuery

/-- Who is asking, and what they may see. -/
structure Guardian where
  /-- the member who is asking, unless it is a visitor -/
  actor : Option ActorId
  seesCategory : CategoryId → Bool
  /-- whether deleted topics are visible, in a category or everywhere -/
  seesDeleted : Option CategoryId → Bool

namespace Guardian

/-- Asks who is asking. -/
def askActor (guardian : Guardian) : Consult (Option ActorId) := .ask .actor guardian.actor

/-- Asks whether a category may be seen. -/
def askCategory (guardian : Guardian) (category : CategoryId) : Consult Bool :=
  .ask (.seesCategory category) (guardian.seesCategory category)

/-- Asks whether deleted topics may be seen. -/
def askDeleted (guardian : Guardian) (category : Option CategoryId) : Consult Bool :=
  .ask (.seesDeleted category) (guardian.seesDeleted category)

/-- The categories of a list that may be seen, asking for each of them in turn. -/
def visible (guardian : Guardian) : List CategoryId → Consult (List CategoryId)
  | [] => pure []
  | category :: rest => do
    let seen ← guardian.askCategory category
    let others ← visible guardian rest
    pure (if seen then category :: others else others)

@[simp] theorem value_visible (guardian : Guardian) (categories : List CategoryId) :
    (guardian.visible categories).value = categories.filter guardian.seesCategory := by
  induction categories with
  | nil => rfl
  | cons category rest ih =>
    simp only [visible, Consult.value_bind, Consult.value_pure, ih, List.filter_cons]
    rfl

@[simp] theorem calls_visible (guardian : Guardian) (categories : List CategoryId) :
    (guardian.visible categories).calls = categories.map .seesCategory := by
  induction categories with
  | nil => rfl
  | cons category rest ih =>
    simp only [visible, Consult.calls_bind, Consult.calls_pure, ih, List.append_nil,
      List.map_cons]
    rfl

end Guardian

end ForumQuery
