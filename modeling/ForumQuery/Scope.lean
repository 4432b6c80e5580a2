import ForumQuery.Filter

/-!
# Scopes

Some clauses may be repeated and still make one condition: `in:watching in:tracking` asks for either
level, not for both.  Such a clause registers a scope instead of a condition.  A scope that meets
one of its own kind merges with it: the sets are united, and the actor is the newer one.  When the
query ends every scope becomes one condition.
-/

namespace ForumQuery

/-- The kinds of scope. -/
inductive ScopeKind where
  | levels
  | categories
  deriving DecidableEq, Repr

/-- A condition that is still open to more of its kind. -/
inductive Scope where
  | levels (actor : ActorId) (levels : RankedSet Level)
  | categories (categories : RankedSet CategoryId)
  deriving DecidableEq

namespace Scope

/-- The kind of a scope. -/
def kind : Scope → ScopeKind
  | levels .. => .levels
  | categories .. => .categories

/-- An older and a newer scope of one kind, merged. -/
def merge? : Scope → Scope → Option Scope
  | levels _ older, levels actor newer => some (levels actor (older ∪ newer))
  | categories older, categories newer => some (categories (older ∪ newer))
  | _, _ => none

/-- An older and a newer scope, merged.  Of two kinds, the newer takes the place of the older. -/
def merge (older newer : Scope) : Scope := (older.merge? newer).getD newer

/-- The condition that a scope ends as. -/
def predicate : Scope → Predicate
  | levels actor set => .levelIn actor set
  | categories set => .categoryIn set

theorem kind_of_merge? {older newer merged : Scope} (h : older.merge? newer = some merged) :
    older.kind = newer.kind ∧ merged.kind = newer.kind := by
  cases older <;> cases newer <;> simp [merge?] at h <;> subst h <;> exact ⟨rfl, rfl⟩

theorem kind_ne_of_merge? {older newer : Scope} (h : older.merge? newer = none) :
    newer.kind ≠ older.kind := by
  cases older <;> cases newer <;> simp [merge?, kind] at h ⊢

/-- Scopes of one kind merge. -/
theorem merge?_of_kind_eq {older newer : Scope} (h : older.kind = newer.kind) :
    older.merge? newer = some (older.merge newer) := by
  rw [merge]
  cases hm : older.merge? newer with
  | some merged => rfl
  | none => exact absurd h.symm (kind_ne_of_merge? hm)

/-- What is merged is of the newer kind. -/
@[simp] theorem kind_merge (older newer : Scope) : (older.merge newer).kind = newer.kind := by
  rw [merge]
  cases hm : older.merge? newer with
  | some merged => exact (kind_of_merge? hm).2
  | none => rfl

end Scope

end ForumQuery
