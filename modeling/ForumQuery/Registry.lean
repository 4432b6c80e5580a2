import ForumQuery.Scope

/-!
# Registries

A registry holds one scope of each kind at most, in the order in which the kinds were first
registered, and knows where the scope of each kind stands.  To register a scope is to merge it into
the one that stands where its kind does, or to put it at the end if its kind stands nowhere.

On a `Shelf` a kind may be said to stand where it does not, and a registration fails where nothing
stands.  On a `Sound` shelf no registration fails, and the shelf that it leaves is sound again
(`Shelf.Sound.exists_register?`).  A registry is a sound shelf.
-/

namespace ForumQuery

/-- Scopes in a row, and where the scope of each kind is said to stand. -/
structure Shelf where
  scopes : List Scope := []
  positions : ScopeKind → Option Nat := fun _ => none

namespace Shelf

/-- Puts a scope in the place of the one at a position. -/
def put (shelf : Shelf) (position : Nat) (scope : Scope) : Shelf :=
  { shelf with scopes := shelf.scopes.set position scope }

/-- Puts a scope at the end. -/
def push (shelf : Shelf) (scope : Scope) : Shelf where
  scopes := shelf.scopes ++ [scope]
  positions kind := if kind = scope.kind then some shelf.scopes.length else shelf.positions kind

/-- Merges a scope with the one that stands where its kind is said to, or puts it at the end if its
kind is not said to stand anywhere. -/
def register? (shelf : Shelf) (scope : Scope) : Option Shelf :=
  match shelf.positions scope.kind with
  | some position =>
      shelf.scopes[position]?.map fun older => shelf.put position (older.merge scope)
  | none => some (shelf.push scope)

/-- A kind is said to stand where a scope of it stands, and nowhere else. -/
def Sound (shelf : Shelf) : Prop :=
  ∀ kind position, shelf.positions kind = some position ↔
    (shelf.scopes.map Scope.kind)[position]? = some kind

theorem sound_empty : Sound {} := fun _ _ => by simp

variable {shelf : Shelf} {scope : Scope}

namespace Sound

/-- Where a kind is said to stand, a scope of it does. -/
theorem exists_scope (h : shelf.Sound) {kind : ScopeKind} {position : Nat}
    (hp : shelf.positions kind = some position) :
    ∃ older, shelf.scopes[position]? = some older ∧ older.kind = kind := by
  have hkind := (h kind position).1 hp
  rw [List.getElem?_map] at hkind
  exact Option.map_eq_some_iff.1 hkind

/-- A scope of a new kind leaves a sound shelf sound. -/
theorem push (h : shelf.Sound) (hp : shelf.positions scope.kind = none) :
    (shelf.push scope).Sound := by
  have hnew : ∀ position : Nat, (shelf.scopes.map Scope.kind)[position]? ≠ some scope.kind :=
    fun position hk => by simp [(h scope.kind position).2 hk] at hp
  intro kind position
  have hsaid : (shelf.push scope).positions kind =
      if kind = scope.kind then some shelf.scopes.length else shelf.positions kind := rfl
  have hstands : ((shelf.push scope).scopes.map Scope.kind)[position]? = some kind ↔
      (shelf.scopes.map Scope.kind)[position]? = some kind ∨
        position = shelf.scopes.length ∧ scope.kind = kind := by
    simp only [Shelf.push, List.map_append, List.map_singleton]
    grind
  rw [hsaid, hstands]
  split
  · next hk =>
    subst hk
    rw [or_iff_right (hnew position), and_iff_left rfl, Option.some.injEq, eq_comm]
  · next hk => rw [h kind position, or_iff_left fun he => hk he.2.symm]

/-- A scope in the place of one of its kind leaves a sound shelf sound. -/
theorem put (h : shelf.Sound) {position : Nat}
    (hp : shelf.positions scope.kind = some position) : (shelf.put position scope).Sound := by
  -- the kinds are those that stood there before
  have hkinds : (shelf.put position scope).scopes.map Scope.kind =
      shelf.scopes.map Scope.kind := by
    obtain ⟨hlt, hk⟩ := List.getElem?_eq_some_iff.1 ((h scope.kind position).1 hp)
    rw [Shelf.put, List.map_set, ← hk, List.set_getElem_self]
  intro kind position
  rw [hkinds]
  exact h kind position

/-- **A registration on a sound shelf succeeds**, and leaves a sound shelf. -/
theorem exists_register? (h : shelf.Sound) (scope : Scope) :
    ∃ next, shelf.register? scope = some next ∧ next.Sound := by
  rw [register?]
  cases hp : shelf.positions scope.kind with
  | some position =>
      obtain ⟨older, holder, -⟩ := h.exists_scope hp
      -- what is merged is of the kind that is said to stand there
      rw [← older.kind_merge scope] at hp
      exact ⟨_, congrArg (Option.map _) holder, h.put hp⟩
  | none => exact ⟨_, rfl, h.push hp⟩

theorem isSome_register? (h : shelf.Sound) (scope : Scope) :
    (shelf.register? scope).isSome := by
  obtain ⟨next, hnext, -⟩ := h.exists_register? scope
  exact Option.isSome_of_eq_some hnext

theorem of_register? (h : shelf.Sound) {next : Shelf} (hnext : shelf.register? scope = some next) :
    next.Sound := by
  obtain ⟨other, hother, hsound⟩ := h.exists_register? scope
  exact Option.some.inj (hother.symm.trans hnext) ▸ hsound

end Sound

end Shelf

/-- A sound shelf: one scope of each kind at most. -/
structure Registry extends Shelf where
  sound : toShelf.Sound

namespace Registry

/-- The registry without a scope. -/
def empty : Registry := ⟨{}, Shelf.sound_empty⟩

instance : EmptyCollection Registry := ⟨empty⟩
instance : Inhabited Registry := ⟨∅⟩

/-- A registry with one more scope, merged with the one of its kind if there is one. -/
def register (registry : Registry) (scope : Scope) : Registry where
  toShelf := (registry.register? scope).get (registry.sound.isSome_register? scope)
  sound := registry.sound.of_register? (Option.some_get _).symm

/-- The scope of a kind. -/
def get? (registry : Registry) (kind : ScopeKind) : Option Scope := do
  let position ← registry.positions kind
  registry.scopes[position]?

/-- The number of scopes. -/
def size (registry : Registry) : Nat := registry.scopes.length

/-- Whether there is no scope. -/
def isEmpty (registry : Registry) : Bool := registry.scopes.isEmpty

/-- The conditions that the scopes end as, in their order. -/
def predicates (registry : Registry) : List Predicate := registry.scopes.map Scope.predicate

/-- A registration is one on the shelf. -/
theorem register?_eq (registry : Registry) (scope : Scope) :
    registry.register? scope = some (registry.register scope).toShelf :=
  (Option.some_get _).symm

end Registry

end ForumQuery
