import ForumQuery.RankedSet

/-!
# Record identifiers

Tags, categories and actors are known by the 64-bit integer keys of the store.  The kind of record
is part of the type of an identifier, so one kind cannot be taken for another.
-/

namespace ForumQuery

/-- The records that have identifiers. -/
inductive RecordKind where
  | tag
  | category
  | actor
  deriving DecidableEq, Repr

/-- The key of a record of the given kind. -/
structure RecordId (kind : RecordKind) where
  value : Int64
  deriving DecidableEq, Repr

/-- The key of a tag. -/
abbrev TagId := RecordId .tag

/-- The key of a category. -/
abbrev CategoryId := RecordId .category

/-- The key of an actor, who is a signed-in member of the forum. -/
abbrev ActorId := RecordId .actor

namespace RecordId

variable {kind : RecordKind}

/-- The first integer that is too large for 64 bits. -/
def limit : Int := 9223372036854775808

/-- The identifier of an integer, where it fits into 64 bits. -/
def ofInt? (n : Int) : Option (RecordId kind) :=
  if -limit ≤ n ∧ n < limit then some ⟨Int64.ofInt n⟩ else none

/-- The integer of an identifier. -/
def toInt (id : RecordId kind) : Int := id.value.toInt

/-- The digits of an identifier. -/
def text (id : RecordId kind) : String := toString id.toInt

theorem toInt_injective {a b : RecordId kind} (h : a.toInt = b.toInt) : a = b := by
  cases a; cases b; exact congrArg _ (Int64.toInt_inj.1 h)

theorem toInt_bounds (id : RecordId kind) : -limit ≤ id.toInt ∧ id.toInt < limit :=
  ⟨id.value.le_toInt, id.value.toInt_lt⟩

theorem ofInt?_toInt (id : RecordId kind) : ofInt? id.toInt = some id := by
  obtain ⟨h₁, h₂⟩ := toInt_bounds id
  rw [ofInt?, if_pos ⟨h₁, h₂⟩]
  exact congrArg some (toInt_injective (Int64.toInt_ofInt_of_le h₁ h₂))

theorem ofInt?_eq_some_iff {n : Int} {id : RecordId kind} : ofInt? n = some id ↔ id.toInt = n := by
  constructor
  · intro h
    rw [ofInt?] at h
    split at h
    · next hn =>
      cases h
      exact Int64.toInt_ofInt_of_le hn.1 hn.2
    · simp at h
  · rintro rfl
    exact ofInt?_toInt id

/-- Identifiers are numbered from the least integer up. -/
instance : Ranked (RecordId kind) where
  rank id := (id.toInt + limit).toNat
  bound := 18446744073709551616
  rank_lt id := by
    obtain ⟨h₁, h₂⟩ := toInt_bounds id
    unfold limit at *
    omega
  rank_injective {a b} h := by
    obtain ⟨ha, _⟩ := toInt_bounds a
    obtain ⟨hb, _⟩ := toInt_bounds b
    refine toInt_injective ?_
    unfold limit at *
    omega

end RecordId

end ForumQuery
