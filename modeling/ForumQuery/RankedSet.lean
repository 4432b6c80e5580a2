/-!
# Finite sets in ascending order

A `Ranked` type numbers its values below a bound, each with a number of its own.  A `RankedSet` is
a finite set of such values, kept as a list of ascending rank, so two sets with the same members
are equal (`RankedSet.ext`) and the list is the order in which the members are shown.

`mem_insert`, `mem_union` and `mem_ofList` say what the operations do to membership.  A set has at
most as many members as there are ranks (`size_le`), and `room` is what is left: adding a value that
is not in the set takes one from it (`room_insert`).
-/

namespace ForumQuery

/-- A type whose values are numbered, without repeats, below a bound. -/
class Ranked (α : Type) where
  rank : α → Nat
  bound : Nat
  rank_lt (a : α) : rank a < bound
  rank_injective {a b : α} : rank a = rank b → a = b

export Ranked (rank)

/-- A finite set, as the list of its members in ascending rank. -/
structure RankedSet (α : Type) [Ranked α] where
  toList : List α
  ascending : toList.Pairwise (rank · < rank ·)

namespace RankedSet

variable {α : Type} [Ranked α]

instance : Membership α (RankedSet α) := ⟨fun s a => a ∈ s.toList⟩

theorem mem_def {a : α} {s : RankedSet α} : a ∈ s ↔ a ∈ s.toList := Iff.rfl

theorem toList_injective {s t : RankedSet α} (h : s.toList = t.toList) : s = t := by
  cases s; cases t; cases h; rfl

instance [DecidableEq α] : DecidableEq (RankedSet α) := fun s t =>
  decidable_of_iff (s.toList = t.toList) ⟨toList_injective, fun h => h ▸ rfl⟩

instance [DecidableEq α] (a : α) (s : RankedSet α) : Decidable (a ∈ s) :=
  inferInstanceAs (Decidable (a ∈ s.toList))

/-! ### Ascending lists -/

/-- Puts a value at its place in an ascending list, unless it is there already. -/
def place (a : α) : List α → List α
  | [] => [a]
  | b :: bs =>
    if rank a < rank b then a :: b :: bs
    else if rank a = rank b then b :: bs
    else b :: place a bs

theorem mem_place {a x : α} {l : List α} : x ∈ place a l ↔ x = a ∨ x ∈ l := by
  induction l with
  | nil => simp [place]
  | cons b bs ih =>
    simp only [place]
    split
    · simp
    · split
      · next h =>
        rw [Ranked.rank_injective h]
        simp
      · simp only [List.mem_cons, ih]
        exact ⟨fun h => h.elim (.inr ∘ .inl) (·.imp_right .inr),
          fun h => h.elim (.inr ∘ .inl) (·.imp_right .inr)⟩

theorem pairwise_place (a : α) {l : List α} (h : l.Pairwise (rank · < rank ·)) :
    (place a l).Pairwise (rank · < rank ·) := by
  induction l with
  | nil => simp [place]
  | cons b bs ih =>
    obtain ⟨hb, hbs⟩ := List.pairwise_cons.1 h
    simp only [place]
    split
    · next hlt =>
      refine List.pairwise_cons.2 ⟨fun x hx => ?_, h⟩
      rcases List.mem_cons.1 hx with rfl | hx
      · exact hlt
      · exact Nat.lt_trans hlt (hb x hx)
    · split
      · exact h
      · refine List.pairwise_cons.2 ⟨fun x hx => ?_, ih hbs⟩
        rcases mem_place.1 hx with rfl | hx
        · omega
        · exact hb x hx

/-- An ascending list whose ranks all lie from `low` on is no longer than the ranks left. -/
theorem length_le_of_pairwise (low : Nat) {l : List α} (h : l.Pairwise (rank · < rank ·))
    (hlow : ∀ a ∈ l, low ≤ rank a) : l.length ≤ Ranked.bound α - low := by
  induction l generalizing low with
  | nil => simp
  | cons a l ih =>
    obtain ⟨ha, hl⟩ := List.pairwise_cons.1 h
    have := ih (rank a + 1) hl ha
    have := hlow a (by simp)
    have := Ranked.rank_lt a
    simp only [List.length_cons]
    omega

/-! ### Operations -/

/-- The set without members. -/
def empty : RankedSet α := ⟨[], .nil⟩

instance : EmptyCollection (RankedSet α) := ⟨empty⟩
instance : Inhabited (RankedSet α) := ⟨∅⟩

/-- The set with one more member. -/
def insert (s : RankedSet α) (a : α) : RankedSet α :=
  ⟨place a s.toList, pairwise_place a s.ascending⟩

/-- The set with the members of a list added. -/
def insertAll (s : RankedSet α) (l : List α) : RankedSet α := l.foldl insert s

/-- The set of the members of a list. -/
def ofList (l : List α) : RankedSet α := insertAll ∅ l

/-- The set of the members of either. -/
def union (s t : RankedSet α) : RankedSet α := s.insertAll t.toList

instance : Union (RankedSet α) := ⟨union⟩

/-- Whether a set has no members. -/
def isEmpty (s : RankedSet α) : Bool := s.toList.isEmpty

/-- The number of members. -/
def size (s : RankedSet α) : Nat := s.toList.length

@[simp] theorem not_mem_empty (a : α) : a ∉ (∅ : RankedSet α) := List.not_mem_nil

@[simp] theorem mem_insert {s : RankedSet α} {a x : α} : x ∈ s.insert a ↔ x = a ∨ x ∈ s :=
  mem_place

@[simp] theorem mem_insertAll {s : RankedSet α} {l : List α} {x : α} :
    x ∈ s.insertAll l ↔ x ∈ s ∨ x ∈ l := by
  induction l generalizing s with
  | nil => simp [insertAll]
  | cons a l ih =>
    simp only [insertAll, List.foldl_cons] at ih ⊢
    rw [ih, mem_insert, List.mem_cons, or_comm (a := x = a), or_assoc]

@[simp] theorem mem_ofList {l : List α} {x : α} : x ∈ ofList l ↔ x ∈ l := by
  simp [ofList]

@[simp] theorem mem_union {s t : RankedSet α} {x : α} : x ∈ s ∪ t ↔ x ∈ s ∨ x ∈ t :=
  mem_insertAll

/-- Two sets with the same members are equal. -/
theorem ext {s t : RankedSet α} (h : ∀ a, a ∈ s ↔ a ∈ t) : s = t := by
  suffices ∀ l m : List α, l.Pairwise (rank · < rank ·) → m.Pairwise (rank · < rank ·) →
      (∀ a, a ∈ l ↔ a ∈ m) → l = m from
    toList_injective (this _ _ s.ascending t.ascending h)
  intro l
  induction l with
  | nil =>
    intro m _ _ hm
    exact (List.eq_nil_iff_forall_not_mem.2 fun a ha => by simpa using (hm a).2 ha).symm
  | cons a l ih =>
    intro m hl hm hlm
    obtain ⟨hal, hl⟩ := List.pairwise_cons.1 hl
    cases m with
    | nil => simpa using (hlm a).1 (by simp)
    | cons b m =>
      obtain ⟨hbm, hm'⟩ := List.pairwise_cons.1 hm
      have hab : a = b := by
        rcases List.mem_cons.1 ((hlm a).1 (by simp)) with h | h
        · exact h
        · rcases List.mem_cons.1 ((hlm b).2 (by simp)) with h' | h'
          · exact h'.symm
          · have := hbm a h
            have := hal b h'
            omega
      subst hab
      refine congrArg (a :: ·) (ih m hl hm' fun x => ⟨fun hx => ?_, fun hx => ?_⟩)
      · rcases List.mem_cons.1 ((hlm x).1 (List.mem_cons_of_mem _ hx)) with rfl | h
        · exact absurd (hal _ hx) (Nat.lt_irrefl _)
        · exact h
      · rcases List.mem_cons.1 ((hlm x).2 (List.mem_cons_of_mem _ hx)) with rfl | h
        · exact absurd (hbm _ hx) (Nat.lt_irrefl _)
        · exact h

theorem union_assoc (s t u : RankedSet α) : s ∪ t ∪ u = s ∪ (t ∪ u) :=
  ext fun a => by rw [mem_union, mem_union, mem_union, mem_union, or_assoc]

theorem mem_foldl_union {sets : List (RankedSet α)} {s : RankedSet α} {x : α} :
    x ∈ sets.foldl (· ∪ ·) s ↔ x ∈ s ∨ ∃ t ∈ sets, x ∈ t := by
  induction sets generalizing s with
  | nil => simp
  | cons t rest ih => simp [ih, or_assoc]

theorem nodup_toList (s : RankedSet α) : s.toList.Nodup :=
  s.ascending.imp fun {_ _} hlt he => Nat.ne_of_lt hlt (congrArg rank he)

theorem isEmpty_iff {s : RankedSet α} : s.isEmpty = true ↔ ∀ a, a ∉ s := by
  rw [isEmpty, List.isEmpty_iff, List.eq_nil_iff_forall_not_mem]
  rfl

theorem size_pos_iff {s : RankedSet α} : 0 < s.size ↔ s.isEmpty = false := by
  rw [size, isEmpty]
  cases s.toList <;> simp

/-! ### Room -/

/-- How many values of the type are not in the set, at most. -/
def room (s : RankedSet α) : Nat := Ranked.bound α - s.size

theorem size_le (s : RankedSet α) : s.size ≤ Ranked.bound α :=
  length_le_of_pairwise 0 s.ascending fun _ _ => Nat.zero_le _

theorem length_place {a : α} {l : List α} (h : a ∉ l) : (place a l).length = l.length + 1 := by
  induction l with
  | nil => rfl
  | cons b bs ih =>
    rw [List.mem_cons, not_or] at h
    obtain ⟨hab, hbs⟩ := h
    simp only [place]
    split
    · rfl
    · split
      · next hr => exact absurd (Ranked.rank_injective hr) hab
      · simp [ih hbs]

theorem room_insert {s : RankedSet α} {a : α} (h : a ∉ s) : (s.insert a).room + 1 = s.room := by
  have hle := size_le (s.insert a)
  have hlen : (s.insert a).size = s.size + 1 := length_place h
  rw [room, room, hlen]
  omega

end RankedSet

end ForumQuery
