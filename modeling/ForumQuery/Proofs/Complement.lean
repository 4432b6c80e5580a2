import ForumQuery.Directory
import ForumQuery.Directory.Permissions
import ForumQuery.Proofs.Alone

/-!
# Complement — a clause for tags and the clause that excludes them

A clause for tags and the clause that excludes the same tags find the same groups, and what they add
is *opposite* (`Contribution.Opposite`): the conditions are of different forms, over joins or over
the tags themselves, but one holds of a topic just where the other does not.  Where one clause lets
nothing pass or says nothing, so does the other.  So a topic meets exactly one of the two, whenever
they ask for anything at all (`compile_tags_opposite`).
-/

namespace ForumQuery

open Query Contribution Text

namespace Contribution

/-- Two contributions of which the second excludes what the first asks for. -/
inductive Opposite : Contribution → Contribution → Prop where
  /-- neither says anything -/
  | inert : Opposite inert inert
  /-- nothing passes either -/
  | collapse : Opposite collapse collapse
  /-- a tag of every group, or no tag of some group -/
  | groups (groups : List (RankedSet TagId)) : Opposite (everyGroup groups) (notEveryGroup groups)
  /-- some of the tags, or none of them -/
  | tags (tags : RankedSet TagId) : Opposite (someTag tags) (condition (.taggedWithNone tags))

/-- **Groups of tags add what is opposite** to what they add if they are excluded. -/
theorem opposite_ofGroups (groups : List (RankedSet TagId)) (mode : MatchMode) :
    Opposite (ofGroups groups mode false) (ofGroups groups mode true) := by
  cases mode with
  | all =>
      rw [ofGroups, ofGroups]
      split
      · exact .collapse
      · exact .groups groups
  | any =>
      dsimp only [ofGroups]
      split
      · exact .inert
      · exact .tags _

/-- The conditions of opposite contributions: one holds just where the other does not. -/
theorem Opposite.filter {first second : Contribution} (h : Opposite first second) :
    (first.filter = .nothing ∧ second.filter = .nothing) ∨
      (first.filter = .everything ∧ second.filter = .everything) ∨
      ∃ p q, first.filter = .chain [p] ∧ second.filter = .chain [q] ∧
        ∀ topic : Topic, p.Holds topic ↔ ¬ q.Holds topic := by
  cases h with
  | collapse => exact .inl ⟨rfl, rfl⟩
  | inert => exact .inr (.inl ⟨rfl, rfl⟩)
  | groups groups =>
      refine .inr (.inr ⟨_, _, rfl, rfl, fun topic => ?_⟩)
      simp only [Predicate.Holds, not_exists, not_and, not_not]
  | tags tags => exact .inr (.inr ⟨_, _, rfl, rfl, fun _ => not_not.symm⟩)

end Contribution

/-- What a clause for tags adds is opposite to what the clause adds that excludes them. -/
theorem Context.opposite_yield (context : Context) (value : String) :
    Opposite (context.yield ⟨none, "tags", value, 0⟩)
      (context.yield ⟨some .exclude, "tags", value, 0⟩) := by
  cases hlist : ValueList.parse? [.comma, .plus] Clause.isTagChar value with
  | none =>
      simp only [yield, contribution, Clause.ofToken?, Clause.ofTags?, hlist]
      exact .inert
  | some list =>
      have hnone : (none : Option Flag) ≠ some .strict := by decide
      have hsome : some Flag.exclude ≠ some .strict := by decide
      have hinclude := @Clause.ofToken?_tags ⟨none, "tags", value, 0⟩ list rfl hnone hlist
      have hexclude := @Clause.ofToken?_tags ⟨some .exclude, "tags", value, 0⟩ list rfl hsome hlist
      rw [yield_of_ofToken? _ hinclude, yield_of_ofToken? _ hexclude,
        Clause.value_contribution_tags, Clause.value_contribution_tags]
      split
      · exact opposite_ofGroups _ _
      · exact .inert

/-- **A clause for tags and the clause that excludes them.**  Nothing passes one if and only if
nothing passes the other, and everything passes one if and only if everything passes the other.
Otherwise each is one condition, and every topic meets exactly one of the two. -/
theorem compile_tags_opposite (context : Context) {value : String} (hvalue : Solid value) :
    let included := (context.compile (clauseText none "tags" value)).value
    let excluded := (context.compile (clauseText (some .exclude) "tags" value)).value
    (included = .nothing ↔ excluded = .nothing) ∧
      (included = .everything ↔ excluded = .everything) ∧
      (included ≠ .nothing → included ≠ .everything →
        ∃ p q, included = .chain [p] ∧ excluded = .chain [q] ∧
          ∀ topic : Topic, p.Holds topic ↔ ¬ q.Holds topic) := by
  have hkey : Solid "tags" := by decide
  have hword : "tags".toList.all isWordChar = true := by decide +kernel
  rw [Context.value_compile_clauseText hkey hword hvalue,
    Context.value_compile_clauseText hkey hword hvalue]
  rcases (context.opposite_yield value).filter with
    ⟨hfirst, hsecond⟩ | ⟨hfirst, hsecond⟩ | ⟨p, q, hfirst, hsecond, hholds⟩
  · simp [hfirst, hsecond]
  · simp [hfirst, hsecond]
  · rw [hfirst, hsecond]
    refine ⟨iff_of_false nofun nofun, iff_of_false nofun nofun, fun _ _ => ?_⟩
    exact ⟨p, q, rfl, rfl, hholds⟩

/-- Two tags that are aliases of the same one. -/
theorem compile_tags_opposite_aliases :
    let directory := ((∅ : Directory).addTag "a" ⟨1⟩ (some ⟨9⟩) none).addTag "b" ⟨2⟩ (some ⟨9⟩) none
    let context : Context := ⟨({} : Permissions).guardian, directory.resolver, true,
      ⟨0, 0, by decide, by decide⟩⟩
    let included := (context.compile (clauseText none "tags" "a+b")).value
    let excluded := (context.compile (clauseText (some .exclude) "tags" "a+b")).value
    Solid "a+b" ∧ included ≠ .nothing ∧ included ≠ .everything ∧
      ∃ p q, included = .chain [p] ∧ excluded = .chain [q] ∧
        ∀ topic : Topic, p.Holds topic ↔ ¬ q.Holds topic := by
  intro directory context included excluded
  have hvalue : Solid "a+b" := by decide +kernel
  have hnothing : included ≠ .nothing := by decide +kernel
  have heverything : included ≠ .everything := by decide +kernel
  obtain ⟨-, -, hopposite⟩ := compile_tags_opposite context hvalue
  exact ⟨hvalue, hnothing, heverything, hopposite hnothing heverything⟩

end ForumQuery
