import ForumQuery.Proofs.Invariants
import ForumQuery.Proofs.Yield

/-!
# Labels — what the joins of a compiled chain are called

The joins of a compiled chain carry the labels `tags_0`, `tags_1` and so on in the order in which
they stand (`labels_predicates`), so no label stands twice (`nodup_map_label`) and none is the name
of a table (`label_ne`).  `Predicate.bare` is a condition without its labels.

That a label is one of these does not depend on what the site answers: the labels of a compiled
query are `tags_` with digits after it (`numbered_of_mem_labels_compileAcross`).
-/

namespace ForumQuery

open Query Contribution

/-! ### Labels -/

/-- A label that is `tags_` with digits after it. -/
def Numbered (label : String) : Prop :=
  ∃ digits : List Char, digits ≠ [] ∧ (∀ c ∈ digits, c.isDigit = true) ∧
    label.toList = "tags_".toList ++ digits

namespace Builder

theorem toList_label (n : Nat) :
    (label n).toList = 't' :: 'a' :: 'g' :: 's' :: '_' :: Nat.toDigits 10 n := by
  rw [label, String.toList_append, Nat.toString_eq_repr, Nat.toList_repr]
  rfl

theorem numbered_label (n : Nat) : Numbered (label n) :=
  ⟨Nat.toDigits 10 n, Nat.toDigits_ne_nil,
    fun _ hc => Nat.isDigit_of_mem_toDigits (by decide) (by decide) hc, toList_label n⟩

/-- Two numbers have two labels. -/
theorem label_injective : Function.Injective label := by
  intro m n h
  have hd : Nat.toDigits 10 m = Nat.toDigits 10 n := by
    simpa [toList_label] using congrArg String.toList h
  rw [← Nat.ofDigitChars_ten_toDigits (n := m), hd, Nat.ofDigitChars_ten_toDigits]

/-- A label begins in `ta`. -/
theorem label_ne {name : String} (h : name.toList.take 2 ≠ ['t', 'a']) (n : Nat) :
    label n ≠ name := by
  rintro rfl
  exact h (by rw [toList_label]; rfl)

theorem nodup_map_label (first count : Nat) : ((List.range' first count).map label).Nodup :=
  List.Nodup.map label_injective List.nodup_range'

end Builder

/-- The labels of the joins that some conditions make, in their order. -/
def labels (predicates : List Predicate) : List String :=
  (predicates.flatMap Predicate.joins).map TagJoin.label

@[simp] theorem labels_append (first second : List Predicate) :
    labels (first ++ second) = labels first ++ labels second := by
  simp [labels]

/-- A join without its label. -/
def TagJoin.bare (join : TagJoin) : TagJoin := { join with label := "" }

/-- A condition without the labels of its joins. -/
def Predicate.bare : Predicate → Predicate
  | taggedWithAll joins => taggedWithAll (joins.map TagJoin.bare)
  | taggedWithAny join => taggedWithAny join.bare
  | missingSomeTag joins => missingSomeTag (joins.map TagJoin.bare)
  | status wanted => status wanted
  | activelyPinned now => activelyPinned now
  | bookmarkedBy actor => bookmarkedBy actor
  | levelIn actor levels => levelIn actor levels
  | categoryIn categories => categoryIn categories
  | taggedWithNone tags => taggedWithNone tags

/-! ### The labels of contributions -/

namespace Contribution

/-- The number of labels that some contributions take. -/
def labelTotal : List Contribution → Nat
  | [] => 0
  | contribution :: rest => contribution.labelCount + labelTotal rest

/-- A contribution states the same condition wherever its labels start. -/
theorem bare_condition? (contribution : Contribution) (first second : Nat) :
    (contribution.condition? first).map Predicate.bare =
      (contribution.condition? second).map Predicate.bare := by
  have hjoins : ∀ groups : List (RankedSet TagId),
      (Builder.joinsFrom first groups).map TagJoin.bare =
        (Builder.joinsFrom second groups).map TagJoin.bare := by
    intro groups
    induction groups generalizing first second with
    | nil => rfl
    | cons _ _ ih => exact congrArg (_ :: ·) (ih _ _)
  cases contribution with
  | everyGroup groups | notEveryGroup groups => simp [condition?, Predicate.bare, hjoins]
  | inert | collapse | condition _ | someTag _ | scope _ => rfl

variable {context : Context} {contributions : List Contribution}

/-- The labels of conditions that are added at once are counted without a gap. -/
theorem labels_conditionsFrom (h : ∀ contribution ∈ contributions, contribution.Allowed context)
    (first : Nat) : labels (conditionsFrom first contributions) =
      (List.range' first (labelTotal contributions)).map Builder.label := by
  induction contributions generalizing first with
  | nil => rfl
  | cons contribution rest ih =>
      rw [List.forall_mem_cons] at h
      rw [conditionsFrom, labels_append, ih h.2, labels, h.1.map_label_joins, ← List.map_append,
        labelTotal, List.range'_append_1]

theorem labels_scopes (scopes : List Scope) : labels (scopes.map Scope.predicate) = [] := by
  induction scopes with
  | nil => rfl
  | cons scope rest ih =>
      rw [List.map_cons, ← List.singleton_append, labels_append, ih]
      cases scope <;> rfl

theorem labels_predicates (h : ∀ contribution ∈ contributions, contribution.Allowed context) :
    labels (predicates contributions) =
      (List.range (labelTotal contributions)).map Builder.label := by
  rw [predicates, labels_append, labels_conditionsFrom h, Registry.predicates, labels_scopes,
    List.append_nil, List.range_eq_range']

end Contribution

theorem Context.allowed_yields (context : Context) (query : String) :
    ∀ contribution ∈ context.yields query, contribution.Allowed context := by
  intro contribution h
  obtain ⟨token, -, rfl⟩ := List.mem_map.1 h
  exact context.allowed_yield token

/-! ### Labels that are counted -/

/-- A condition whose joins carry numbered labels. -/
def Predicate.Counted (predicate : Predicate) : Prop :=
  ∀ join ∈ predicate.joins, Numbered join.label

/-- What a scope ends as makes no join. -/
theorem Scope.counted_predicate (scope : Scope) : scope.predicate.Counted := by
  cases scope <;> exact fun _ hj => absurd hj List.not_mem_nil

theorem Contribution.Allowed.gives_counted {context : Context} {contribution : Contribution}
    (h : contribution.Allowed context) : contribution.Gives Predicate.Counted := by
  refine ⟨fun {first _} hp join hj => ?_, fun {scope} _ => scope.counted_predicate⟩
  have hlabel : join.label ∈ (List.range' first contribution.labelCount).map Builder.label := by
    rw [← h.map_label_joins]
    exact List.mem_map_of_mem (List.mem_flatMap.2 ⟨_, Option.mem_toList.2 hp, hj⟩)
  obtain ⟨n, -, hn⟩ := List.mem_map.1 hlabel
  exact hn ▸ Builder.numbered_label n

/-- **The labels of a query are numbered**, whatever the site answers. -/
theorem numbered_of_mem_labels_compileAcross (contexts : Token → Context) (query : String) :
    ∀ label ∈ labels (compileAcross contexts query).predicates, Numbered label := by
  have hmerge : Scope.KeptByMerge Predicate.Counted := fun _ _ merged _ _ _ =>
    merged.counted_predicate
  have hcounted := forall_mem_compileAcross hmerge fun token (_ : token ∈ Token.scan query) =>
    ((contexts token).allowed_yield token).gives_counted
  intro label hlabel
  obtain ⟨join, hjoin, rfl⟩ := List.mem_map.1 hlabel
  obtain ⟨predicate, hp, hjoin⟩ := List.mem_flatMap.1 hjoin
  exact hcounted predicate hp join hjoin

end ForumQuery
