import ForumQuery.Proofs.Labels

/-!
# Exchange — other contributions in the place of some

Some contributions can be *exchanged* for others if both collapse or neither does, and then take as
many labels and leave every registry the same (`Contribution.Exchangeable`).  Queries that differ in
such contributions alone both let nothing pass, or they end as chains that differ in the conditions
of these contributions alone, the labels of both starting at the same number
(`Context.value_compile_exchange`).

They are *equivalent* if the conditions are the same too, and then the queries compile to the same
(`Context.value_compile_eq_of_equivalent`).  So are any two that collapse; and two that hold nothing
but scopes and inert contributions if they leave every registry the same (`equivalent_of_quiet`).
To register two scopes that merge is to register what they merge into
(`Registry.register_register`), so some scopes of one kind are equivalent to the scope of all their
members (`equivalent_scopes`).
-/

namespace ForumQuery

open Query Contribution

/-! ### Contributions in the place of others -/

theorem Registry.registerAll_append (registry : Registry) (before after : List Scope) :
    registry.registerAll (before ++ after) = (registry.registerAll before).registerAll after :=
  List.foldl_append

namespace Contribution

theorem conditionsFrom_append (first : Nat) (before after : List Contribution) :
    conditionsFrom first (before ++ after) =
      conditionsFrom first before ++ conditionsFrom (first + labelTotal before) after := by
  induction before generalizing first with
  | nil => rfl
  | cons contribution rest ih =>
      rw [List.cons_append, conditionsFrom, conditionsFrom, ih, labelTotal, List.append_assoc,
        Nat.add_assoc]

theorem labelTotal_append (before after : List Contribution) :
    labelTotal (before ++ after) = labelTotal before + labelTotal after := by
  induction before with
  | nil => exact (Nat.zero_add _).symm
  | cons contribution rest ih => rw [List.cons_append, labelTotal, labelTotal, ih, Nat.add_assoc]

/-- Contributions in whose place others can stand: both collapse or neither does, and then they take
as many labels and leave every registry the same. -/
structure Exchangeable (first second : List Contribution) : Prop where
  collapse_iff : .collapse ∈ first ↔ .collapse ∈ second
  labels : .collapse ∉ first → labelTotal first = labelTotal second
  scopes : .collapse ∉ first → ∀ registry : Registry,
    registry.registerAll (first.filterMap scope?) = registry.registerAll (second.filterMap scope?)

end Contribution

/-- **Queries that differ in contributions that can be exchanged** both let nothing pass, or their
chains differ in the conditions of these contributions alone. -/
theorem Context.value_compile_exchange {context : Context} {first second : List Contribution}
    (h : Exchangeable first second) {query other : String} {before after : List Contribution}
    (hquery : context.yields query = before ++ first ++ after)
    (hother : context.yields other = before ++ second ++ after) :
    (context.compile query).value = .nothing ∧ (context.compile other).value = .nothing ∨
      .collapse ∉ first ∧ ∃ left number right,
        (context.compile query).value =
          .chain (left ++ conditionsFrom number first ++ right) ∧
        (context.compile other).value =
          .chain (left ++ conditionsFrom number second ++ right) := by
  have hmem : .collapse ∈ context.yields query ↔ .collapse ∈ context.yields other := by
    simp only [hquery, hother, List.mem_append, h.collapse_iff]
  by_cases hc : .collapse ∈ context.yields query
  · exact .inl ⟨value_compile_eq_nothing_iff.2 hc, value_compile_eq_nothing_iff.2 (hmem.1 hc)⟩
  · have hfirst : .collapse ∉ first := by
      simp only [hquery, List.mem_append, not_or] at hc
      exact hc.1.2
    -- the labels behind go on from the same number, and the same scopes are open in the end
    have hscopes : Registry.registerAll ∅ ((before ++ second ++ after).filterMap scope?) =
        Registry.registerAll ∅ ((before ++ first ++ after).filterMap scope?) := by
      simp only [List.filterMap_append, Registry.registerAll_append, h.scopes hfirst]
    refine .inr ⟨hfirst, conditionsFrom 0 before, labelTotal before,
      conditionsFrom (labelTotal before + labelTotal first) after ++
        (Registry.registerAll ∅ ((before ++ first ++ after).filterMap scope?)).predicates, ?_, ?_⟩
    · rw [value_compile hc, predicates, hquery, conditionsFrom_append, conditionsFrom_append,
        labelTotal_append, Nat.zero_add, Nat.zero_add, List.append_assoc]
    · rw [value_compile (mt hmem.2 hc), predicates, hother, hscopes, conditionsFrom_append,
        conditionsFrom_append, labelTotal_append, ← h.labels hfirst, Nat.zero_add, Nat.zero_add,
        List.append_assoc]

namespace Contribution

/-- Contributions that add the same. -/
structure Equivalent (first second : List Contribution) : Prop
    extends Exchangeable first second where
  conditions : .collapse ∉ first → ∀ number,
    conditionsFrom number first = conditionsFrom number second

end Contribution

/-- **Queries that differ in contributions that add the same** compile to the same. -/
theorem Context.value_compile_eq_of_equivalent {context : Context}
    {first second : List Contribution} (h : Equivalent first second) {query other : String}
    {before after : List Contribution}
    (hquery : context.yields query = before ++ first ++ after)
    (hother : context.yields other = before ++ second ++ after) :
    (context.compile query).value = (context.compile other).value := by
  rcases value_compile_exchange h.toExchangeable hquery hother with
    ⟨hfirst, hsecond⟩ | ⟨hcollapse, left, number, right, hfirst, hsecond⟩
  · rw [hfirst, hsecond]
  · rw [hfirst, hsecond, h.conditions hcollapse]

namespace Contribution

/-- Contributions that collapse add the same. -/
theorem equivalent_of_collapse {first second : List Contribution} (hfirst : .collapse ∈ first)
    (hsecond : .collapse ∈ second) : Equivalent first second where
  collapse_iff := iff_of_true hfirst hsecond
  labels h := absurd hfirst h
  scopes h := absurd hfirst h
  conditions h := absurd hfirst h

/-- A contribution that adds nothing at once. -/
def Quiet (contribution : Contribution) : Prop :=
  contribution = .inert ∨ ∃ opened, contribution = .scope opened

theorem of_quiet {contributions : List Contribution}
    (h : ∀ contribution ∈ contributions, contribution.Quiet) :
    .collapse ∉ contributions ∧ labelTotal contributions = 0 ∧
      ∀ number, conditionsFrom number contributions = [] := by
  induction contributions with
  | nil => exact ⟨List.not_mem_nil, rfl, fun _ => rfl⟩
  | cons contribution rest ih =>
      rw [List.forall_mem_cons] at h
      obtain ⟨hcollapse, hlabels, hconditions⟩ := ih h.2
      rcases h.1 with rfl | ⟨opened, rfl⟩ <;>
        simp [hcollapse, labelTotal, labelCount, hlabels, conditionsFrom, condition?, hconditions]

/-- **Scopes add the same if they leave every registry the same**, whatever is inert among them. -/
theorem equivalent_of_quiet {first second : List Contribution}
    (hfirst : ∀ contribution ∈ first, contribution.Quiet)
    (hsecond : ∀ contribution ∈ second, contribution.Quiet)
    (hscopes : ∀ registry : Registry, registry.registerAll (first.filterMap scope?) =
      registry.registerAll (second.filterMap scope?)) : Equivalent first second := by
  obtain ⟨hcollapse, hlabels, hconditions⟩ := of_quiet hfirst
  obtain ⟨hcollapse', hlabels', hconditions'⟩ := of_quiet hsecond
  exact ⟨⟨iff_of_false hcollapse hcollapse', fun _ => hlabels.trans hlabels'.symm,
    fun _ => hscopes⟩, fun _ number => (hconditions number).trans (hconditions' number).symm⟩

/-- Inert contributions add the same, however many they are. -/
theorem equivalent_of_inert {first second : List Contribution}
    (hfirst : ∀ contribution ∈ first, contribution = .inert)
    (hsecond : ∀ contribution ∈ second, contribution = .inert) : Equivalent first second := by
  have hscopes : ∀ {contributions : List Contribution},
      (∀ contribution ∈ contributions, contribution = .inert) →
        contributions.filterMap scope? = [] := by
    intro contributions h
    refine List.filterMap_eq_nil_iff.2 fun contribution hc => ?_
    rw [h contribution hc]
    rfl
  refine equivalent_of_quiet (fun contribution hc => .inl (hfirst contribution hc))
    (fun contribution hc => .inl (hsecond contribution hc)) fun registry => ?_
  rw [hscopes hfirst, hscopes hsecond]

end Contribution

/-! ### Scopes of one kind -/

/-- A scope that merges with the first of two that merge does so with what they merge into. -/
theorem Scope.exists_merge? {first older newer earlier merged : Scope}
    (hearlier : first.merge? older = some earlier) (hmerged : older.merge? newer = some merged) :
    ∃ all, earlier.merge? newer = some all ∧ first.merge? merged = some all := by
  cases first <;> cases older <;> cases newer <;>
    simp only [merge?, Option.some.injEq, reduceCtorEq] at hearlier hmerged
  · subst hearlier hmerged
    exact ⟨_, congrArg some (congrArg (levels _) (RankedSet.union_assoc ..)), rfl⟩
  · subst hearlier hmerged
    exact ⟨_, congrArg some (congrArg categories (RankedSet.union_assoc ..)), rfl⟩

/-- A scope that does not merge with the first of two that merge does so with neither. -/
theorem Scope.merge?_eq_none {first older newer merged : Scope}
    (hnone : first.merge? older = none) (hmerged : older.merge? newer = some merged) :
    first.merge? newer = none ∧ first.merge? merged = none := by
  cases first <;> cases older <;> cases newer <;>
    simp only [merge?, Option.some.injEq, reduceCtorEq] at hnone hmerged <;>
    subst hmerged <;> exact ⟨rfl, rfl⟩

theorem mergeInto_mergeInto {older newer merged : Scope} (h : older.merge? newer = some merged)
    (scopes : List Scope) : mergeInto newer (mergeInto older scopes) = mergeInto merged scopes := by
  induction scopes with
  | nil => simp only [mergeInto, h]
  | cons first rest ih =>
      cases hfirst : first.merge? older with
      | some earlier =>
          obtain ⟨all, hearlier, hmerged⟩ := Scope.exists_merge? hfirst h
          simp only [mergeInto, hfirst, hearlier, hmerged]
      | none =>
          obtain ⟨hnewer, hmerged⟩ := Scope.merge?_eq_none hfirst h
          simp only [mergeInto, hfirst, hnewer, hmerged, ih]

/-- **To register two scopes that merge** is to register what they merge into. -/
theorem Registry.register_register {older newer merged : Scope}
    (h : older.merge? newer = some merged) (registry : Registry) :
    (registry.register older).register newer = registry.register merged := by
  refine eq_of_scopes_eq ?_
  rw [scopes_register, scopes_register, scopes_register, mergeInto_mergeInto h]

/-- To register scopes of one kind, one after the other, is to register the union of their sets. -/
theorem Registry.registerAll_map {α : Type} [Ranked α] {opened : RankedSet α → Scope}
    (hmerge : ∀ older newer, (opened older).merge? (opened newer) = some (opened (older ∪ newer)))
    (registry : Registry) (first : RankedSet α) (rest : List (RankedSet α)) :
    registry.registerAll ((first :: rest).map opened) =
      registry.register (opened (rest.foldl (· ∪ ·) first)) := by
  induction rest generalizing first with
  | nil => rfl
  | cons next rest ih =>
      rw [List.map_cons, List.map_cons, registerAll_cons, registerAll_cons,
        register_register (hmerge first next), ← registerAll_cons, ← List.map_cons, ih]
      rfl

/-- **Scopes of one kind add what the scope of all their members does.** -/
theorem Contribution.equivalent_scopes {ι α : Type} [Ranked α] (opened : RankedSet α → Scope)
    (hmerge : ∀ older newer, (opened older).merge? (opened newer) = some (opened (older ∪ newer)))
    (set : ι → RankedSet α) {items : List ι} (hne : items ≠ []) {all : RankedSet α}
    (hall : ∀ a, a ∈ all ↔ ∃ item ∈ items, a ∈ set item) :
    Equivalent [scope (opened all)] (items.map fun item => scope (opened (set item))) := by
  refine equivalent_of_quiet (List.forall_mem_singleton.2 (.inr ⟨_, rfl⟩))
    (List.forall_mem_map.2 fun item _ => .inr ⟨_, rfl⟩) fun registry => ?_
  obtain ⟨first, rest, rfl⟩ := List.exists_cons_of_ne_nil hne
  have hunion : all = (rest.map set).foldl (· ∪ ·) (set first) := by
    refine RankedSet.ext fun a => ?_
    rw [hall, RankedSet.mem_foldl_union, List.exists_mem_cons_iff]
    simp only [List.mem_map, exists_exists_and_eq_and]
  have hscopes : ((first :: rest).map fun item => scope (opened (set item))).filterMap scope? =
      (set first :: rest.map set).map opened := by
    rw [List.filterMap_map, ← List.map_cons, List.map_map]
    exact congrFun List.filterMap_eq_map _
  rw [hscopes, Registry.registerAll_map hmerge, ← hunion]
  rfl

end ForumQuery
