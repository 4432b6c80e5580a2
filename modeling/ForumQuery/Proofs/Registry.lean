import ForumQuery.Registry
import ForumQuery.Proofs.Distinct

/-!
# Registries — what is left of the scopes that were registered

A registry that starts empty holds one scope for each kind that was registered, in the order of the
first registrations (`map_kind_registerAll`).  Each of them *unites* what was registered under its
kind (`unites_of_mem_registerAll`): its set is the union of their sets, and its actor is the one of
the last of them.

Both are facts about `mergeInto`: it changes one scope at most, the first of the kind of the new
one, and a new scope that finds none of its kind goes to the end.  It says what a registration does
without a word about positions.  That a registry does the same (`scopes_register`) is because a kind
is said to stand where it comes first (`Shelf.Sound.positions_eq`); so the scopes of a registry are
all that there is to it (`eq_of_scopes_eq`), and what is found for a kind is the one scope of it
(`get?_eq_some_iff`).
-/

namespace ForumQuery

namespace Scope

/-- The actor of a scope of levels. -/
def actor? : Scope → Option ActorId
  | levels actor _ => some actor
  | categories _ => none

/-- A scope asks for a level. -/
def HasLevel (level : Level) : Scope → Prop
  | levels _ set => level ∈ set
  | categories _ => False

/-- A scope asks for a category. -/
def HasCategory (category : CategoryId) : Scope → Prop
  | levels .. => False
  | categories set => category ∈ set

/-- A scope asks for what the registered ones of its kind ask for, on behalf of the last actor. -/
def Unites (registered : List Scope) : Scope → Prop
  | levels actor set => (registered.filterMap actor?).getLast? = some actor ∧
      ∀ level, level ∈ set ↔ ∃ scope ∈ registered, scope.HasLevel level
  | categories set =>
      ∀ category, category ∈ set ↔ ∃ scope ∈ registered, scope.HasCategory category

/-- A registration of another kind is nothing to a scope. -/
theorem Unites.append_of_kind_ne {registered : List Scope} {scope newer : Scope}
    (h : scope.Unites registered) (hne : scope.kind ≠ newer.kind) :
    scope.Unites (registered ++ [newer]) := by
  cases scope <;> cases newer <;> simp_all [Unites, kind, actor?, HasLevel, HasCategory]

/-- A scope that unites what is there, merged with a newer one. -/
theorem Unites.append_of_merge? {registered : List Scope} {older newer merged : Scope}
    (h : older.Unites registered) (hm : older.merge? newer = some merged) :
    merged.Unites (registered ++ [newer]) := by
  cases older <;> cases newer <;> simp only [merge?, Option.some.injEq, reduceCtorEq] at hm
  · subst hm
    simp [Unites, actor?, HasLevel, h.2, or_and_right, exists_or]
  · subst hm
    simp_all [Unites, HasCategory, or_and_right, exists_or]

theorem HasLevel.kind_eq {level : Level} {scope : Scope} (h : scope.HasLevel level) :
    scope.kind = .levels := by
  cases scope with
  | levels => rfl
  | categories => exact h.elim

theorem HasCategory.kind_eq {category : CategoryId} {scope : Scope}
    (h : scope.HasCategory category) : scope.kind = .categories := by
  cases scope with
  | levels => exact h.elim
  | categories => rfl

/-- The first scope of its kind unites what is registered. -/
theorem unites_append_self {registered : List Scope} {newer : Scope}
    (h : newer.kind ∉ registered.map kind) : newer.Unites (registered ++ [newer]) := by
  have hself : ∀ scope ∈ registered ++ [newer], scope.kind = newer.kind → scope = newer := by
    intro scope hs hk
    rcases List.mem_append.1 hs with hs | hs
    · exact absurd (hk ▸ List.mem_map_of_mem hs) h
    · exact List.mem_singleton.1 hs
  cases newer with
  | levels actor set =>
      refine ⟨by simp [actor?], fun level => ⟨fun hl => ⟨.levels actor set, by simp, hl⟩, ?_⟩⟩
      rintro ⟨scope, hs, hl⟩
      rwa [hself scope hs hl.kind_eq] at hl
  | categories set =>
      refine fun category => ⟨fun hc => ⟨.categories set, by simp, hc⟩, ?_⟩
      rintro ⟨scope, hs, hc⟩
      rwa [hself scope hs hc.kind_eq] at hc

end Scope

/-! ### Merging into a row of scopes -/

/-- Merges a scope into the first of its kind, or puts it at the end. -/
def mergeInto (scope : Scope) : List Scope → List Scope
  | [] => [scope]
  | older :: rest =>
    match older.merge? scope with
    | some merged => merged :: rest
    | none => older :: mergeInto scope rest

theorem map_kind_mergeInto (scope : Scope) (scopes : List Scope) :
    (mergeInto scope scopes).map Scope.kind =
      if scope.kind ∈ scopes.map Scope.kind then scopes.map Scope.kind
      else scopes.map Scope.kind ++ [scope.kind] := by
  induction scopes with
  | nil => rfl
  | cons older rest ih =>
    rw [mergeInto]
    split
    · next merged h =>
      obtain ⟨hold, hmerged⟩ := Scope.kind_of_merge? h
      simp [hold, hmerged]
    · next h =>
      have hne := Scope.kind_ne_of_merge? h
      simp only [List.map_cons, List.mem_cons, hne, false_or, ih]
      split <;> rfl

/-- Where the scopes come from that are there after a registration. -/
theorem mem_mergeInto {newer scope : Scope} {scopes : List Scope}
    (hd : (scopes.map Scope.kind).Nodup) (h : scope ∈ mergeInto newer scopes) :
    (scope ∈ scopes ∧ scope.kind ≠ newer.kind) ∨
      (∃ older ∈ scopes, older.merge? newer = some scope) ∨
      (scope = newer ∧ newer.kind ∉ scopes.map Scope.kind) := by
  induction scopes with
  | nil => exact .inr (.inr ⟨List.mem_singleton.1 h, by simp⟩)
  | cons older rest ih =>
      obtain ⟨hnot, hrest⟩ := List.nodup_cons.1 hd
      rw [mergeInto] at h
      split at h
      · next merged hm =>
        rcases List.mem_cons.1 h with rfl | h
        · exact .inr (.inl ⟨older, by simp, hm⟩)
        · -- behind the merged scope nothing is of its kind
          refine .inl ⟨List.mem_cons_of_mem _ h, fun e => hnot ?_⟩
          rw [(Scope.kind_of_merge? hm).1, ← e]
          exact List.mem_map_of_mem h
      · next hm =>
        have hne := Scope.kind_ne_of_merge? hm
        rcases List.mem_cons.1 h with rfl | h
        · exact .inl ⟨by simp, hne.symm⟩
        · rcases ih hrest h with ⟨hs, hk⟩ | ⟨o, ho, hm'⟩ | ⟨rfl, hk⟩
          · exact .inl ⟨List.mem_cons_of_mem _ hs, hk⟩
          · exact .inr (.inl ⟨o, List.mem_cons_of_mem _ ho, hm'⟩)
          · exact .inr (.inr ⟨rfl, by simp [hne, hk]⟩)

/-- A scope of a new kind goes to the end. -/
theorem mergeInto_of_notMem {scope : Scope} {scopes : List Scope}
    (h : scope.kind ∉ scopes.map Scope.kind) : mergeInto scope scopes = scopes ++ [scope] := by
  induction scopes with
  | nil => rfl
  | cons older rest ih =>
      rw [List.map_cons, List.mem_cons, not_or] at h
      rw [mergeInto]
      split
      · next hm => exact absurd (Scope.kind_of_merge? hm).1.symm h.1
      · rw [ih h.2, List.cons_append]

/-- A scope merges where the only one of its kind stands. -/
theorem mergeInto_of_getElem? {scope older : Scope} {scopes : List Scope} {position : Nat}
    (hd : (scopes.map Scope.kind).Nodup) (h : scopes[position]? = some older)
    (hk : older.kind = scope.kind) :
    mergeInto scope scopes = scopes.set position (older.merge scope) := by
  induction scopes generalizing position with
  | nil => simp at h
  | cons first rest ih =>
      obtain ⟨hnot, hrest⟩ := List.nodup_cons.1 hd
      cases position with
      | zero =>
          obtain rfl : first = older := Option.some.inj h
          rw [mergeInto, Scope.merge?_of_kind_eq hk]
          rfl
      | succ position =>
          have hmem : older ∈ rest := List.mem_of_getElem? h
          have hne : first.merge? scope = none := by
            rw [Option.eq_none_iff_forall_ne_some]
            intro merged hm
            rw [(Scope.kind_of_merge? hm).1, ← hk] at hnot
            exact hnot (List.mem_map_of_mem hmem)
          rw [mergeInto, hne, List.set_cons_succ, ih hrest h]

/-! ### Shelves -/

/-- A shelf after some registrations, if none of them fails. -/
def Shelf.registerAll? (shelf : Shelf) (scopes : List Scope) : Option Shelf :=
  scopes.foldlM Shelf.register? shelf

namespace Shelf.Sound

variable {shelf : Shelf}

/-- On a sound shelf no two scopes are of one kind. -/
theorem nodup (h : shelf.Sound) : (shelf.scopes.map Scope.kind).Nodup := by
  refine List.nodup_iff_getElem?_ne_getElem?.2 fun first second hlt hsecond he => ?_
  have hkind := List.getElem?_eq_getElem hsecond
  have hpositions := (h _ first).2 (he.trans hkind)
  exact Nat.ne_of_lt hlt (Option.some.inj (hpositions.symm.trans ((h _ second).2 hkind)))

/-- On a sound shelf a kind is said to stand where it comes first. -/
theorem positions_eq (h : shelf.Sound) (kind : ScopeKind) :
    shelf.positions kind = (shelf.scopes.map Scope.kind).idxOf? kind := by
  cases hp : shelf.positions kind with
  | none =>
      refine (List.idxOf?_eq_none_iff.2 fun hmem => ?_).symm
      obtain ⟨position, hposition⟩ := List.mem_iff_getElem?.1 hmem
      simp [(h kind position).2 hposition] at hp
  | some position =>
      obtain ⟨hlt, hkind⟩ := List.getElem?_eq_some_iff.1 ((h kind position).1 hp)
      refine (List.idxOf?_eq_some_iff.2 ⟨hlt, hkind, fun earlier hearlier he => ?_⟩).symm
      exact Nat.ne_of_lt hearlier (h.nodup.getElem_inj_iff.1 (he.trans hkind.symm))

/-- On a sound shelf the one of its kind that a scope merges with is the first of its kind. -/
theorem scopes_of_register? (h : shelf.Sound) {scope : Scope} {next : Shelf}
    (hnext : shelf.register? scope = some next) :
    next.scopes = mergeInto scope shelf.scopes := by
  rw [register?] at hnext
  split at hnext
  · next position hp =>
    obtain ⟨older, holder, hkind⟩ := h.exists_scope hp
    rw [holder, Option.map_some, Option.some.injEq] at hnext
    rw [mergeInto_of_getElem? h.nodup holder hkind, ← hnext]
    rfl
  · next hp =>
    rw [h.positions_eq, List.idxOf?_eq_none_iff] at hp
    rw [mergeInto_of_notMem hp, ← Option.some.inj hnext]
    rfl

end Shelf.Sound

namespace Registry

/-- No two scopes of a registry are of one kind. -/
theorem distinct (registry : Registry) : (registry.scopes.map Scope.kind).Nodup :=
  registry.sound.nodup

/-- To register a scope is to merge it into the first of its kind. -/
theorem scopes_register (registry : Registry) (scope : Scope) :
    (registry.register scope).scopes = mergeInto scope registry.scopes :=
  registry.sound.scopes_of_register? (registry.register?_eq scope)

/-- The scopes of a registry say where they stand. -/
theorem eq_of_scopes_eq {first second : Registry} (h : first.scopes = second.scopes) :
    first = second := by
  have hpositions : first.positions = second.positions :=
    funext fun kind => by rw [first.sound.positions_eq, second.sound.positions_eq, h]
  obtain ⟨⟨scopes, positions⟩, sound⟩ := first
  obtain ⟨⟨others, places⟩, _⟩ := second
  obtain rfl : scopes = others := h
  obtain rfl : positions = places := hpositions
  rfl

/-- A scope stands where its kind is said to. -/
theorem exists_position {registry : Registry} {scope : Scope} (h : scope ∈ registry.scopes) :
    ∃ position, registry.positions scope.kind = some position ∧
      registry.scopes[position]? = some scope := by
  obtain ⟨position, hscope⟩ := List.mem_iff_getElem?.1 h
  have hkind : (registry.scopes.map Scope.kind)[position]? = some scope.kind := by
    rw [List.getElem?_map, hscope, Option.map_some]
  exact ⟨position, (registry.sound _ _).2 hkind, hscope⟩

/-- What is found for a kind is the one scope of it. -/
theorem get?_eq_some_iff {registry : Registry} {kind : ScopeKind} {scope : Scope} :
    registry.get? kind = some scope ↔ scope ∈ registry.scopes ∧ scope.kind = kind := by
  refine ⟨fun h => ?_, ?_⟩
  · obtain ⟨position, hp, hscope⟩ := Option.bind_eq_some_iff.1 h
    obtain ⟨other, hother, hkind⟩ := registry.sound.exists_scope hp
    obtain rfl : scope = other := Option.some.inj (hscope.symm.trans hother)
    exact ⟨List.mem_of_getElem? hscope, hkind⟩
  · rintro ⟨hmem, rfl⟩
    exact Option.bind_eq_some_iff.2 (exists_position hmem)

/-- For the kinds, in their order, the scopes are found, in theirs. -/
theorem map_get?_map_kind (registry : Registry) :
    (registry.scopes.map Scope.kind).map registry.get? = registry.scopes.map some := by
  rw [List.map_map]
  exact List.map_congr_left fun scope hs => get?_eq_some_iff.2 ⟨hs, rfl⟩

/-- A registry after some registrations. -/
def registerAll (registry : Registry) (scopes : List Scope) : Registry :=
  scopes.foldl register registry

@[simp] theorem registerAll_nil (registry : Registry) : registry.registerAll [] = registry := rfl

@[simp] theorem registerAll_cons (registry : Registry) (scope : Scope) (scopes : List Scope) :
    registry.registerAll (scope :: scopes) = (registry.register scope).registerAll scopes := rfl

theorem registerAll_concat (registry : Registry) (scopes : List Scope) (scope : Scope) :
    registry.registerAll (scopes ++ [scope]) = (registry.registerAll scopes).register scope := by
  rw [registerAll, List.foldl_append]
  rfl

/-- The registrations are those on a shelf, and none of them fails. -/
theorem registerAll?_eq (registry : Registry) (scopes : List Scope) :
    registry.registerAll? scopes = some (registry.registerAll scopes).toShelf := by
  induction scopes generalizing registry with
  | nil => rfl
  | cons scope rest ih =>
      rw [Shelf.registerAll?, List.foldlM_cons, register?_eq]
      exact ih (registry.register scope)

/-- The kinds stand in the order of their first registrations. -/
theorem map_kind_registerAll (scopes : List Scope) :
    (registerAll ∅ scopes).scopes.map Scope.kind = (scopes.map Scope.kind).eraseDups := by
  induction scopes using List.reverseRecOn with
  | nil => rfl
  | append_singleton scopes scope ih =>
      rw [registerAll_concat, List.map_append, List.map_singleton, eraseDups_concat,
        scopes_register, map_kind_mergeInto]
      simp only [ih, List.mem_eraseDups]

/-- **What is left unites what was registered.** -/
theorem unites_of_mem_registerAll {scopes : List Scope} {scope : Scope}
    (h : scope ∈ (registerAll ∅ scopes).scopes) : scope.Unites scopes := by
  induction scopes using List.reverseRecOn generalizing scope with
  | nil => exact absurd h List.not_mem_nil
  | append_singleton scopes newer ih =>
      rw [registerAll_concat, scopes_register] at h
      rcases mem_mergeInto (registerAll ∅ scopes).distinct h with
        ⟨hs, hk⟩ | ⟨older, ho, hm⟩ | ⟨rfl, hk⟩
      · exact (ih hs).append_of_kind_ne hk
      · exact (ih ho).append_of_merge? hm
      · rw [map_kind_registerAll, List.mem_eraseDups] at hk
        exact Scope.unites_append_self hk

/-- A registry holds what was registered: one scope for each kind, in the order in which the kinds
came first, and each of them unites what came under its kind. -/
structure Collects (registry : Registry) (registered : List Scope) : Prop where
  kinds : registry.scopes.map Scope.kind = (registered.map Scope.kind).eraseDups
  unites : ∀ scope ∈ registry.scopes, scope.Unites registered

/-- A registry that starts empty holds what is registered. -/
theorem collects_registerAll (scopes : List Scope) : (registerAll ∅ scopes).Collects scopes where
  kinds := map_kind_registerAll scopes
  unites _ := unites_of_mem_registerAll

/-- **What registrations leave**, whatever is registered and in whatever order.  No registration
fails, and none meets a scope of another kind.  One scope is left for each kind that was registered,
in the order in which the kinds came first.  It stands where its kind is said to stand, it is found
for its kind, and it unites what came under its kind; a kind that was not registered stands nowhere.
And each kind ends as one condition, in the same order. -/
theorem registerAll_exact (registered : List Scope) :
    let kinds := (registered.map Scope.kind).eraseDups
    let registry := registerAll ∅ registered
    Shelf.registerAll? {} registered = some registry.toShelf ∧
      (∀ before newer after position, registered = before ++ newer :: after →
        (registerAll ∅ before).positions newer.kind = some position →
        ∃ older, (registerAll ∅ before).scopes[position]? = some older ∧
          older.kind = newer.kind) ∧
      registry.scopes.map Scope.kind = kinds ∧
      (∀ kind, registry.positions kind = kinds.idxOf? kind) ∧
      (∀ kind ∈ kinds, ∃ position scope,
        registry.positions kind = some position ∧ registry.scopes[position]? = some scope ∧
          registry.get? kind = some scope ∧ scope.kind = kind ∧ scope.Unites registered) ∧
      (∀ kind ∉ kinds, registry.positions kind = none ∧ registry.get? kind = none) ∧
      registry.predicates.map some =
        kinds.map fun kind => (registry.get? kind).map Scope.predicate := by
  intro kinds registry
  have hkinds : registry.scopes.map Scope.kind = kinds := map_kind_registerAll registered
  have hpositions : ∀ kind, registry.positions kind = kinds.idxOf? kind :=
    fun kind => hkinds ▸ registry.sound.positions_eq kind
  refine ⟨registerAll?_eq ∅ registered, fun before newer after position _ hp => ?_, hkinds,
    hpositions, fun kind hk => ?_, fun kind hk => ?_, ?_⟩
  · exact (registerAll ∅ before).sound.exists_scope hp
  · rw [← hkinds] at hk
    obtain ⟨scope, hs, rfl⟩ := List.mem_map.1 hk
    obtain ⟨position, hp, hscope⟩ := exists_position hs
    exact ⟨position, scope, hp, hscope, get?_eq_some_iff.2 ⟨hs, rfl⟩, rfl,
      unites_of_mem_registerAll hs⟩
  · have hnone : registry.positions kind = none :=
      (hpositions kind).trans (List.idxOf?_eq_none_iff.2 hk)
    exact ⟨hnone, Option.bind_eq_none_iff.2 fun position hp => by simp [hnone] at hp⟩
  · have hfound : kinds.map registry.get? = registry.scopes.map some :=
      hkinds ▸ registry.map_get?_map_kind
    calc registry.predicates.map some
      _ = (registry.scopes.map some).map (Option.map Scope.predicate) := by
          rw [predicates, List.map_map, List.map_map]
          rfl
      _ = (kinds.map registry.get?).map (Option.map Scope.predicate) := by rw [hfound]
      _ = kinds.map fun kind => (registry.get? kind).map Scope.predicate := List.map_map

example :
    (registerAll ∅ [.levels ⟨1⟩ (.ofList [.watching]), .categories (.ofList [⟨5⟩]),
      .levels ⟨2⟩ (.ofList [.tracking])]).scopes =
      [.levels ⟨2⟩ (.ofList [.watching, .tracking]), .categories (.ofList [⟨5⟩])] := by
  decide

end Registry

end ForumQuery
