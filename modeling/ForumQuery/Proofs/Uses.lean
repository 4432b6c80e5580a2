import Mathlib.Data.List.TakeWhile
import ForumQuery.Proofs.Accumulation

/-!
# Uses — what is done to a builder, in any order

A builder is used in four ways: a condition is added, everything is excluded, a scope is registered,
a label is taken.  `useAll` does any of them one after the other, and `useAll_onto` says what comes
of it.

The three things that a builder holds go different ways once nothing can pass.  The filter and the
scopes are then as they will remain (`useAll_of_nothing`), but the labels are counted on
(`labels_useAll`): what a label is depends on nothing but the labels before it.  As long as something
can pass, conditions and scopes are kept apart (`useAll_of_chain`), so that a scope stands behind
the conditions that were added after it.

A compilation uses its builder in no other way (`exists_useAll_takeAll`).  A contribution takes the
labels of its joins all at once, but that is the same as taking them one by one
(`useAll_takeLabels`).
-/

namespace ForumQuery

namespace Builder

/-- One use of a builder. -/
inductive Use where
  /-- a condition is added -/
  | and (predicate : Predicate)
  /-- nothing may pass -/
  | collapse
  | register (scope : Scope)
  | takeLabel
  deriving DecidableEq

namespace Use

/-- The label that a use hands out, and the builder after it. -/
def run (builder : Builder) : Use → Option String × Builder
  | .and predicate => (none, builder.and predicate)
  | .collapse => (none, builder.collapse)
  | .register scope => (none, builder.register scope)
  | .takeLabel => (some builder.takeLabel.1, builder.takeLabel.2)

/-- The condition that a use adds. -/
def condition? : Use → Option Predicate
  | .and predicate => some predicate
  | .collapse | .register _ | .takeLabel => none

/-- The scope that a use registers. -/
def scope? : Use → Option Scope
  | .register scope => some scope
  | .and _ | .collapse | .takeLabel => none

end Use

/-- The labels that some uses hand out, one after the other, and the builder after them. -/
def useAll (builder : Builder) : List Use → List String × Builder
  | [] => ([], builder)
  | use :: rest =>
      let (label?, next) := use.run builder
      let (labels, last) := next.useAll rest
      (label?.toList ++ labels, last)

theorem useAll_cons (builder : Builder) (use : Use) (rest : List Use) :
    builder.useAll (use :: rest) =
      ((use.run builder).1.toList ++ ((use.run builder).2.useAll rest).1,
        ((use.run builder).2.useAll rest).2) := rfl

theorem useAll_append (builder : Builder) (first second : List Use) :
    builder.useAll (first ++ second) =
      ((builder.useAll first).1 ++ ((builder.useAll first).2.useAll second).1,
        ((builder.useAll first).2.useAll second).2) := by
  induction first generalizing builder with
  | nil => rfl
  | cons use rest ih => rw [List.cons_append, useAll_cons, ih, useAll_cons, List.append_assoc]

/-! ### Labels -/

/-- A use hands out the next label or leaves it for later. -/
theorem label_run (builder : Builder) (use : Use) :
    (use.run builder).1.toList =
        (List.range' builder.nextLabel ([use].count .takeLabel)).map label ∧
      (use.run builder).2.nextLabel = builder.nextLabel + [use].count .takeLabel := by
  cases use with
  | and => exact ⟨rfl, rfl⟩
  | collapse => exact ⟨rfl, rfl⟩
  | takeLabel => exact ⟨rfl, rfl⟩
  | register scope =>
      refine ⟨rfl, ?_⟩
      rw [Use.run, register]
      split <;> rfl

/-- **The labels are counted on**, whatever is done between them. -/
theorem labels_useAll (builder : Builder) (uses : List Use) :
    (builder.useAll uses).1 =
      (List.range' builder.nextLabel (uses.count .takeLabel)).map label := by
  induction uses generalizing builder with
  | nil => rfl
  | cons use rest ih =>
      obtain ⟨hlabel, hnext⟩ := label_run builder use
      have hcount : (use :: rest).count .takeLabel =
          [use].count .takeLabel + rest.count .takeLabel := by
        rw [← List.count_append, List.singleton_append]
      rw [useAll_cons, ih, hlabel, hnext, hcount, ← List.map_append, List.range'_append_1]

/-- Labels that are taken one by one are those of joins. -/
theorem useAll_takeLabels (builder : Builder) (groups : List (RankedSet TagId)) :
    builder.useAll (groups.map fun _ => .takeLabel) =
      ((builder.takeJoins groups).1.map TagJoin.label, (builder.takeJoins groups).2) := by
  induction groups generalizing builder with
  | nil => rfl
  | cons tags rest ih =>
      rw [List.map_cons, useAll_cons, ih]
      simp [Use.run, takeJoins, takeLabel, joinsFrom, Nat.add_comm, Nat.add_left_comm]

/-! ### Filter and scopes -/

/-- Once nothing can pass, a use changes neither the filter nor the scopes. -/
theorem run_of_nothing {builder : Builder} (h : builder.filter = .nothing) (use : Use) :
    (use.run builder).2.filter = .nothing ∧ (use.run builder).2.scopes = builder.scopes := by
  cases use with
  | and predicate => exact ⟨congrArg (·.and predicate) h, rfl⟩
  | collapse => exact ⟨rfl, rfl⟩
  | takeLabel => exact ⟨h, rfl⟩
  | register scope =>
      have hregister : builder.register scope = builder := if_pos (by rw [isNothing, h]; rfl)
      rw [Use.run, hregister]
      exact ⟨h, rfl⟩

/-- **Nothing passes for good**, and no scope is registered any more. -/
theorem useAll_of_nothing {builder : Builder} (h : builder.filter = .nothing) (uses : List Use) :
    (builder.useAll uses).2.filter = .nothing ∧
      (builder.useAll uses).2.scopes = builder.scopes := by
  induction uses generalizing builder with
  | nil => exact ⟨h, rfl⟩
  | cons use rest ih =>
      obtain ⟨hfilter, hscopes⟩ := run_of_nothing h use
      obtain ⟨hlast, hkept⟩ := ih hfilter
      exact ⟨hlast, hkept.trans hscopes⟩

/-- What a use does to a builder that something can pass. -/
theorem run_of_chain {builder : Builder} {base : List Predicate}
    (h : builder.filter = .chain base) {use : Use} (hu : use ≠ .collapse) :
    (use.run builder).2.filter = .chain (base ++ use.condition?.toList) ∧
      (use.run builder).2.scopes = builder.scopes.registerAll use.scope?.toList := by
  cases use with
  | collapse => exact absurd rfl hu
  | and predicate => exact ⟨congrArg (·.and predicate) h, rfl⟩
  | takeLabel => exact ⟨h.trans (by simp [Use.condition?]), rfl⟩
  | register scope =>
      have hregister : builder.register scope =
          { builder with scopes := builder.scopes.register scope } :=
        if_neg (by simp [isNothing, h, Filter.isNothing])
      rw [Use.run, hregister]
      exact ⟨h.trans (by simp [Use.condition?]), rfl⟩

/-- **As long as something can pass**, conditions and scopes are kept, each in their order. -/
theorem useAll_of_chain {builder : Builder} {base : List Predicate}
    (h : builder.filter = .chain base) {uses : List Use} (hu : .collapse ∉ uses) :
    (builder.useAll uses).2.filter = .chain (base ++ uses.filterMap Use.condition?) ∧
      (builder.useAll uses).2.scopes =
        builder.scopes.registerAll (uses.filterMap Use.scope?) := by
  induction uses generalizing builder base with
  | nil => exact ⟨by simp [useAll, h], rfl⟩
  | cons use rest ih =>
      obtain ⟨hne, hrest⟩ := not_or.1 (mt List.mem_cons.2 hu)
      obtain ⟨hfilter, hscopes⟩ := run_of_chain h (Ne.symm hne)
      obtain ⟨hlast, hkept⟩ := ih hfilter hrest
      rw [useAll_cons]
      refine ⟨?_, ?_⟩
      · rw [hlast, List.append_assoc]
        cases hc : use.condition? <;> simp [hc]
      · rw [hkept, hscopes]
        cases hs : use.scope? <;> simp [hs]

/-- Nothing passes after a use that lets nothing pass. -/
theorem useAll_of_mem {builder : Builder} {uses : List Use} (h : .collapse ∈ uses) :
    (builder.useAll uses).2.filter = .nothing := by
  obtain ⟨before, rest, rfl⟩ := List.append_of_mem h
  rw [useAll_append, useAll_cons]
  exact (useAll_of_nothing rfl rest).1

/-! ### Compilations -/

/-- The uses that a contribution makes of a builder whose next label has a number. -/
def usesOf (first : Nat) : Contribution → List Use
  | .inert => []
  | .collapse => [.collapse]
  | .condition predicate => [.and predicate]
  | .everyGroup groups =>
      (groups.map fun _ => .takeLabel) ++ [.and (.taggedWithAll (joinsFrom first groups))]
  | .notEveryGroup groups =>
      (groups.map fun _ => .takeLabel) ++ [.and (.missingSomeTag (joinsFrom first groups))]
  | .someTag tags => [.takeLabel, .and (.taggedWithAny ⟨label first, tags⟩)]
  | .scope scope => [.register scope]

/-- A contribution is added by uses. -/
theorem contribute_eq_useAll (builder : Builder) (contribution : Contribution) :
    builder.contribute contribution =
      (builder.useAll (usesOf builder.nextLabel contribution)).2 := by
  cases contribution with
  | inert => rfl
  | collapse => rfl
  | condition => rfl
  | someTag => rfl
  | scope => rfl
  | everyGroup groups =>
      rw [usesOf, useAll_append, useAll_takeLabels]
      rfl
  | notEveryGroup groups =>
      rw [usesOf, useAll_append, useAll_takeLabels]
      rfl

/-- A compilation uses its builder, and does nothing else to it. -/
theorem exists_useAll_takeAll (context : Context) (builder : Builder) (tokens : List Query.Token) :
    ∃ uses, (builder.takeAll context tokens).value = (builder.useAll uses).2 := by
  induction tokens generalizing builder with
  | nil => exact ⟨[], rfl⟩
  | cons token rest ih =>
      obtain ⟨uses, huses⟩ := ih (builder.take context token).value
      rw [value_takeAll_cons, huses, value_take]
      split
      · exact ⟨uses, rfl⟩
      · refine ⟨usesOf builder.nextLabel (context.yield token) ++ uses, ?_⟩
        rw [useAll_append, contribute_eq_useAll]

/-! ### A builder that starts from a filter -/

/-- The scopes that are registered while something can pass. -/
def registered (base : Filter) (uses : List Use) : List Scope :=
  if base.isNothing then [] else (uses.takeWhile (· ≠ .collapse)).filterMap Use.scope?

theorem takeWhile_of_not_mem {uses : List Use} (h : .collapse ∉ uses) :
    uses.takeWhile (· ≠ .collapse) = uses := by
  refine List.takeWhile_eq_self_iff.2 fun use hu => decide_eq_true fun e => ?_
  exact h (e ▸ hu)

/-- The scopes that are left are those that were registered in time. -/
theorem scopes_useAll_onto (base : Filter) (uses : List Use) :
    ((onto base).useAll uses).2.scopes = Registry.registerAll ∅ (registered base uses) := by
  cases base with
  | nothing => exact (useAll_of_nothing rfl uses).2
  | chain conditions =>
      have honto : (onto (.chain conditions)).filter = .chain conditions := rfl
      by_cases h : .collapse ∈ uses
      · obtain ⟨before, rest, rfl, hbefore⟩ := List.eq_append_cons_of_mem h
        have htake : (before ++ .collapse :: rest).takeWhile (· ≠ .collapse) = before := by
          rw [List.takeWhile_append, takeWhile_of_not_mem hbefore]
          simp
        rw [useAll_append, useAll_cons, registered, htake]
        exact (useAll_of_nothing rfl rest).2.trans (useAll_of_chain honto hbefore).2
      · rw [registered, takeWhile_of_not_mem h]
        exact (useAll_of_chain honto h).2

end Builder

open Builder in
/-- **What comes of a builder**, whatever it starts from and however it is used.  The labels are
numbered in the order in which they were taken.  From the time when nothing can pass, be it from
the start, the filter and the scopes stay as they are, and so nothing passes at the close.  The
scopes are those that were registered before that time.  And if something can always pass, the
builder closes into the conditions of the base, those that were added and those of the scopes. -/
theorem useAll_onto (base : Filter) (uses : List Use) :
    let labels := ((onto base).useAll uses).1
    let last := ((onto base).useAll uses).2
    labels = (List.range (uses.count .takeLabel)).map label ∧
      (∀ before rest, uses = before ++ rest → base = .nothing ∨ .collapse ∈ before →
        last.filter = .nothing ∧ last.scopes = ((onto base).useAll before).2.scopes ∧
          last.close = .nothing) ∧
      last.scopes.Collects (registered base uses) ∧
      ∀ conditions, base = .chain conditions → .collapse ∉ uses →
        last.close =
            .chain (conditions ++ uses.filterMap Use.condition? ++ last.scopes.predicates) ∧
          registered base uses = uses.filterMap Use.scope? := by
  intro labels last
  refine ⟨?_, ?_, ?_, ?_⟩
  · rw [List.range_eq_range']
    exact labels_useAll (onto base) uses
  · rintro before rest rfl h
    have hearlier : ((onto base).useAll before).2.filter = .nothing := by
      rcases h with rfl | hmem
      · exact (useAll_of_nothing rfl before).1
      · exact useAll_of_mem hmem
    obtain ⟨hfilter, hscopes⟩ := useAll_of_nothing hearlier rest
    have happend := congrArg Prod.snd (useAll_append (onto base) before rest)
    have hlast : last = (((onto base).useAll before).2.useAll rest).2 := happend
    rw [hlast]
    exact ⟨hfilter, hscopes, close_of_isNothing (by rw [isNothing, hfilter]; rfl)⟩
  · have hscopes : last.scopes = Registry.registerAll ∅ (registered base uses) :=
      scopes_useAll_onto base uses
    rw [hscopes]
    exact Registry.collects_registerAll _
  · rintro conditions rfl h
    have honto : (onto (.chain conditions)).filter = .chain conditions := rfl
    have hfilter := (useAll_of_chain honto h).1
    refine ⟨?_, ?_⟩
    · rw [close, hfilter, Filter.chain_andAll]
    · rw [registered, takeWhile_of_not_mem h]
      rfl

open Builder in
/-- Levels are asked for before and behind a condition, and again when nothing can pass. -/
theorem useAll_onto_levels :
    let uses : List Use := [.takeLabel, .register (.levels ⟨1⟩ (.ofList [.watching])),
      .and (.status .ongoing), .takeLabel, .register (.levels ⟨2⟩ (.ofList [.tracking]))]
    let closed : Filter := .chain
      [.status .listed, .status .ongoing, .levelIn ⟨2⟩ (.ofList [.watching, .tracking])]
    let rest : List Use := [.collapse, .takeLabel, .register (.categories (.ofList [⟨4⟩]))]
    let base : Filter := .chain [.status .listed]
    (.collapse ∉ uses ∧ ((onto base).useAll uses).2.close = closed) ∧
      (.collapse ∈ uses ++ [.collapse] ∧ ((onto base).useAll (uses ++ rest)).2.close = .nothing) ∧
      ((onto base).useAll (uses ++ rest)).1 = ["tags_0", "tags_1", "tags_2"] := by
  intro uses closed rest base
  have huses : .collapse ∉ uses := by decide
  have hmem : .collapse ∈ uses ++ [.collapse] := by simp
  obtain ⟨-, -, -, hclose⟩ := useAll_onto base uses
  obtain ⟨hlabels, hfrozen, -, -⟩ := useAll_onto base (uses ++ rest)
  refine ⟨⟨huses, (hclose _ rfl huses).1.trans (by decide)⟩, ⟨hmem, ?_⟩, hlabels.trans (by decide)⟩
  exact (hfrozen (uses ++ [.collapse]) rest.tail rfl (.inr hmem)).2.2

end ForumQuery
