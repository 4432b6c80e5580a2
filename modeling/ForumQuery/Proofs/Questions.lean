import ForumQuery.Proofs.Composition

/-!
# Questions — what a compilation asks

A token asks the same questions in a query as by itself (`Context.callsAlone_eq`): a clause does not
see what was added before it.  The tokens of a query are *heard* up to the first that nothing
passes by itself, and that one is heard still (`Context.heard`).  A query that narrows a chain asks
what its heard tokens ask by themselves, one after the other; one that narrows the filter that
nothing passes asks nothing (`calls_narrow`).

A run has nothing left if and only if it had nothing at the start or read a token that collapses
(`Builder.isNothing_takeAll`).  So the last heard token is the first after which nothing is left,
and neither the tokens behind it nor the closing of scopes ask for anything.
-/

namespace ForumQuery

open Query

/-! ### Runs -/

namespace Builder

variable {context : Context} {builder : Builder}

theorem calls_takeAll_cons (token : Token) (rest : List Token) :
    (builder.takeAll context (token :: rest)).calls =
      (builder.take context token).calls ++
        ((builder.take context token).value.takeAll context rest).calls := rfl

/-- A token is asked about if something can pass yet. -/
theorem calls_take (token : Token) :
    (builder.take context token).calls =
      if builder.isNothing then [] else (context.contribution token).calls := by
  rw [take]
  split
  · rfl
  · exact List.append_nil _

/-- Once nothing can pass, nothing is asked. -/
theorem calls_takeAll_of_isNothing (h : builder.isNothing = true) (tokens : List Token) :
    (builder.takeAll context tokens).calls = [] := by
  induction tokens with
  | nil => rfl
  | cons token rest ih =>
      rw [calls_takeAll_cons, calls_take, value_take, if_pos h, if_pos h, ih, List.append_nil]

end Builder

/-! ### The tokens that are heard -/

namespace Context

variable {context : Context} {query : String} {token : Token} {tokens : List Token}

/-- What is asked when a token is compiled by itself. -/
def callsAlone (context : Context) (token : Token) : List Call :=
  (context.compile (String.ofList token.spelling)).calls

/-- The tokens up to the first that nothing passes by itself, and that one. -/
def heard (context : Context) : List Token → List Token
  | [] => []
  | token :: rest => if context.alone token = .nothing then [token] else token :: heard context rest

/-- **A token by itself asks what it asks in a query.** -/
theorem callsAlone_eq (h : token ∈ Token.scan query) :
    context.callsAlone token = (context.contribution token).calls := by
  rw [callsAlone, compile, narrow, Token.scan_spelling h, Consult.calls_bind,
    Builder.calls_takeAll_cons, Builder.calls_take]
  -- where a token stands is nothing to the clause
  exact (List.append_nil _).trans (List.append_nil _)

theorem heard_isPrefix : context.heard tokens <+: tokens := by
  induction tokens with
  | nil => exact List.prefix_rfl
  | cons token rest ih =>
      rw [heard]
      split
      · exact List.prefix_append [token] rest
      · exact List.prefix_cons_inj token |>.2 ih

/-- If some tokens are not heard, nothing passes one of those that are. -/
theorem exists_alone_of_heard_ne (h : context.heard tokens ≠ tokens) :
    ∃ token ∈ context.heard tokens, context.alone token = .nothing := by
  induction tokens with
  | nil => exact absurd rfl h
  | cons token rest ih =>
      rw [heard] at h ⊢
      split at h
      · next ht => exact ⟨token, by simp [ht], ht⟩
      · next ht =>
        rw [if_neg ht]
        obtain ⟨last, hlast, hnothing⟩ := ih fun e => h (congrArg _ e)
        exact ⟨last, List.mem_cons_of_mem _ hlast, hnothing⟩

/-- Something passes every heard token but the last. -/
theorem alone_ne_nothing_of_prefix_heard {read : List Token} (h : read <+: context.heard tokens)
    (hne : read ≠ context.heard tokens) : ∀ token ∈ read, context.alone token ≠ .nothing := by
  induction tokens generalizing read with
  | nil => exact absurd (List.prefix_nil.1 h) hne
  | cons token rest ih =>
      cases read with
      | nil => simp
      | cons first read =>
          rw [heard] at h hne
          split at h
          · next ht =>
            rw [if_pos ht] at hne
            obtain ⟨rfl, hread⟩ := List.cons_prefix_cons.1 h
            exact absurd (congrArg _ (List.prefix_nil.1 hread)) hne
          · next ht =>
            rw [if_neg ht] at hne
            obtain ⟨rfl, hread⟩ := List.cons_prefix_cons.1 h
            exact List.forall_mem_cons.2 ⟨ht, ih hread fun e => hne (congrArg _ e)⟩

/-- **What a run asks** is what its heard tokens ask by themselves. -/
theorem calls_takeAll {builder : Builder} (hb : builder.isNothing = false)
    (h : ∀ token ∈ tokens, token ∈ Token.scan query) :
    (builder.takeAll context tokens).calls =
      (context.heard tokens).flatMap context.callsAlone := by
  induction tokens generalizing builder with
  | nil => rfl
  | cons token rest ih =>
      rw [List.forall_mem_cons] at h
      have hleft : (builder.take context token).value.isNothing = true ↔
          builder.isNothing = true ∨ context.alone token = .nothing := by
        rw [Builder.isNothing_take, alone_eq_nothing_iff h.1, eq_comm (a := Contribution.collapse)]
      rw [Builder.calls_takeAll_cons, Builder.calls_take, if_neg (by simp [hb]),
        ← callsAlone_eq h.1, heard]
      split
      · next ht =>
        rw [Builder.calls_takeAll_of_isNothing (hleft.2 (.inr ht))]
        simp
      · next ht =>
        have hsome : (builder.take context token).value.isNothing = false := by
          simpa [hb, ht] using hleft
        rw [ih hsome h.2, List.flatMap_cons]

end Context

/-- **What a query asks** is what its tokens ask by themselves, up to and including the first after
which nothing is left. -/
theorem calls_narrow (context : Context) (query : String) :
    (context.narrow .nothing query).calls = [] ∧
      ∀ base,
        let tokens := Token.scan query
        let heard := context.heard tokens
        let after := fun read => ((Builder.onto (.chain base)).takeAll context read).value
        (context.narrow (.chain base) query).calls = heard.flatMap context.callsAlone ∧
          heard <+: tokens ∧
          (heard ≠ tokens → (after heard).isNothing = true) ∧
          ∀ read, read <+: heard → read ≠ heard → (after read).isNothing = false := by
  refine ⟨?_, fun base => ?_⟩
  · exact (List.append_nil _).trans (Builder.calls_takeAll_of_isNothing rfl _)
  · intro tokens heard after
    have hheard : heard <+: tokens := Context.heard_isPrefix
    refine ⟨?_, hheard, fun hne => ?_, fun read hread hne => ?_⟩
    · exact (List.append_nil _).trans (Context.calls_takeAll rfl fun _ h => h)
    · obtain ⟨token, hmem, ht⟩ := Context.exists_alone_of_heard_ne hne
      refine Builder.isNothing_takeAll.2 (.inr (List.mem_map.2 ⟨token, hmem, ?_⟩))
      exact (Context.alone_eq_nothing_iff (hheard.subset hmem)).1 ht
    · have hsome := Context.alone_ne_nothing_of_prefix_heard hread hne
      refine Bool.eq_false_iff.2 fun hnothing => ?_
      rcases Builder.isNothing_takeAll.1 hnothing with h | h
      · cases h
      · obtain ⟨token, hmem, ht⟩ := List.mem_map.1 h
        have hscan := hheard.subset (hread.subset hmem)
        exact hsome token hmem ((Context.alone_eq_nothing_iff hscan).2 ht)

end ForumQuery
