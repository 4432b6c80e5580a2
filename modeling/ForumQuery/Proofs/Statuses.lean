import ForumQuery.Directory
import ForumQuery.Directory.Permissions
import ForumQuery.Proofs.Narrowing
import ForumQuery.Proofs.Parts

/-!
# Statuses — a clause for a status and the status itself

A filter can be narrowed to a status by its name (`Context.narrowToStatus`) or by a query that is one
clause for it.  The two are the same (`narrow_status`), whatever flag the clause has and whatever
text stands for the name: one that names no status changes nothing either way.  They even ask the
same, except that a query asks nothing about a filter that nothing passes.

A query that is the text of one clause is one step of a builder (`Context.narrow_clauseText`), and
what the step adds for a status is what the status adds everywhere
(`Context.contribution_of_status`).
-/

namespace ForumQuery

open Query Contribution Text

namespace Context

/-- **A query that is the text of one clause** is one step of a builder. -/
theorem narrow_clauseText (context : Context) (base : Filter) {flag : Option Flag}
    {key value : String} (hkey : Solid key) (hword : key.toList.all isWordChar = true)
    (hvalue : Solid value) :
    context.narrow base (clauseText flag key value) =
      Builder.close <$> (Builder.onto base).take context ⟨flag, key, value, 0⟩ := by
  rw [narrow, Token.scan_clauseText hkey hword hvalue]
  simp only [Builder.takeAll, bind_pure, map_eq_pure_bind]

/-- What a token for a status adds is what the status adds everywhere. -/
theorem contribution_of_status (context : Context) {token : Token} (hkey : token.key = "status") :
    context.contribution token =
      match Status.ofName? token.value with
      | some wanted => Contribution.ofStatus context wanted none
      | none => pure inert := by
  simp only [contribution, Clause.ofToken?, hkey]
  cases Status.ofName? token.value <;> rfl

/-- A clause for a status narrows a chain as the status does, by the same questions. -/
theorem narrow_chain_status (context : Context) (predicates : List Predicate) (flag : Option Flag)
    {name : String} (hname : Solid name) :
    context.narrow (.chain predicates) (clauseText flag "status" name) =
      context.narrowToStatus (.chain predicates) name none := by
  have hkey : Solid "status" := by decide
  have hsome : ¬ (Builder.onto (.chain predicates)).isNothing = true := Bool.false_ne_true
  rw [context.narrow_clauseText _ hkey (by decide +kernel) hname, Builder.take, if_neg hsome,
    contribution_of_status context rfl, narrowToStatus]
  cases Status.ofName? name with
  | none => rfl
  | some wanted => simp only [map_eq_pure_bind, bind_assoc, pure_bind]

/-- A status leaves nothing of the filter that nothing passes. -/
theorem value_narrowToStatus_nothing (context : Context) (name : String)
    (category : Option CategoryId) :
    (context.narrowToStatus .nothing name category).value = .nothing := by
  rw [value_narrowToStatus_eq_meet]
  cases (context.ofStatus name category).value <;> rfl

end Context

/-- **A clause for a status is the status**, with any flag and with any text for its name: it narrows
every filter to the same, and a chain of conditions by the same questions. -/
theorem narrow_status (context : Context) (flag : Option Flag) {name : String}
    (hname : Solid name) :
    let query := clauseText flag "status" name
    (∀ base, (context.narrow base query).value =
      (context.narrowToStatus base name none).value) ∧
      ∀ predicates, context.narrow (.chain predicates) query =
        context.narrowToStatus (.chain predicates) name none := by
  intro query
  have hchain : ∀ predicates, context.narrow (.chain predicates) query =
      context.narrowToStatus (.chain predicates) name none :=
    fun predicates => context.narrow_chain_status predicates flag hname
  refine ⟨fun base => ?_, hchain⟩
  cases base with
  | chain predicates => rw [hchain]
  | nothing => rw [context.value_narrow_nothing, context.value_narrowToStatus_nothing]

/-- A status that the guardian is asked about, and a text with colons that names none. -/
theorem narrow_status_deleted :
    let context : Context := ⟨({ seesDeleted := true } : Permissions).guardian,
      (∅ : Directory).resolver, true, ⟨0, 0, by decide, by decide⟩⟩
    let base : Filter := .chain [.status .closed]
    let other := "-öffen:a,b:"
    Solid "deleted" ∧ Solid other ∧
      context.narrow base (clauseText (some .strict) "status" "deleted") =
        context.narrowToStatus base "deleted" none ∧
      (context.narrowToStatus base "deleted" none).value =
        .chain [.status .closed, .status .deleted] ∧
      (context.narrow .nothing (clauseText none "status" other)).value =
        (context.narrowToStatus .nothing other none).value := by
  intro context base other
  have hname : Solid "deleted" := by decide +kernel
  have hother : Solid other := by decide +kernel
  exact ⟨hname, hother, (narrow_status context (some .strict) hname).2 _, by decide +kernel,
    (narrow_status context none hother).1 .nothing⟩

end ForumQuery
