import ForumQuery.Predicate

/-!
# Filters

A filter is a chain of conditions that must all hold, or the filter that no topic can pass.  Once
nothing can pass, further conditions change nothing.

A `Sink` is whatever a filter can be played onto: it takes the conditions one by one, or the word
that nothing passes.
-/

namespace ForumQuery

/-- What a query selects from the topics. -/
inductive Filter where
  /-- the topics that meet every condition -/
  | chain (predicates : List Predicate)
  /-- no topic -/
  | nothing
  deriving DecidableEq

/-- Something that takes conditions one by one. -/
class Sink (σ : Type) where
  /-- one more condition -/
  apply : σ → Predicate → σ
  /-- nothing passes -/
  none : σ → σ

namespace Filter

/-- The filter that every topic passes. -/
def everything : Filter := chain []

instance : Inhabited Filter := ⟨everything⟩

/-- A filter with one more condition. -/
def and : Filter → Predicate → Filter
  | chain predicates, predicate => chain (predicates ++ [predicate])
  | nothing, _ => nothing

/-- A filter with more conditions, the first of them first. -/
def andAll (filter : Filter) (predicates : List Predicate) : Filter := predicates.foldl and filter

/-- Whether no topic can pass. -/
def isNothing : Filter → Bool
  | nothing => true
  | chain _ => false

/-- Whether there is no condition at all. -/
def isEverything : Filter → Bool
  | chain [] => true
  | _ => false

/-- The chain of conditions, where there is one. -/
def chain? : Filter → Option (List Predicate)
  | chain predicates => some predicates
  | nothing => none

/-- The conditions; the filter that nothing passes shows none. -/
def predicates (filter : Filter) : List Predicate := filter.chain?.getD []

/-- A topic passes a filter. -/
def Passes (topic : Topic) : Filter → Prop
  | chain predicates => ∀ predicate ∈ predicates, predicate.Holds topic
  | nothing => False

instance (topic : Topic) (filter : Filter) : Decidable (filter.Passes topic) := by
  cases filter <;> unfold Passes <;> infer_instance

/-- Plays a filter onto a sink. -/
def replay {σ : Type} [Sink σ] (filter : Filter) (sink : σ) : σ :=
  match filter with
  | chain predicates => predicates.foldl Sink.apply sink
  | nothing => Sink.none sink

@[simp] theorem chain_and (predicates : List Predicate) (predicate : Predicate) :
    (chain predicates).and predicate = chain (predicates ++ [predicate]) := rfl

@[simp] theorem nothing_and (predicate : Predicate) : nothing.and predicate = nothing := rfl

@[simp] theorem chain_andAll (first second : List Predicate) :
    (chain first).andAll second = chain (first ++ second) := by
  induction second generalizing first with
  | nil => simp [andAll]
  | cons predicate rest ih =>
    simp only [andAll, List.foldl_cons, chain_and] at ih ⊢
    rw [ih, List.append_assoc, List.singleton_append]

@[simp] theorem nothing_andAll (predicates : List Predicate) :
    nothing.andAll predicates = nothing := by
  induction predicates with
  | nil => rfl
  | cons _ _ ih => exact ih

end Filter

end ForumQuery
