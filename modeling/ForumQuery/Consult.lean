import ForumQuery.RecordId

/-!
# Consultations

A compilation asks the site questions: who is asking, what they may see, what a name stands for.  A
`Consult` is a value together with the questions asked on the way to it, in their order.  The
answers come from functions, so the same question always has the same answer; the record is there
to say which questions are asked at all.

Consultations form a monad in which a sequence asks the questions of its first part and then those
of its second (`calls_bind`).
-/

namespace ForumQuery

/-- A question to the site. -/
inductive Call where
  /-- Who is asking? -/
  | actor
  /-- May they see this category? -/
  | seesCategory (category : CategoryId)
  /-- May they see deleted topics, in this category or everywhere? -/
  | seesDeleted (category : Option CategoryId)
  /-- Which tags have these names? -/
  | tags (names : List String)
  /-- Which categories have these slugs? -/
  | categories (slugs : List String)
  /-- Which categories lie directly below this one? -/
  | children (category : CategoryId)
  deriving DecidableEq, Repr

/-- A value and the questions asked on the way to it. -/
structure Consult (α : Type) where
  value : α
  calls : List Call := []

namespace Consult

variable {α β : Type}

theorem ext {m n : Consult α} (hvalue : m.value = n.value) (hcalls : m.calls = n.calls) :
    m = n := by
  cases m; cases n; cases hvalue; cases hcalls; rfl

instance : Monad Consult where
  pure a := ⟨a, []⟩
  bind m f := ⟨(f m.value).value, m.calls ++ (f m.value).calls⟩

/-- Asks a question to which the answer is `answer`. -/
def ask (call : Call) (answer : α) : Consult α := ⟨answer, [call]⟩

@[simp] theorem value_pure (a : α) : (pure a : Consult α).value = a := rfl

@[simp] theorem calls_pure (a : α) : (pure a : Consult α).calls = [] := rfl

@[simp] theorem value_bind (m : Consult α) (f : α → Consult β) :
    (m >>= f).value = (f m.value).value := rfl

@[simp] theorem calls_bind (m : Consult α) (f : α → Consult β) :
    (m >>= f).calls = m.calls ++ (f m.value).calls := rfl

@[simp] theorem value_map (f : α → β) (m : Consult α) : (f <$> m).value = f m.value := rfl

@[simp] theorem calls_map (f : α → β) (m : Consult α) : (f <$> m).calls = m.calls :=
  List.append_nil _

@[simp] theorem value_ask (call : Call) (answer : α) : (ask call answer).value = answer := rfl

@[simp] theorem calls_ask (call : Call) (answer : α) : (ask call answer).calls = [call] := rfl

instance : LawfulMonad Consult := LawfulMonad.mk' Consult
  (fun _ => ext rfl (List.append_nil _))
  (fun _ _ => rfl)
  (fun _ _ _ => ext rfl (List.append_assoc ..))

end Consult

end ForumQuery
