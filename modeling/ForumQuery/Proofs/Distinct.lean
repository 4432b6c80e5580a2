import Mathlib.Data.List.Induction
import Mathlib.Data.List.Nodup

/-!
# Distinct — lists without their repeats

`List.eraseDups` keeps the first of each value.  One more value at the end is kept if it is new
(`eraseDups_concat`), what is left has no repeats (`nodup_eraseDups`), and a list without repeats is
left as it is (`eraseDups_of_nodup`).

Where at most one value passes a test, a search for the first finds it wherever it stands
(`find?_eq_some_iff_of_unique`).
-/

namespace ForumQuery

variable {α : Type} [DecidableEq α]

theorem eraseDups_concat (l : List α) (a : α) :
    (l ++ [a]).eraseDups = if a ∈ l then l.eraseDups else l.eraseDups ++ [a] := by
  rw [List.eraseDups_append]
  by_cases h : a ∈ l
  · simp [List.removeAll, h]
  · simp [List.removeAll, h, List.eraseDups_cons]

theorem nodup_eraseDups (l : List α) : l.eraseDups.Nodup := by
  induction l using List.reverseRecOn with
  | nil => exact List.nodup_nil
  | append_singleton l a ih =>
      rw [eraseDups_concat]
      split
      · exact ih
      · next h =>
        rw [← List.concat_eq_append, List.nodup_concat, List.mem_eraseDups]
        exact ⟨h, ih⟩

theorem eraseDups_of_nodup {l : List α} (h : l.Nodup) : l.eraseDups = l := by
  induction l using List.reverseRecOn with
  | nil => rfl
  | append_singleton l a ih =>
      rw [← List.concat_eq_append, List.nodup_concat] at h
      rw [eraseDups_concat, if_neg h.1, ih h.2]

omit [DecidableEq α] in
/-- The first that passes a test is any that does, where there is only one. -/
theorem find?_eq_some_iff_of_unique {l : List α} {p : α → Bool} {a : α}
    (h : ∀ a ∈ l, ∀ b ∈ l, p a = true → p b = true → a = b) :
    l.find? p = some a ↔ a ∈ l ∧ p a = true := by
  refine ⟨fun hf => ⟨List.mem_of_find?_eq_some hf, List.find?_some hf⟩, fun ⟨ha, hp⟩ => ?_⟩
  cases hf : l.find? p with
  | none => exact absurd hp (List.find?_eq_none.1 hf a ha)
  | some b => rw [h b (List.mem_of_find?_eq_some hf) a ha (List.find?_some hf) hp]

end ForumQuery
