import ForumQuery.Proofs.Sql.Combinations
import ForumQuery.Proofs.Sql.Parameters

/-!
# Placeholders — one for each value

What holds of fragments and is kept when two are put together holds of all of them put together
(`Fragment.concat_induction`, `Fragment.separated_induction`), and so of a whole statement if it
holds of its joins and conditions (`Select.render_induction`).

A fragment is *in step* if its text has as many placeholders as the fragment has values
(`Fragment.InStep`).  Fragments in step stay so when they are put together; so a condition, a join
or a whole statement is rendered in step if no name in it has a question mark
(`Condition.inStep_render`, `Join.inStep_render`, `Select.inStep_render`).
-/

namespace ForumQuery.Sql

open Fragment

/-- Text that no placeholder stands in. -/
def Unmarked (text : String) : Prop := '?' ∉ text.toList

instance (text : String) : Decidable (Unmarked text) := inferInstanceAs (Decidable (_ ∉ _))

@[simp] theorem unmarked_append {first second : String} :
    Unmarked (first ++ second) ↔ Unmarked first ∧ Unmarked second := by
  simp [Unmarked, not_or]

/-! ### Fragments that are put together -/

section

variable {P : Fragment → Prop}
  (happend : ∀ {first second}, P first → P second → P (first ++ second))
include happend

/-- What two fragments put together keep holds of any number of them. -/
theorem Fragment.concat_induction (hnil : P (plain "")) {fragments : List Fragment}
    (h : ∀ fragment ∈ fragments, P fragment) : P (concat fragments) := by
  induction fragments with
  | nil => exact hnil
  | cons first rest ih =>
      rw [List.forall_mem_cons] at h
      exact happend h.1 (ih h.2)

theorem Fragment.separated_induction (hnil : P (plain "")) {between : String}
    (hbetween : P (plain between)) {fragments : List Fragment}
    (h : ∀ fragment ∈ fragments, P fragment) : P (separated between fragments) := by
  cases fragments with
  | nil => exact hnil
  | cons first rest =>
      rw [List.forall_mem_cons] at h
      refine happend h.1 (concat_induction happend hnil ?_)
      exact List.forall_mem_map.2 fun fragment hf => happend hbetween (h.2 fragment hf)

/-- What holds of the words of a selection, of its joins and of its conditions holds of it. -/
theorem Select.render_induction {select : Select}
    (hwords : ∀ words ∈ ["", " ", " AND ", " WHERE ", "SELECT topics.* FROM topics",
      "SELECT DISTINCT topics.* FROM topics"], P (plain words))
    (hjoins : ∀ join ∈ select.joins, P join.render)
    (hconditions : ∀ condition ∈ select.conditions, P condition.render) : P select.render := by
  simp only [List.forall_mem_cons] at hwords
  obtain ⟨hnil, hblank, hand, hwhere, hselect, hdistinct, -⟩ := hwords
  refine happend (happend ?_ (concat_induction happend hnil (List.forall_mem_map.2 ?_))) ?_
  · cases select.distinct
    · exact hselect
    · exact hdistinct
  · exact fun join hj => happend hblank (hjoins join hj)
  · split
    · exact hnil
    · exact happend hwhere
        (separated_induction happend hnil hand (List.forall_mem_map.2 hconditions))

end

/-! ### Fragments in step -/

namespace Fragment

/-- A fragment with a value for each placeholder. -/
def InStep (fragment : Fragment) : Prop :=
  fragment.text.toList.count '?' = fragment.params.length

theorem inStep_plain {text : String} (h : Unmarked text) : (plain text).InStep :=
  List.count_eq_zero.2 h

theorem inStep_placeholder (param : Param) : (placeholder param).InStep := by
  have hone : "?".toList.count '?' = 1 := by decide
  exact hone

theorem InStep.append {first second : Fragment} (hfirst : first.InStep) (hsecond : second.InStep) :
    (first ++ second).InStep := by
  rw [InStep, text_append, String.toList_append, List.count_append, hfirst, hsecond, params_append,
    List.length_append]

theorem InStep.bracket {fragment : Fragment} (h : fragment.InStep) :
    (plain "(" ++ fragment ++ plain ")").InStep :=
  ((inStep_plain (by decide)).append h).append (inStep_plain (by decide))

theorem inStep_separated {between : String} (hbetween : Unmarked between)
    {fragments : List Fragment} (h : ∀ fragment ∈ fragments, fragment.InStep) :
    (separated between fragments).InStep :=
  separated_induction (P := InStep) InStep.append (inStep_plain (by decide))
    (inStep_plain hbetween) h

theorem text_concat (fragments : List Fragment) :
    (concat fragments).text = String.join (fragments.map Fragment.text) := by
  induction fragments with
  | nil => rfl
  | cons first rest ih => rw [concat, text_append, ih, List.map_cons, String.join_cons]

theorem text_separated (between : String) (fragments : List Fragment) :
    (separated between fragments).text = between.intercalate (fragments.map Fragment.text) := by
  induction fragments with
  | nil => rfl
  | cons first rest ih =>
      cases rest with
      | nil => exact String.append_empty
      | cons second rest =>
          rw [List.map_cons, List.map_cons, String.intercalate_cons_cons, ← List.map_cons, ← ih]
          simp only [separated, concat, text_append, List.map_cons, plain, String.append_assoc]

end Fragment

/-! ### Conditions and joins -/

/-- A column whose name has no placeholder in it. -/
def Column.Unmarked (column : Column) : Prop := Sql.Unmarked column.text

instance (column : Column) : Decidable column.Unmarked := inferInstanceAs (Decidable (Unmarked _))

theorem Column.unmarked_iff {column : Column} :
    column.Unmarked ↔ Sql.Unmarked column.table ∧ Sql.Unmarked column.name := by
  have hdot : Sql.Unmarked "." := by decide
  rw [Column.Unmarked, text, unmarked_append, unmarked_append, and_iff_left hdot]

/-- The columns that are named in a condition. -/
def Condition.named : Condition → List Column
  | never => []
  | flag _ column | isNull _ column | oneOf column _ => [column]
  | compare _ left right => left.columns ++ right.columns
  | someNull columns => columns
  | notSelected column column' key _ => [column, column', key]

theorem inStep_renderParams (params : List Param) : (renderParams params).InStep :=
  (inStep_separated (by decide)
    (List.forall_mem_map.2 fun param _ => inStep_placeholder param)).bracket

theorem Operand.inStep_render {operand : Operand}
    (h : ∀ column ∈ operand.columns, column.Unmarked) : operand.render.InStep := by
  cases operand with
  | column column => exact inStep_plain (h column (List.mem_singleton_self column))
  | bound param => exact inStep_placeholder param

/-- **A condition has a value for each placeholder.** -/
theorem Condition.inStep_render {condition : Condition}
    (h : ∀ column ∈ condition.named, column.Unmarked) : condition.render.InStep := by
  cases condition with
  | never => exact inStep_plain (by decide)
  | flag negated column =>
      have hcolumn := h column (List.mem_singleton_self column)
      cases negated <;> exact inStep_plain (unmarked_append.2 ⟨by decide, hcolumn⟩)
  | isNull negated column =>
      have hcolumn := h column (List.mem_singleton_self column)
      cases negated <;> exact inStep_plain (unmarked_append.2 ⟨hcolumn, by decide⟩)
  | compare comparison left right =>
      have hleft := Operand.inStep_render fun column hc => h column (List.mem_append_left _ hc)
      have hright := Operand.inStep_render fun column hc => h column (List.mem_append_right _ hc)
      have hsign : (plain comparison.sign).InStep := inStep_plain (by cases comparison <;> decide)
      exact (hleft.append hsign).append hright
  | oneOf column params =>
      have hcolumn := h column (List.mem_singleton_self column)
      exact (inStep_plain (unmarked_append.2 ⟨hcolumn, by decide⟩)).append
        (inStep_renderParams params)
  | someNull columns =>
      refine (inStep_separated (by decide) (List.forall_mem_map.2 fun column hc => ?_)).bracket
      exact inStep_plain (unmarked_append.2 ⟨h column hc, by decide⟩)
  | notSelected column column' key params =>
      simp only [named, List.forall_mem_cons] at h
      obtain ⟨hcolumn, hcolumn', hkey, -⟩ := h
      have htable : Unmarked column'.table := (Column.unmarked_iff.1 hcolumn').1
      have hopen : Unmarked (column.text ++ " NOT IN (SELECT " ++ column'.text ++ " FROM " ++
          column'.table ++ " WHERE " ++ key.text ++ " IN ") := by
        simp only [unmarked_append]
        exact ⟨⟨⟨⟨⟨⟨⟨hcolumn, by decide⟩, hcolumn'⟩, by decide⟩, htable⟩, by decide⟩, hkey⟩,
          by decide⟩
      have hclose : (plain ")").InStep := inStep_plain (by decide)
      exact ((inStep_plain hopen).append (inStep_renderParams params)).append hclose

/-- A join without a placeholder in its names. -/
structure Join.Unmarked (join : Join) : Prop where
  table : Sql.Unmarked join.table
  label : ∀ label ∈ join.label, Sql.Unmarked label
  named : ∀ condition ∈ join.conditions, ∀ column ∈ condition.named, column.Unmarked

/-- Conditions that must all hold have a value for each placeholder. -/
theorem inStep_renderAll {conditions : List Condition}
    (h : ∀ condition ∈ conditions, ∀ column ∈ condition.named, column.Unmarked) :
    (renderAll conditions).InStep :=
  inStep_separated (by decide)
    (List.forall_mem_map.2 fun condition hc => Condition.inStep_render (h condition hc))

/-- **A join has a value for each placeholder.** -/
theorem Join.inStep_render {join : Join} (h : join.Unmarked) : join.render.InStep := by
  have hkind : Sql.Unmarked join.kind.text := by cases join.kind <;> decide
  have hlabel : Sql.Unmarked (join.label.elim "" (" " ++ ·)) := by
    cases hl : join.label with
    | none => decide
    | some label => exact unmarked_append.2 ⟨by decide, h.label label hl⟩
  refine (inStep_plain ?_).append (inStep_renderAll h.named)
  simp only [unmarked_append]
  exact ⟨⟨⟨hkind, h.table⟩, hlabel⟩, by decide⟩

/-- **A statement has a value for each placeholder.** -/
theorem Select.inStep_render {select : Select} (hjoins : ∀ join ∈ select.joins, join.Unmarked)
    (hconditions : ∀ condition ∈ select.conditions, ∀ column ∈ condition.named, column.Unmarked) :
    select.render.InStep :=
  render_induction (P := InStep) InStep.append
    (fun words hw => inStep_plain (by revert words; decide))
    (fun join hj => Join.inStep_render (hjoins join hj))
    fun condition hc => Condition.inStep_render (hconditions condition hc)

end ForumQuery.Sql
