import ForumQuery.Sql.Render
import Mathlib.Data.List.Basic

/-!
# Parameters — the values of a statement's placeholders

A statement binds the values that stand in its syntax, in the order in which they stand there from
left to right: those of each join, then those of the conditions (`Select.params_render`).
-/

namespace ForumQuery.Sql

open Fragment

/-! ### The values in the syntax -/

/-- The value on a side of a comparison. -/
def Operand.params : Operand → List Param
  | column _ => []
  | bound param => [param]

/-- The values in a condition, from left to right. -/
def Condition.params : Condition → List Param
  | never | flag .. | isNull .. | someNull _ => []
  | compare _ left right => left.params ++ right.params
  | oneOf _ params | notSelected _ _ _ params => params

/-- The values in a selection, from left to right. -/
def Select.params (select : Select) : List Param :=
  (select.joins.flatMap fun join => join.conditions.flatMap Condition.params) ++
    select.conditions.flatMap Condition.params

/-! ### Fragments one after the other -/

namespace Fragment

@[simp] theorem params_plain (text : String) : (plain text).params = [] := rfl

@[simp] theorem params_concat (fragments : List Fragment) :
    (concat fragments).params = fragments.flatMap Fragment.params := by
  induction fragments with
  | nil => rfl
  | cons first rest ih => rw [concat, params_append, ih, List.flatMap_cons]

@[simp] theorem params_separated (between : String) (fragments : List Fragment) :
    (separated between fragments).params = fragments.flatMap Fragment.params := by
  cases fragments with
  | nil => rfl
  | cons first rest =>
      rw [separated, params_append, params_concat, List.flatMap_map, List.flatMap_cons]
      rfl

end Fragment

/-! ### The values that are bound -/

theorem params_renderParams (params : List Param) : (renderParams params).params = params := by
  simp [renderParams, List.flatMap_map, placeholder]

theorem Operand.params_render (operand : Operand) : operand.render.params = operand.params := by
  cases operand <;> rfl

theorem Condition.params_render (condition : Condition) :
    condition.render.params = condition.params := by
  cases condition with
  | compare comparison left right =>
      simp [render, params, Operand.params_render]
  | oneOf | notSelected => simp [render, params, params_renderParams]
  | someNull columns => simp [render, params, List.flatMap_map]
  | never | flag | isNull => rfl

theorem params_renderAll (conditions : List Condition) :
    (renderAll conditions).params = conditions.flatMap Condition.params := by
  rw [renderAll, params_separated, List.flatMap_map]
  exact List.flatMap_congr fun condition _ => condition.params_render

theorem Join.params_render (join : Join) :
    join.render.params = join.conditions.flatMap Condition.params := by
  rw [render, params_append, params_renderAll]
  rfl

/-- **A statement binds its values from left to right.** -/
theorem Select.params_render (select : Select) : select.render.params = select.params := by
  have hjoins : (select.joins.map fun join => plain " " ++ join.render).flatMap Fragment.params =
      select.joins.flatMap fun join => join.conditions.flatMap Condition.params := by
    rw [List.flatMap_map]
    exact List.flatMap_congr fun join _ => join.params_render
  rw [render, params_append, params_append, params_plain, params_concat, hjoins, List.nil_append,
    params]
  split
  · next h => rw [h]; rfl
  · rw [params_append, params_renderAll]
    rfl

end ForumQuery.Sql
