import ForumQuery.Proofs.Composition
import ForumQuery.Proofs.Names

/-!
# Alone — what a clause compiles to by itself

A query that yields one contribution compiles to what that contribution makes of the filter that
everything passes (`Contribution.filter`), and so the text of a clause by itself does
(`Context.value_compile_clauseText`).

A value that is read as a list has no blank in it, if its alphabet has none
(`Query.ValueList.solid_of_parse?`).  So the texts of the clauses whose list is read are such
queries: those for categories (`Context.value_compile_categories`), whatever flag means something
for them, and those for tags.
-/

namespace ForumQuery

open Query Contribution Text

/-! ### One contribution -/

/-- What a contribution makes of the filter that everything passes. -/
def Contribution.filter (contribution : Contribution) : Filter :=
  ((Builder.onto .everything).contribute contribution).close

namespace Context

variable {context : Context}

/-- **A query that yields one contribution** compiles to what this makes by itself. -/
theorem value_compile_of_yields {query : String} {contribution : Contribution}
    (h : context.yields query = [contribution]) :
    (context.compile query).value = contribution.filter := by
  by_cases hc : contribution = .collapse
  · subst hc
    exact value_compile_eq_nothing_iff.2 (h ▸ List.mem_cons_self)
  · have hcollapse : .collapse ∉ context.yields query := by
      rw [h, List.mem_singleton]
      exact Ne.symm hc
    rw [value_compile hcollapse, h, predicates_singleton]
    cases contribution with
    | collapse => exact absurd rfl hc
    | inert | condition _ | everyGroup _ | notEveryGroup _ | someTag _ | scope _ => rfl

/-- **The text of a clause by itself** compiles to what the clause adds. -/
theorem value_compile_clauseText {flag : Option Flag} {key value : String} (hkey : Solid key)
    (hword : key.toList.all isWordChar = true) (hvalue : Solid value) :
    (context.compile (clauseText flag key value)).value =
      (context.yield ⟨flag, key, value, 0⟩).filter := by
  refine value_compile_of_yields ?_
  rw [yields, Token.scan_clauseText hkey hword hvalue]
  rfl

end Context

/-! ### Clauses with a list -/

/-- A value that is read as a list is solid, if there is no blank in its alphabet. -/
theorem Query.ValueList.solid_of_parse? {permitted : List Separator} {alphabet : Char → Bool}
    {value : String} {list : ValueList} (h : parse? permitted alphabet value = some list)
    (halphabet : ∀ c, alphabet c = true → isBlank c = false) : Solid value := by
  have hwritten := parse?_eq_some_iff.1 h
  constructor
  case ne_empty =>
    rintro rfl
    cases h
  case solid =>
    intro c hc
    rcases hwritten.of_mem hc with ⟨s, -, rfl, -⟩ | ⟨hmem, -⟩
    · cases s <;> decide
    · exact halphabet c hmem

namespace Clause

variable {token : Token} {list : ValueList}

/-- A clause for categories whose list is read. -/
theorem ofToken?_categories (hkey : token.key = "category" ∨ token.key = "categories")
    (hflag : token.flag ≠ some .exclude)
    (hlist : ValueList.parse? [.comma] isSlugChar token.value = some list) :
    ofToken? token = some (categories list.items.eraseDups (token.flag ≠ some .strict)) := by
  have hread : ofCategories? token.flag token.value =
      some (categories list.items.eraseDups (token.flag ≠ some .strict)) := by
    rw [ofCategories?, if_neg hflag, hlist]
    rfl
  rcases hkey with hkey | hkey <;> simp only [ofToken?, hkey, hread]

/-- A clause for tags whose list is read. -/
theorem ofToken?_tags (hkey : token.key = "tags") (hflag : token.flag ≠ some .strict)
    (hlist : ValueList.parse? [.comma, .plus] isTagChar token.value = some list) :
    ofToken? token = some (tags list.items.eraseDups (.ofSeparator list.separator)
      (token.flag = some .exclude)) := by
  simp only [ofToken?, hkey, ofTags?, if_neg hflag, hlist, Option.map_some]

end Clause

namespace Context

/-- **What the text of a clause for categories compiles to**, if its list is read. -/
theorem value_compile_categories (context : Context) {flag : Option Flag} {key value : String}
    {list : ValueList} (hkey : key = "category" ∨ key = "categories")
    (hflag : flag ≠ some .exclude)
    (hlist : ValueList.parse? [.comma] Clause.isSlugChar value = some list) :
    (context.compile (clauseText flag key value)).value =
      (ofSlugs context list.items.eraseDups (flag ≠ some .strict)).value.filter := by
  have hsolid : Solid value := ValueList.solid_of_parse? hlist fun _ => Clause.isBlank_of_isSlugChar
  have hclause : Clause.ofToken? ⟨flag, key, value, 0⟩ =
      some (.categories list.items.eraseDups (flag ≠ some .strict)) :=
    Clause.ofToken?_categories hkey hflag hlist
  have hword : Solid key ∧ key.toList.all isWordChar = true := by
    rcases hkey with rfl | rfl <;> exact ⟨by decide, by decide +kernel⟩
  rw [value_compile_clauseText hword.1 hword.2 hsolid, context.yield_of_ofToken? hclause]
  rfl

end Context

end ForumQuery
