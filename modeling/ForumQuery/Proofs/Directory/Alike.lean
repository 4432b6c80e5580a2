import ForumQuery.Directory.Permissions
import ForumQuery.Proofs.Directory.Lookup
import ForumQuery.Proofs.Subtree

/-!
# Alike — a tag of a hidden category might as well not be there

Two directories are *alike* to a guardian (`Directory.Alike`) if they have the same categories, and
the same tags but for those of hidden categories.  Then they answer alike: what is found under a
name is the tag that may be seen, or nothing (`Directory.Alike.filter_tag?`), and categories are
found in the same places.  So every query makes the same of every filter against both
(`narrow_eq_of_alike`), down to the labels of its joins.
-/

namespace ForumQuery

open Query Contribution

namespace Directory

variable {guardian : Guardian} {first second : Directory}

/-- Two directories that show a guardian the same: the same categories, and the same tags but for
those of hidden categories. -/
structure Alike (guardian : Guardian) (first second : Directory) : Prop where
  categories : first.categories = second.categories
  tags : ∀ entry : TagEntry, entry.visible guardian = true →
    (entry ∈ first.tags ↔ entry ∈ second.tags)

namespace Alike

/-- The tag of a name is the same in both, where it may be seen. -/
theorem filter_tag? (h : Alike guardian first second) (name : String) :
    (first.tag? name).filter (TagEntry.visible guardian) =
      (second.tag? name).filter (TagEntry.visible guardian) := by
  refine Option.ext fun entry => ?_
  simp only [Option.filter_eq_some_iff, tag?_eq_some_iff]
  constructor
  · rintro ⟨⟨hmem, hkey⟩, hv⟩
    exact ⟨⟨(h.tags entry hv).1 hmem, hkey⟩, hv⟩
  · rintro ⟨⟨hmem, hkey⟩, hv⟩
    exact ⟨⟨(h.tags entry hv).2 hmem, hkey⟩, hv⟩

theorem value_rows (h : Alike guardian first second) (names : List String) :
    (first.rows guardian names).value = (second.rows guardian names).value := by
  simp only [Directory.value_rows, value_row?, h.filter_tag?]

theorem category? (h : Alike guardian first second) : first.category? = second.category? := by
  funext slug
  simp only [category?_eq, allBelow, allNamed, h.categories]

theorem value_ofSlugs (h : Alike guardian first second) (taggingEnabled : Bool) (now : Instant)
    (slugs : List String) (withSubtree : Bool) :
    (ofSlugs (first.context guardian taggingEnabled now) slugs withSubtree).value =
      (ofSlugs (second.context guardian taggingEnabled now) slugs withSubtree).value := by
  have hchildren : ∀ category,
      ((first.context guardian taggingEnabled now).lookupChildren category).value =
        ((second.context guardian taggingEnabled now).lookupChildren category).value := by
    intro category
    rw [value_lookupChildren_context, value_lookupChildren_context, children, children,
      h.categories]
  have hresolved : slugs.filterMap first.category? = slugs.filterMap second.category? := by
    rw [h.category?]
  simp only [Clause.value_ofSlugs, value_lookupCategories_context, guardian_context, hresolved,
    Context.value_subtree_congr hchildren]
  rfl

end Alike

end Directory

/-- **A tag of a hidden category might as well not be there.** -/
theorem narrow_eq_of_alike {guardian : Guardian} {first second : Directory}
    (h : first.Alike guardian second) (taggingEnabled : Bool) (now : Instant) (base : Filter)
    (query : String) :
    ((first.context guardian taggingEnabled now).narrow base query).value =
      ((second.context guardian taggingEnabled now).narrow base query).value := by
  refine Context.value_narrow_congr (List.map_congr_left fun token _ => ?_) base
  exact Directory.yield_congr h.value_rows fun slugs withSubtree _ =>
    h.value_ofSlugs taggingEnabled now slugs withSubtree

/-- Two directories that are alike: a tag of a hidden category in the one, and in the other a tag of
another name, with other identifiers. -/
theorem narrow_eq_of_alike_secret :
    let guardian := ({ actor := some ⟨42⟩, hidden := .ofList [⟨4⟩] } : Permissions).guardian
    let first := ((∅ : Directory).addTag "rust" ⟨1⟩ none none).addTag "Secret" ⟨2⟩ (some ⟨3⟩)
      (some ⟨4⟩)
    let second := ((∅ : Directory).addTag "hush" ⟨9⟩ none (some ⟨4⟩)).addTag "Rust" ⟨1⟩ none none
    let now : Instant := ⟨0, 0, by decide, by decide⟩
    let query := "-tags:secret,hush tags:rust,secret tags:rust"
    first.Alike guardian second ∧
      ((first.context guardian true now).narrow (.chain [.status .closed]) query).value =
        ((second.context guardian true now).narrow (.chain [.status .closed]) query).value := by
  intro guardian first second now query
  have hfirst : first.tags = [⟨"secret", ⟨2⟩, some ⟨3⟩, some ⟨4⟩⟩, ⟨"rust", ⟨1⟩, none, none⟩] := by
    decide +kernel
  have hsecond : second.tags = [⟨"rust", ⟨1⟩, none, none⟩, ⟨"hush", ⟨9⟩, none, some ⟨4⟩⟩] := by
    decide +kernel
  have halike : first.Alike guardian second := by
    refine ⟨by simp [first, second], fun entry hv => ?_⟩
    rw [hfirst, hsecond]
    simp only [List.mem_cons, List.not_mem_nil, or_false]
    constructor
    · rintro (rfl | rfl)
      · exact absurd hv (by decide +kernel)
      · exact .inl rfl
    · rintro (rfl | rfl)
      · exact .inr rfl
      · exact absurd hv (by decide +kernel)
  exact ⟨halike, narrow_eq_of_alike halike true now _ query⟩

end ForumQuery
