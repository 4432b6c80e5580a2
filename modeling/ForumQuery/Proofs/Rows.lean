import ForumQuery.Directory.Permissions
import ForumQuery.Proofs.Alone
import ForumQuery.Proofs.Substance
import ForumQuery.Proofs.Subtree

/-!
# Rows — what a clause for tags makes of the rows that are found

A resolver answers a clause for tags with rows in any order, several for a name or the same one
twice, and also for names that nobody asked for.  What a name stands for is what some row gives for
it (`TagRow.Gives`): the tag of the row, or the one that this is an alias of.  Nothing else of the
rows is left in the group of the name (`TagRow.mem_group_iff`), so rows that are alike for the names
of a clause give the same groups (`TagRow.group_congr`).

A clause for all of its tags collapses if some name stands for nothing, and one for any of them is
inert if all names do.  Otherwise it adds one condition, with a join for each name
(`Predicate.OnEach`) or about the tags of all names together (`Predicate.OnAny`); which of these it
is, the rows and the names decide (`take_tags`).
-/

namespace ForumQuery

open Query Contribution

theorem Text.toList_toLower (text : String) : text.toLower.toList = text.toList.map Char.toLower :=
  String.toList_map

/-- Texts are the same, the case of ASCII letters aside, if their characters are. -/
theorem Text.toLower_eq_iff {first second : String} : first.toLower = second.toLower ↔
    first.toList.map Char.toLower = second.toList.map Char.toLower := by
  rw [← String.toList_inj, toList_toLower, toList_toLower]

/-! ### Groups -/

namespace TagRow

variable {rows : List TagRow} {names : List String} {name : String} {tag : TagId}

/-- Some row gives a tag for a name, the case of ASCII letters aside. -/
def Gives (rows : List TagRow) (name : String) (tag : TagId) : Prop :=
  ∃ row ∈ rows, row.name.toLower = name.toLower ∧ (tag = row.id ∨ row.target = some tag)

/-- **The group of a name** has just the tags that some row gives for it. -/
theorem mem_group_iff : tag ∈ group rows name ↔ Gives rows name tag := by
  rw [group, RankedSet.mem_ofList, List.mem_flatMap]
  simp only [List.mem_filter, answers, beq_iff_eq, ids, List.mem_cons, Option.mem_toList,
    and_assoc, Gives]

theorem isEmpty_group_iff : (group rows name).isEmpty = true ↔ ∀ tag, ¬ Gives rows name tag := by
  simp only [RankedSet.isEmpty_iff, mem_group_iff]

/-- The groups of some names together. -/
theorem mem_foldl_group_iff :
    tag ∈ (names.map (group rows)).foldl (· ∪ ·) ∅ ↔ ∃ name ∈ names, Gives rows name tag := by
  simp only [RankedSet.mem_foldl_union, RankedSet.not_mem_empty, false_or, List.mem_map,
    exists_exists_and_eq_and, mem_group_iff]

/-- The rows that answer for some of the names are the same, in whatever order and number, and
whatever other rows there are. -/
def AlikeFor (names : List String) (first second : List TagRow) : Prop :=
  ∀ row : TagRow, (∃ name ∈ names, row.answers name = true) → (row ∈ first ↔ row ∈ second)

theorem group_congr {first second : List TagRow} (h : AlikeFor names first second)
    (hname : name ∈ names) : group first name = group second name := by
  refine RankedSet.ext fun tag => ?_
  rw [mem_group_iff, mem_group_iff]
  refine exists_congr fun row => and_congr_left fun ⟨hlower, _⟩ => h row ⟨name, hname, ?_⟩
  exact beq_iff_eq.2 hlower

end TagRow

/-! ### Conditions -/

/-- A join carries just the tags that some rows give for a name. -/
def TagJoin.Carries (rows : List TagRow) (join : TagJoin) (name : String) : Prop :=
  ∀ tag, tag ∈ join.tags ↔ TagRow.Gives rows name tag

/-- A condition with a join for each of some names, the labels counted from a number on: that there
is a tag for every name, or to exclude them, that there is none for some name. -/
structure Predicate.OnEach (rows : List TagRow) (names : List String) (exclude : Bool)
    (first : Nat) (predicate : Predicate) : Prop where
  form : predicate = if exclude then .missingSomeTag predicate.joins
    else .taggedWithAll predicate.joins
  carries : List.Forall₂ (TagJoin.Carries rows) predicate.joins names
  labels : predicate.joins.map TagJoin.label =
    (List.range' first names.length).map Builder.label
  holds_iff : ∀ topic : Topic, predicate.Holds topic ↔
    if exclude then ∃ name ∈ names, ¬ ∃ tag ∈ topic.tags, TagRow.Gives rows name tag
    else ∀ name ∈ names, ∃ tag ∈ topic.tags, TagRow.Gives rows name tag

/-- A condition on the tags of some names together: that there is one of them, under a label, or to
exclude them, that there is none. -/
structure Predicate.OnAny (rows : List TagRow) (names : List String) (exclude : Bool)
    (first : Nat) (predicate : Predicate) : Prop where
  form : ∃ tags : RankedSet TagId,
    (∀ tag, tag ∈ tags ↔ ∃ name ∈ names, TagRow.Gives rows name tag) ∧
      predicate = if exclude then .taggedWithNone tags
        else .taggedWithAny ⟨Builder.label first, tags⟩
  holds_iff : ∀ topic : Topic, predicate.Holds topic ↔
    if exclude then ¬ ∃ tag ∈ topic.tags, ∃ name ∈ names, TagRow.Gives rows name tag
    else ∃ tag ∈ topic.tags, ∃ name ∈ names, TagRow.Gives rows name tag

section

variable {rows : List TagRow} {names : List String}

theorem Builder.forall₂_carries (rows : List TagRow) (names : List String) (first : Nat) :
    List.Forall₂ (TagJoin.Carries rows) (joinsFrom first (names.map (TagRow.group rows)))
      names := by
  induction names generalizing first with
  | nil => exact .nil
  | cons name rest ih => exact .cons (fun _ => TagRow.mem_group_iff) (ih (first + 1))

/-- A topic has a tag of every join if it has one for every name. -/
theorem TagJoin.forall_hasSome_iff {joins : List TagJoin}
    (h : List.Forall₂ (TagJoin.Carries rows) joins names) (topic : Topic) :
    (∀ join ∈ joins, topic.HasSome join.tags) ↔
      ∀ name ∈ names, ∃ tag ∈ topic.tags, TagRow.Gives rows name tag := by
  induction h with
  | nil => exact iff_of_true nofun nofun
  | cons hcarries _ ih =>
      rw [List.forall_mem_cons, List.forall_mem_cons, ih]
      refine and_congr_left fun _ => exists_congr fun tag => and_congr_right fun _ => ?_
      exact hcarries tag

/-- The condition of a clause for all of its tags. -/
theorem Predicate.onEach_joinsFrom (rows : List TagRow) (names : List String) (exclude : Bool)
    (first : Nat) :
    let joins := Builder.joinsFrom first (names.map (TagRow.group rows))
    OnEach rows names exclude first
      (if exclude then .missingSomeTag joins else .taggedWithAll joins) := by
  intro joins
  have hcarries : List.Forall₂ (TagJoin.Carries rows) joins names :=
    Builder.forall₂_carries rows names first
  have hlabels : joins.map TagJoin.label = (List.range' first names.length).map Builder.label := by
    rw [Builder.map_label_joinsFrom, List.length_map]
  have hall := TagJoin.forall_hasSome_iff hcarries
  cases exclude with
  | false => exact ⟨rfl, hcarries, hlabels, hall⟩
  | true =>
      refine ⟨rfl, hcarries, hlabels, fun topic => ?_⟩
      have hmissing := not_congr (hall topic)
      simp only [not_forall, exists_prop] at hmissing
      exact hmissing

/-- The condition of a clause for any of its tags. -/
theorem Predicate.onAny_foldl (rows : List TagRow) (names : List String) (exclude : Bool)
    (first : Nat) :
    let tags := (names.map (TagRow.group rows)).foldl (· ∪ ·) ∅
    OnAny rows names exclude first
      (if exclude then .taggedWithNone tags else .taggedWithAny ⟨Builder.label first, tags⟩) := by
  intro tags
  have htags : ∀ tag, tag ∈ tags ↔ ∃ name ∈ names, TagRow.Gives rows name tag :=
    fun _ => TagRow.mem_foldl_group_iff
  have hsome : ∀ topic : Topic, topic.HasSome tags ↔
      ∃ tag ∈ topic.tags, ∃ name ∈ names, TagRow.Gives rows name tag := fun topic =>
    exists_congr fun tag => and_congr_right fun _ => htags tag
  cases exclude with
  | false => exact ⟨⟨tags, htags, rfl⟩, hsome⟩
  | true => exact ⟨⟨tags, htags, rfl⟩, fun topic => not_congr (hsome topic)⟩

end

/-! ### What is added -/

namespace Contribution

variable {rows : List TagRow} {names : List String} {exclude : Bool}

/-- A clause for all of its tags collapses if some name stands for nothing. -/
theorem ofGroups_all_eq_collapse (h : ∃ name ∈ names, ∀ tag, ¬ TagRow.Gives rows name tag) :
    ofGroups (names.map (TagRow.group rows)) .all exclude = collapse := by
  obtain ⟨name, hname, hnone⟩ := h
  exact ofGroups_of_isEmpty (List.mem_map_of_mem hname) (TagRow.isEmpty_group_iff.2 hnone) exclude

/-- A clause for all of its tags adds one condition, if every name stands for something. -/
theorem ofGroups_all_eq (h : ¬ ∃ name ∈ names, ∀ tag, ¬ TagRow.Gives rows name tag) :
    ofGroups (names.map (TagRow.group rows)) .all exclude =
      if exclude then notEveryGroup (names.map (TagRow.group rows))
      else everyGroup (names.map (TagRow.group rows)) := by
  refine ofGroups_of_not_isEmpty ?_ exclude
  rintro ⟨group, hgroup, hempty⟩
  obtain ⟨name, hname, rfl⟩ := List.mem_map.1 hgroup
  exact h ⟨name, hname, TagRow.isEmpty_group_iff.1 hempty⟩

/-- A clause for any of its tags is inert if no name stands for anything. -/
theorem ofGroups_any_eq_inert (h : ∀ name ∈ names, ∀ tag, ¬ TagRow.Gives rows name tag) :
    ofGroups (names.map (TagRow.group rows)) .any exclude = inert := by
  refine ofGroups_of_forall_notMem (List.forall_mem_map.2 fun name hname tag htag => ?_) exclude
  exact h name hname tag (TagRow.mem_group_iff.1 htag)

/-- A clause for any of its tags adds one condition, if some name stands for something. -/
theorem ofGroups_any_eq (h : ¬ ∀ name ∈ names, ∀ tag, ¬ TagRow.Gives rows name tag) :
    let tags := (names.map (TagRow.group rows)).foldl (· ∪ ·) ∅
    ofGroups (names.map (TagRow.group rows)) .any exclude =
      if exclude then condition (.taggedWithNone tags) else someTag tags := by
  simp only [not_forall, not_not] at h
  obtain ⟨name, hname, tag, hgives⟩ := h
  exact ofGroups_of_mem (List.mem_map_of_mem hname) (TagRow.mem_group_iff.2 hgives) exclude

end Contribution

namespace Builder

variable {builder : Builder} {base : List Predicate} {rows : List TagRow} {names : List String}

/-- What a contribution does that adds one condition and nothing else. -/
theorem contribute_of_condition? (hf : builder.filter = .chain base) {contribution : Contribution}
    {predicate : Predicate}
    (hcondition : contribution.condition? builder.nextLabel = some predicate)
    (hscope : contribution.scope? = none) :
    builder.contribute contribution = ⟨.chain (base ++ [predicate]), builder.scopes,
      builder.nextLabel + contribution.labelCount⟩ := by
  have hc : contribution ≠ .collapse := by
    rintro rfl
    cases hcondition
  rw [contribute_eq hf hc, hcondition, hscope]
  rfl

/-- What a clause for all of its tags does. -/
theorem contribute_ofGroups_all (hf : builder.filter = .chain base) (exclude : Bool) :
    let after := builder.contribute (ofGroups (names.map (TagRow.group rows)) .all exclude)
    (after.filter = .nothing ↔ ∃ name ∈ names, ∀ tag, ¬ TagRow.Gives rows name tag) ∧
      (after.filter ≠ .nothing → ∃ predicate : Predicate,
        predicate.OnEach rows names exclude builder.nextLabel ∧
        after = ⟨.chain (base ++ [predicate]), builder.scopes,
          builder.nextLabel + names.length⟩) := by
  intro after
  by_cases hnone : ∃ name ∈ names, ∀ tag, ¬ TagRow.Gives rows name tag
  · have hcollapse : after = builder.collapse :=
      congrArg builder.contribute (ofGroups_all_eq_collapse hnone)
    exact ⟨iff_of_true (hcollapse ▸ rfl) hnone, fun hne => absurd (hcollapse ▸ rfl) hne⟩
  · let joins := joinsFrom builder.nextLabel (names.map (TagRow.group rows))
    have hlength : (names.map (TagRow.group rows)).length = names.length := List.length_map _
    have hadded : after = ⟨.chain (base ++
        [if exclude then .missingSomeTag joins else .taggedWithAll joins]), builder.scopes,
        builder.nextLabel + names.length⟩ := by
      rw [show after = _ from congrArg builder.contribute (ofGroups_all_eq hnone), ← hlength]
      cases exclude <;> exact contribute_of_condition? hf rfl rfl
    refine ⟨iff_of_false (hadded ▸ nofun) hnone, fun _ => ⟨_, ?_, hadded⟩⟩
    exact Predicate.onEach_joinsFrom rows names exclude builder.nextLabel

/-- What a clause for any of its tags does. -/
theorem contribute_ofGroups_any (hf : builder.filter = .chain base) (exclude : Bool) :
    let after := builder.contribute (ofGroups (names.map (TagRow.group rows)) .any exclude)
    (after = builder ↔ ∀ name ∈ names, ∀ tag, ¬ TagRow.Gives rows name tag) ∧
      (after ≠ builder → ∃ predicate : Predicate,
        predicate.OnAny rows names exclude builder.nextLabel ∧
        after = ⟨.chain (base ++ [predicate]), builder.scopes,
          builder.nextLabel + predicate.joins.length⟩) := by
  intro after
  by_cases hnone : ∀ name ∈ names, ∀ tag, ¬ TagRow.Gives rows name tag
  · have hinert : after = builder := congrArg builder.contribute (ofGroups_any_eq_inert hnone)
    exact ⟨iff_of_true hinert hnone, fun hne => absurd hinert hne⟩
  · obtain ⟨predicate, hany, hadded⟩ : ∃ predicate : Predicate,
        predicate.OnAny rows names exclude builder.nextLabel ∧
        after = ⟨.chain (base ++ [predicate]), builder.scopes,
          builder.nextLabel + predicate.joins.length⟩ := by
      refine ⟨_, Predicate.onAny_foldl rows names exclude builder.nextLabel, ?_⟩
      rw [show after = _ from congrArg builder.contribute (ofGroups_any_eq hnone)]
      cases exclude <;> exact contribute_of_condition? hf rfl rfl
    have hchanged : after ≠ builder := by
      intro h
      have hfilter := congrArg Builder.filter (h.symm.trans hadded)
      rw [hf] at hfilter
      simp at hfilter
    exact ⟨iff_of_false hchanged hnone, fun _ => ⟨predicate, hany, hadded⟩⟩

/-- A clause for tags whose list is read contributes the groups of its names. -/
theorem value_take_tags {context : Context} (htagging : context.taggingEnabled = true)
    {token : Token} {list : ValueList} (hkey : token.key = "tags")
    (hflag : token.flag ≠ some .strict)
    (hlist : ValueList.parse? [.comma, .plus] Clause.isTagChar token.value = some list)
    (hf : builder.filter = .chain base) :
    let names := list.items.eraseDups
    (builder.take context token).value =
      builder.contribute (ofGroups (names.map (TagRow.group (context.lookupTags names).value))
        (.ofSeparator list.separator) (token.flag = some .exclude)) := by
  have hsome : ¬ builder.isNothing = true := by
    rw [isNothing, hf]
    exact Bool.false_ne_true
  intro names
  rw [value_take, if_neg hsome, context.yield_of_ofToken? (Clause.ofToken?_tags hkey hflag hlist),
    Clause.value_contribution_tags_of_ne_nil _ (Clause.eraseDups_items_ne_nil hlist),
    if_pos htagging]

end Builder

theorem MatchMode.ofSeparator_eq_all {separator : Option Separator} (h : separator ≠ some .comma) :
    MatchMode.ofSeparator separator = .all := by
  rcases separator with _ | _ | _
  · rfl
  · exact absurd rfl h
  · rfl

/-! ### Other rows -/

namespace Context

/-- A context with another lookup of tags. -/
def withTags (context : Context)
    (tags : Guardian → List String → Consult (Except Failure (List TagRow))) : Context :=
  { context with resolver := { context.resolver with tags := tags } }

variable {context : Context}
  {tags : Guardian → List String → Consult (Except Failure (List TagRow))}

/-- **A token adds the same** if the rows are alike for the names that it asks for. -/
theorem yield_withTags {token : Token}
    (h : ∀ names mode exclude, Clause.ofToken? token = some (.tags names mode exclude) →
      TagRow.AlikeFor names (context.lookupTags names).value
        ((context.withTags tags).lookupTags names).value) :
    (context.withTags tags).yield token = context.yield token := by
  refine yield_congr rfl rfl rfl (fun names mode exclude hclause => ?_)
    fun slugs withSubtree _ => ?_
  · refine List.map_congr_left fun name hname => ?_
    exact (TagRow.group_congr (h names mode exclude hclause) hname).symm
  · -- the categories and those below them are looked up as before
    have hsubtree : ∀ roots, ((context.withTags tags).subtree roots).value =
        (context.subtree roots).value := value_subtree_congr fun _ => rfl
    rw [Clause.value_ofSlugs, Clause.value_ofSlugs]
    simp only [hsubtree]
    rfl

end Context

/-- **What a clause for tags makes of the rows that are found.**  A clause for all of its tags
collapses if and only if some name stands for nothing, and a clause for any of them changes nothing
if and only if no name stands for anything; otherwise one condition is added.  Other rows for the
names that a query asks for lead to the same, if they are alike. -/
theorem take_tags (context : Context) (htagging : context.taggingEnabled = true) :
    (∀ token list, token.key = "tags" → token.flag = none ∨ token.flag = some .exclude →
      ValueList.parse? [.comma, .plus] Clause.isTagChar token.value = some list →
      ∀ builder : Builder, ∀ base, builder.filter = .chain base →
        let names := list.items.eraseDups
        let rows := (context.lookupTags names).value
        let exclude := decide (token.flag = some .exclude)
        let after := (builder.take context token).value
        (list.separator ≠ some .comma →
          (after.filter = .nothing ↔ ∃ name ∈ names, ∀ tag, ¬ TagRow.Gives rows name tag) ∧
          (after.filter ≠ .nothing → ∃ predicate : Predicate,
            predicate.OnEach rows names exclude builder.nextLabel ∧
            after = ⟨.chain (base ++ [predicate]), builder.scopes,
              builder.nextLabel + names.length⟩)) ∧
        (list.separator = some .comma →
          (after = builder ↔ ∀ name ∈ names, ∀ tag, ¬ TagRow.Gives rows name tag) ∧
          (after ≠ builder → ∃ predicate : Predicate,
            predicate.OnAny rows names exclude builder.nextLabel ∧
            after = ⟨.chain (base ++ [predicate]), builder.scopes,
              builder.nextLabel + predicate.joins.length⟩))) ∧
      ∀ tags query,
        (∀ token ∈ Token.scan query, ∀ names mode exclude,
          Clause.ofToken? token = some (.tags names mode exclude) →
          TagRow.AlikeFor names (context.lookupTags names).value
            ((context.withTags tags).lookupTags names).value) →
        ∀ base, ((context.withTags tags).narrow base query).value =
          (context.narrow base query).value := by
  refine ⟨fun token list hkey hflag hlist builder base hf => ?_, fun tags query h base => ?_⟩
  · intro names rows exclude after
    have hstrict : token.flag ≠ some .strict := by
      rcases hflag with hflag | hflag <;> exact hflag ▸ nofun
    have hafter := Builder.value_take_tags htagging hkey hstrict hlist hf
    refine ⟨fun hseparator => ?_, fun hseparator => ?_⟩
    · rw [MatchMode.ofSeparator_eq_all hseparator] at hafter
      rw [show after = _ from hafter]
      exact Builder.contribute_ofGroups_all hf exclude
    · rw [hseparator] at hafter
      rw [show after = _ from hafter]
      exact Builder.contribute_ofGroups_any hf exclude
  · exact Context.value_narrow_congr
      (List.map_congr_left fun token htoken => Context.yield_withTags (h token htoken)) base

/-- Rows out of order, one in capitals, one for a name that nobody asked for and one that stands
twice, and the rows without these. -/
theorem take_tags_capitals :
    let rows : List TagRow := [⟨"wasm", ⟨3⟩, none⟩, ⟨"RUST", ⟨1⟩, some ⟨9⟩⟩, ⟨"go", ⟨5⟩, none⟩,
      ⟨"wasm", ⟨3⟩, none⟩]
    let other : List TagRow := [⟨"RUST", ⟨1⟩, some ⟨9⟩⟩, ⟨"wasm", ⟨3⟩, none⟩]
    let context : Context := ⟨({} : Permissions).guardian,
      ⟨fun _ _ => pure (.ok rows), fun _ => .ok [], fun _ => .ok []⟩, true,
      ⟨0, 0, by decide, by decide⟩⟩
    let value := "Rust+wasm+Rust"
    let names := ["Rust", "wasm"]
    let query := clauseText (some .exclude) "tags" value
    context.taggingEnabled = true ∧
      ValueList.parse? [.comma, .plus] Clause.isTagChar value =
        some ⟨["Rust", "wasm", "Rust"], some .plus⟩ ∧
      (∃ predicate : Predicate, predicate.OnEach rows names true 0 ∧
        ((Builder.onto .everything).take context ⟨some .exclude, "tags", value, 0⟩).value =
          ⟨.chain [predicate], ∅, 2⟩) ∧
      TagRow.AlikeFor names rows other ∧
      ∀ base, ((context.withTags fun _ _ => pure (.ok other)).narrow base query).value =
        (context.narrow base query).value := by
  intro rows other context value names query
  have hlist : ValueList.parse? [.comma, .plus] Clause.isTagChar value =
      some ⟨["Rust", "wasm", "Rust"], some .plus⟩ := by decide +kernel
  have hnames : List.eraseDups ["Rust", "wasm", "Rust"] = names := by decide +kernel
  have hgo : ∀ name ∈ names, ¬ "go".toLower = name.toLower := by
    simp only [Text.toLower_eq_iff]
    decide +kernel
  have hrust : "RUST".toLower = "Rust".toLower := Text.toLower_eq_iff.2 (by decide +kernel)
  have halike : TagRow.AlikeFor names rows other := by
    rintro row ⟨name, hname, hanswers⟩
    have hne : row ≠ ⟨"go", ⟨5⟩, none⟩ := by
      rintro rfl
      exact hgo name hname (beq_iff_eq.1 hanswers)
    simp only [rows, other, List.mem_cons, hne, List.not_mem_nil, false_or, or_false]
    exact ⟨fun h => h.elim .inr id, .inr⟩
  obtain ⟨hclause, hrows⟩ := take_tags context rfl
  refine ⟨rfl, hlist, ?_, halike, fun base => hrows _ _ ?_ base⟩
  · have hread := (hclause ⟨some .exclude, "tags", value, 0⟩ _ rfl (.inr rfl) hlist
      (Builder.onto .everything) [] rfl).1 nofun
    rw [hnames] at hread
    refine hread.2 (mt hread.1.1 ?_)
    rintro ⟨name, hname, hnone⟩
    rcases List.mem_pair.1 hname with rfl | rfl
    · exact hnone ⟨1⟩ ⟨⟨"RUST", ⟨1⟩, some ⟨9⟩⟩, by decide, hrust, .inl rfl⟩
    · exact hnone ⟨3⟩ ⟨⟨"wasm", ⟨3⟩, none⟩, by decide, rfl, .inl rfl⟩
  · have hscan : Token.scan query = [⟨some .exclude, "tags", value, 0⟩] := by decide +kernel
    have hstrict : some Flag.exclude ≠ some .strict := by decide
    have hread : Clause.ofToken? ⟨some .exclude, "tags", value, 0⟩ =
        some (.tags names .all true) :=
      hnames ▸ @Clause.ofToken?_tags ⟨some .exclude, "tags", value, 0⟩ _ rfl hstrict hlist
    rw [hscan]
    intro token htoken asked mode exclude hasked
    rw [List.mem_singleton.1 htoken, hread, Option.some.injEq, Clause.tags.injEq] at hasked
    exact hasked.1 ▸ halike

end ForumQuery
