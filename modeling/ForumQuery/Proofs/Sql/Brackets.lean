import ForumQuery.Proofs.Substance
import ForumQuery.Proofs.Sql.Fragments
import Mathlib.Data.List.Chain

/-!
# Brackets — none of them is empty

A text is *sealed* if no bracket in it is closed right after it was opened and none is left open at
its end (`Sealed`).  Sealed texts stay so when they are put together, and so does a list in brackets
that has an item.  So a condition is rendered as a sealed text if its list is not empty
(`Condition.Listed`) and no name in it has a bracket (`Condition.sealed_render`).

The lists of a statement are the sets and the joins of the conditions on topics.  Where these are
substantial the statement is sealed (`sealed_statement`), and those of a compiled query are, as its
labels are bare and no condition of it asks for one of nothing: no list in its statement is without
a placeholder, and no disjunction without a part (`compile_wellFormed`).
-/

namespace ForumQuery

open Query

namespace Sql

open Fragment

/-! ### Texts -/

/-- Text without a bracket. -/
def Bare (text : String) : Prop := '(' ∉ text.toList ∧ ')' ∉ text.toList

instance (text : String) : Decidable (Bare text) := inferInstanceAs (Decidable (_ ∧ _))

/-- Text in which no bracket is closed right after it was opened, and none is left open at the
end. -/
def Sealed (text : String) : Prop :=
  (text.toList.IsChain fun first second => ¬ (first = '(' ∧ second = ')')) ∧
    '(' ∉ text.toList.getLast?

instance (text : String) : Decidable (Sealed text) := inferInstanceAs (Decidable (_ ∧ _))

theorem bare_append {first second : String} :
    Bare (first ++ second) ↔ Bare first ∧ Bare second := by
  simp only [Bare, String.toList_append, List.mem_append, not_or]
  exact and_and_and_comm

theorem Sealed.append {first second : String} (hfirst : Sealed first) (hsecond : Sealed second) :
    Sealed (first ++ second) := by
  rw [Sealed, String.toList_append, List.isChain_append, List.getLast?_append]
  refine ⟨⟨hfirst.1, hsecond.1, fun c hc _ _ hopen => hfirst.2 (hopen.1 ▸ hc)⟩, fun hlast => ?_⟩
  rcases Option.or_eq_some_iff.1 hlast with hlast | ⟨-, hlast⟩
  · exact hsecond.2 hlast
  · exact hfirst.2 hlast

theorem Bare.sealed {text : String} (h : Bare text) : Sealed text := by
  refine ⟨List.Pairwise.isChain (List.pairwise_of_forall_mem_list ?_), fun hlast => ?_⟩
  · exact fun c hc _ _ hopen => h.1 (hopen.1 ▸ hc)
  · exact h.1 (List.mem_of_getLast? hlast)

/-- A bracket may be opened before a text without one. -/
theorem Bare.sealed_open {text : String} (h : Bare text) (hne : text ≠ "") :
    Sealed ("(" ++ text) := by
  rw [Sealed, String.toList_append, List.isChain_append, List.getLast?_append_of_ne_nil _
    (mt String.toList_eq_nil_iff.1 hne)]
  have hopen : "(".toList.IsChain fun first second => ¬ (first = '(' ∧ second = ')') := by decide
  refine ⟨⟨hopen, h.sealed.1, fun _ _ c hc hclose => ?_⟩, h.sealed.2⟩
  exact h.2 (hclose.2 ▸ List.mem_of_mem_head? hc)

/-- **A sealed text has no empty brackets in it.** -/
theorem Sealed.filled {text : String} (h : Sealed text) : ¬ "()".toList <:+: text.toList := by
  rintro ⟨before, after, htext⟩
  have hchain := h.1
  rw [← htext] at hchain
  have hpair : ['(', ')'].IsChain fun first second => ¬ (first = '(' ∧ second = ')') :=
    hchain.left_of_append.right_of_append
  exact List.isChain_pair.1 hpair ⟨rfl, rfl⟩

/-! ### Lists -/

theorem sealed_concat {fragments : List Fragment}
    (h : ∀ fragment ∈ fragments, Sealed fragment.text) : Sealed (concat fragments).text :=
  concat_induction (P := fun fragment => Sealed fragment.text) Sealed.append (by decide) h

/-- **A list in brackets that has an item is sealed.** -/
theorem sealed_list {fragments : List Fragment} (hne : fragments ≠ []) {between : String}
    (hbetween : Sealed between)
    (h : ∀ fragment ∈ fragments, Bare fragment.text ∧ fragment.text ≠ "") :
    Sealed (plain "(" ++ separated between fragments ++ plain ")").text := by
  cases fragments with
  | nil => exact absurd rfl hne
  | cons first rest =>
      rw [List.forall_mem_cons] at h
      have hrest : Sealed (concat (rest.map (plain between ++ ·))).text :=
        sealed_concat (List.forall_mem_map.2 fun item hi => hbetween.append (h.2 item hi).1.sealed)
      have hopen := (h.1.1.sealed_open h.1.2).append hrest
      rw [String.append_assoc] at hopen
      exact hopen.append (by decide)

theorem sealed_renderParams {params : List Param} (h : params ≠ []) :
    Sealed (renderParams params).text :=
  sealed_list (mt List.map_eq_nil_iff.1 h) (by decide)
    (List.forall_mem_map.2 fun _ _ => ⟨(by decide : Bare "?"), (by decide : "?" ≠ "")⟩)

theorem idParams_ne_nil {kind : RecordKind} {ids : RankedSet (RecordId kind)} (h : ids ≠ ∅) :
    idParams ids ≠ [] :=
  mt List.map_eq_nil_iff.1 (mt RankedSet.toList_eq_nil_iff.1 h)

/-! ### Conditions and joins -/

/-- A column whose name has no bracket in it. -/
def Column.Bare (column : Column) : Prop := Sql.Bare column.text

instance (column : Column) : Decidable column.Bare := inferInstanceAs (Decidable (Bare _))

theorem Column.bare_iff {column : Column} :
    column.Bare ↔ Sql.Bare column.table ∧ Sql.Bare column.name := by
  have hdot : Sql.Bare "." := by decide
  rw [Column.Bare, text, bare_append, bare_append, and_iff_left hdot]

/-- A condition whose list, if it has one, is not empty. -/
def Condition.Listed : Condition → Prop
  | oneOf _ params | notSelected _ _ _ params => params ≠ []
  | someNull columns => columns ≠ []
  | never | flag .. | isNull .. | compare .. => True

theorem Operand.sealed_render {operand : Operand} (h : ∀ column ∈ operand.columns, column.Bare) :
    Sealed operand.render.text := by
  cases operand with
  | column column => exact (h column (List.mem_singleton_self column)).sealed
  | bound param => exact (by decide : Sealed "?")

/-- **A condition whose list is not empty is sealed.** -/
theorem Condition.sealed_render {condition : Condition} (hlisted : condition.Listed)
    (h : ∀ column ∈ condition.named, column.Bare) : Sealed condition.render.text := by
  cases condition with
  | never => exact (by decide : Sealed "FALSE")
  | flag negated column =>
      have hcolumn := (h column (List.mem_singleton_self column)).sealed
      cases negated
      · exact (by decide : Sealed "").append hcolumn
      · exact (by decide : Sealed "NOT ").append hcolumn
  | isNull negated column =>
      have hcolumn := (h column (List.mem_singleton_self column)).sealed
      cases negated
      · exact hcolumn.append (by decide)
      · exact hcolumn.append (by decide)
  | compare comparison left right =>
      have hleft := Operand.sealed_render fun column hc => h column (List.mem_append_left _ hc)
      have hright := Operand.sealed_render fun column hc => h column (List.mem_append_right _ hc)
      have hsign : Sealed comparison.sign := by cases comparison <;> decide
      exact (hleft.append hsign).append hright
  | oneOf column params =>
      have hcolumn := (h column (List.mem_singleton_self column)).sealed
      exact (hcolumn.append (by decide)).append (sealed_renderParams hlisted)
  | someNull columns =>
      refine sealed_list (mt List.map_eq_nil_iff.1 hlisted) (by decide)
        (List.forall_mem_map.2 fun column hc => ?_)
      have hbare : Bare (column.text ++ " IS NULL") := bare_append.2 ⟨h column hc, by decide⟩
      have hne : column.text ++ " IS NULL" ≠ "" := by simp
      exact ⟨hbare, hne⟩
  | notSelected column column' key params =>
      simp only [named, List.forall_mem_cons] at h
      obtain ⟨hcolumn, hcolumn', hkey, -⟩ := h
      have htable : Bare column'.table := (Column.bare_iff.1 hcolumn').1
      have hwhere : Bare (column'.text ++ " FROM " ++ column'.table ++ " WHERE " ++ key.text ++
          " IN ") := by
        simp only [bare_append]
        exact ⟨⟨⟨⟨⟨hcolumn', by decide⟩, htable⟩, by decide⟩, hkey⟩, by decide⟩
      have hselect : Sealed (column.text ++ " NOT IN (SELECT ") := hcolumn.sealed.append (by decide)
      have hopen := hselect.append hwhere.sealed
      simp only [← String.append_assoc] at hopen
      exact (hopen.append (sealed_renderParams hlisted)).append (by decide)

/-- **A join whose lists are not empty is sealed.** -/
theorem Join.sealed_render {join : Join} (htable : Bare join.table)
    (hlabel : ∀ label ∈ join.label, Bare label)
    (hlisted : ∀ condition ∈ join.conditions, condition.Listed)
    (hnamed : ∀ condition ∈ join.conditions, ∀ column ∈ condition.named, column.Bare) :
    Sealed join.render.text := by
  have hkind : Bare join.kind.text := by cases join.kind <;> decide
  have hlabel : Bare (join.label.elim "" (" " ++ ·)) := by
    cases hl : join.label with
    | none => exact (by decide : Bare "")
    | some label => exact bare_append.2 ⟨by decide, hlabel label hl⟩
  have hhead : Bare (join.kind.text ++ join.table ++ join.label.elim "" (" " ++ ·) ++ " ON ") := by
    simp only [bare_append]
    exact ⟨⟨⟨hkind, htable⟩, hlabel⟩, by decide⟩
  refine hhead.sealed.append (separated_induction (P := fun fragment => Sealed fragment.text)
    Sealed.append (by decide) (by decide) (List.forall_mem_map.2 fun condition hc => ?_))
  exact Condition.sealed_render (hlisted condition hc) (hnamed condition hc)

end Sql

/-! ### Conditions on topics -/

open Sql

namespace Predicate

variable {predicate : Predicate}

/-- **What a substantial condition demands has no empty list.** -/
theorem Substantial.listed_demands (h : predicate.Substantial) :
    ∀ condition ∈ predicate.demands, condition.Listed := by
  cases predicate with
  | status wanted => cases wanted <;> simp [demands, Condition.Listed]
  | activelyPinned | bookmarkedBy => simp [demands, Condition.Listed, memberIs]
  | levelIn actor levels =>
      rw [demands]
      split
      · simp [Condition.Listed]
      · next he =>
        have hlevels := mt RankedSet.toList_eq_nil_iff.1 (mt RankedSet.isEmpty_iff_eq_empty.2 he)
        simp [Condition.Listed, memberIs, hlevels]
  | categoryIn ids =>
      rw [demands, if_neg (mt RankedSet.isEmpty_iff_eq_empty.1 h)]
      exact List.forall_mem_singleton.2 (idParams_ne_nil h)
  | taggedWithAll | taggedWithAny => exact fun _ hc => absurd hc List.not_mem_nil
  | missingSomeTag joins => exact List.forall_mem_singleton.2 (mt List.map_eq_nil_iff.1 h.1)
  | taggedWithNone tags => exact List.forall_mem_singleton.2 (idParams_ne_nil h)

/-- The joins of a substantial condition are for some tags. -/
theorem Substantial.tags_ne_empty (h : predicate.Substantial) :
    ∀ group ∈ predicate.joins, group.tags ≠ ∅ := by
  cases predicate with
  | taggedWithAll groups | missingSomeTag groups => exact h.2
  | taggedWithAny group => exact List.forall_mem_singleton.2 h
  | _ => exact fun _ hg => absurd hg List.not_mem_nil

theorem Substantial.listed_links (h : predicate.Substantial) {join : Join}
    (hjoin : join ∈ predicate.links) : ∀ condition ∈ join.conditions, condition.Listed := by
  rcases List.mem_append.1 hjoin with hshared | htaggings
  · rcases eq_of_shared? (Option.mem_toList.1 hshared) with rfl | rfl <;>
      simp [memberJoin, categoryJoin, matching, Condition.Listed]
  · obtain ⟨kind, group, hgroup, rfl⟩ := exists_of_mem_taggings htaggings
    simp [taggingJoin, matching, Condition.Listed, idParams_ne_nil (h.tags_ne_empty group hgroup)]

variable (hlabels : ∀ group ∈ predicate.joins, Bare group.label)
include hlabels

theorem Names.bare {column : Column} (hn : predicate.Names column) : column.Bare := by
  cases hn with
  | table hcolumn =>
      have hall : ∀ column ∈ columns, column.Bare := by decide
      exact hall column hcolumn
  | label hg hn =>
      have hall : ∀ name ∈ ["topic_id", "tag_id"], Bare name := by decide
      exact Column.bare_iff.2 ⟨hlabels _ hg, hall _ hn⟩

/-- **A substantial condition joins by sealed texts.** -/
theorem Substantial.sealed_links (h : predicate.Substantial) {join : Join}
    (hjoin : join ∈ predicate.links) : Sealed join.render.text := by
  have hnames : (Bare join.table) ∧ ∀ label ∈ join.label, Bare label := by
    rcases List.mem_append.1 hjoin with hshared | htaggings
    · rcases eq_of_shared? (Option.mem_toList.1 hshared) with rfl | rfl
      · exact ⟨by decide, nofun⟩
      · exact ⟨by decide, nofun⟩
    · obtain ⟨kind, group, hgroup, rfl⟩ := exists_of_mem_taggings htaggings
      have htable : Bare "topic_tags" := by decide
      exact ⟨htable, fun label hl => Option.some.inj hl ▸ hlabels group hgroup⟩
  exact Join.sealed_render hnames.1 hnames.2 (h.listed_links hjoin) fun _ hc _ hcolumn =>
    (names_of_mem_links hjoin hc hcolumn).bare hlabels

/-- **A substantial condition demands sealed texts.** -/
theorem Substantial.sealed_demands (h : predicate.Substantial) :
    ∀ condition ∈ predicate.demands, Sealed condition.render.text :=
  fun condition hc => Condition.sealed_render (h.listed_demands condition hc)
    fun _ hcolumn => (names_of_mem_demands hc hcolumn).bare hlabels

end Predicate

/-- **The statement of substantial conditions is sealed.** -/
theorem sealed_statement {filter : Filter}
    (hsubstantial : ∀ predicate ∈ filter.predicates, predicate.Substantial)
    (hlabels : ∀ label ∈ labels filter.predicates, Bare label) :
    Sealed (Draft.ofFilter filter).statement.text := by
  have hgroups : ∀ predicate ∈ filter.predicates, ∀ group ∈ predicate.joins, Bare group.label :=
    fun predicate hp group hg =>
      hlabels _ (List.mem_map_of_mem (List.mem_flatMap.2 ⟨predicate, hp, hg⟩))
  cases filter with
  | nothing => exact (by decide : Sealed "SELECT topics.* FROM topics WHERE FALSE")
  | chain predicates =>
      refine Select.render_induction (P := fun fragment => Sealed fragment.text) Sealed.append
        (by decide) (fun join hj => ?_) fun condition hc => ?_
      · rw [Draft.joins_select_chain, Draft.mem_joinsOf_iff] at hj
        obtain ⟨predicate, hp, hlink⟩ := hj
        exact (hsubstantial predicate hp).sealed_links (hgroups predicate hp) hlink
      · rw [Draft.select_chain] at hc
        rcases List.mem_append.1 hc with hc | hc
        · have hdeleted : Sealed (Condition.isNull false (topics "deleted_at")).render.text := by
            decide
          split at hc
          · exact absurd hc List.not_mem_nil
          · rwa [List.mem_singleton.1 hc]
        · obtain ⟨predicate, hp, hc⟩ := List.mem_flatMap.1 hc
          exact (hsubstantial predicate hp).sealed_demands (hgroups predicate hp) condition hc

/-! ### Compiled queries -/

/-- A numbered label has no bracket in it. -/
theorem Numbered.bare {label : String} (h : Numbered label) : Bare label := by
  obtain ⟨digits, -, hdigits, hlabel⟩ := h
  have hnot : ∀ c : Char, c ∉ "tags_".toList → c.isDigit = false → c ∉ label.toList := by
    intro c hc hdigit hmem
    rw [hlabel, List.mem_append] at hmem
    rcases hmem with hmem | hmem
    · exact hc hmem
    · simp [hdigits c hmem] at hdigit
  exact ⟨hnot '(' (by decide) (by decide), hnot ')' (by decide) (by decide)⟩

/-- A filter that every sink can take: no condition asks for one of nothing, and no list in the
statement of the filter is empty. -/
structure Filter.WellFormed (filter : Filter) : Prop where
  substantial : ∀ predicate ∈ filter.predicates, predicate.Substantial
  filled : ¬ "()".toList <:+: (Draft.ofFilter filter).statement.text.toList

/-- **What a query compiles to is well-formed**, whatever the site answers, also where its answers
change from one token to the next. -/
theorem compile_wellFormed (query : String) :
    (∀ context : Context, (context.compile query).value.WellFormed) ∧
      ∀ contexts : Token → Context, (compileAcross contexts query).WellFormed := by
  have hacross : ∀ contexts : Token → Context, (compileAcross contexts query).WellFormed := by
    intro contexts
    have hsubstantial := substantial_of_mem_compileAcross contexts query
    have hlabels := numbered_of_mem_labels_compileAcross contexts query
    have hsealed := sealed_statement hsubstantial fun label hl => (hlabels label hl).bare
    exact ⟨hsubstantial, hsealed.filled⟩
  refine ⟨fun context => ?_, hacross⟩
  rw [← compileAcross_const]
  exact hacross fun _ => context

end ForumQuery
