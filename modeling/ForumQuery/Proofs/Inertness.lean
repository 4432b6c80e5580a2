import ForumQuery.Directory
import ForumQuery.Directory.Permissions
import ForumQuery.Proofs.Exchange
import ForumQuery.Proofs.Matching
import ForumQuery.Proofs.Narrowing
import ForumQuery.Proofs.Parts

/-!
# Inertness — what says nothing changes nothing

A query lets everything pass if and only if all its tokens are inert
(`Context.value_compile_eq_everything_iff`).  Inert contributions take no label and open no scope,
so they can be left out wherever they stand (`Context.value_compile_drop_inert`).

A token is *idle* if there is no such key, if its flag means nothing for the key, or if its value
cannot be read (`Query.Token.Idle`).  A run of a query is *mute* if it has not the form of a token
or is an idle one; a query of mute runs lets everything pass, and whatever lets everything pass can
be cut out of a query (`narrow_ignores_mute`).
-/

namespace ForumQuery

open Query Contribution Text

/-! ### Inert contributions -/

namespace Contribution

/-- A contribution that adds no condition and no scope, and does not collapse, is inert. -/
theorem eq_inert {contribution : Contribution} (hcollapse : contribution ≠ .collapse) {first : Nat}
    (hcondition : contribution.condition? first = none) (hscope : contribution.scope? = none) :
    contribution = .inert := by
  cases contribution with
  | inert => rfl
  | collapse => exact absurd rfl hcollapse
  | condition _ | everyGroup _ | notEveryGroup _ | someTag _ => cases hcondition
  | scope _ => cases hscope

theorem condition?_eq_none_of_conditionsFrom {first : Nat} {contributions : List Contribution}
    (h : conditionsFrom first contributions = []) {contribution : Contribution}
    (hc : contribution ∈ contributions) : ∃ number, contribution.condition? number = none := by
  induction contributions generalizing first with
  | nil => exact absurd hc List.not_mem_nil
  | cons head rest ih =>
      obtain ⟨hhead, hrest⟩ := List.append_eq_nil_iff.1 h
      rcases List.mem_cons.1 hc with rfl | hc
      · exact ⟨first, Option.toList_eq_nil_iff.1 hhead⟩
      · exact ih hrest hc

/-- Contributions that end as no condition are inert, if none collapses. -/
theorem eq_inert_of_predicates_eq_nil {contributions : List Contribution}
    (hcollapse : .collapse ∉ contributions) (h : predicates contributions = []) :
    ∀ contribution ∈ contributions, contribution = .inert := by
  obtain ⟨hconditions, hscopes⟩ := List.append_eq_nil_iff.1 h
  intro contribution hc
  obtain ⟨number, hnumber⟩ := condition?_eq_none_of_conditionsFrom hconditions hc
  refine eq_inert (fun e => hcollapse (e ▸ hc)) hnumber ?_
  -- a scope that was registered would have left one of its kind
  cases hs : contribution.scope? with
  | none => rfl
  | some scope =>
      obtain ⟨left, hleft, -⟩ :=
        (exists_registers_iff scope.kind).1 ⟨contribution, hc, scope, hs, rfl⟩
      rw [List.map_eq_nil_iff.1 hscopes] at hleft
      exact absurd hleft List.not_mem_nil

end Contribution

/-! ### Inert tokens -/

namespace Context

variable {context : Context}

/-- **A query lets everything pass if and only if all its tokens are inert.** -/
theorem value_compile_eq_everything_iff {query : String} :
    (context.compile query).value = .everything ↔
      ∀ contribution ∈ context.yields query, contribution = .inert := by
  constructor
  · intro h
    have hcollapse : .collapse ∉ context.yields query := by
      intro hc
      rw [value_compile_eq_nothing_iff.2 hc] at h
      cases h
    rw [value_compile hcollapse] at h
    exact eq_inert_of_predicates_eq_nil hcollapse (Filter.chain.inj h)
  · intro h
    have hcollapse : .collapse ∉ context.yields query := fun hc => by cases h _ hc
    have hequivalent : Equivalent (context.yields query) [] :=
      equivalent_of_inert h fun _ hc => absurd hc List.not_mem_nil
    rw [value_compile hcollapse, predicates, hequivalent.conditions hcollapse,
      hequivalent.scopes hcollapse]
    rfl

/-- Inert tokens can be left out of a query. -/
theorem value_compile_drop_inert {first second : String} {before idle after : List Contribution}
    (hfirst : context.yields first = before ++ idle ++ after)
    (hsecond : context.yields second = before ++ after)
    (h : ∀ contribution ∈ idle, contribution = .inert) :
    (context.compile first).value = (context.compile second).value := by
  have hequivalent : Equivalent idle [] :=
    equivalent_of_inert h fun _ hc => absurd hc List.not_mem_nil
  refine value_compile_eq_of_equivalent hequivalent hfirst ?_
  rw [hsecond, List.append_nil]

end Context

/-! ### Idle tokens -/

namespace Clause

theorem ofTags?_eq_none {flag : Option Flag} {value : String}
    (h : ∀ list, ¬ ValueList.Written [.comma, .plus] isTagChar value.toList list) :
    ofTags? flag value = none := by
  rw [ofTags?, Option.eq_none_iff_forall_ne_some.2 fun list hlist =>
    h list (ValueList.parse?_eq_some_iff.1 hlist)]
  split <;> rfl

theorem ofCategories?_eq_none {flag : Option Flag} {value : String}
    (h : ∀ list, ¬ ValueList.Written [.comma] isSlugChar value.toList list) :
    ofCategories? flag value = none := by
  rw [ofCategories?, Option.eq_none_iff_forall_ne_some.2 fun list hlist =>
    h list (ValueList.parse?_eq_some_iff.1 hlist)]
  split <;> rfl

end Clause

namespace Query.Token

/-- A token that is no clause. -/
inductive Idle : Token → Prop where
  /-- no such key -/
  | key {token : Token} (h : token.key ∉ ["in", "status", "tags", "category", "categories"]) :
      Idle token
  /-- `=tags:` -/
  | strict {token : Token} (hkey : token.key = "tags") (h : token.flag = some .strict) : Idle token
  /-- `-category:` -/
  | exclude {token : Token} (hkey : token.key = "category" ∨ token.key = "categories")
      (h : token.flag = some .exclude) : Idle token
  /-- no list of tag names -/
  | tags {token : Token} (hkey : token.key = "tags")
      (h : ∀ list, ¬ ValueList.Written [.comma, .plus] Clause.isTagChar token.value.toList list) :
      Idle token
  /-- no list of slugs -/
  | slugs {token : Token} (hkey : token.key = "category" ∨ token.key = "categories")
      (h : ∀ list, ¬ ValueList.Written [.comma] Clause.isSlugChar token.value.toList list) :
      Idle token
  /-- commas and pluses in one list -/
  | mixed {token : Token} (hkey : token.key ∈ ["tags", "category", "categories"])
      (hcomma : ',' ∈ token.value.toList) (hplus : '+' ∈ token.value.toList) : Idle token
  /-- no such status -/
  | status {token : Token} (hkey : token.key = "status")
      (h : ∀ wanted : Status, wanted.name ≠ token.value) : Idle token

/-- No list of tag names or slugs has a comma and a plus in it. -/
theorem not_written_of_mixed {value : List Char} (hcomma : ',' ∈ value) (hplus : '+' ∈ value)
    (list : ValueList) : ¬ ValueList.Written [.comma, .plus] Clause.isTagChar value list ∧
      ¬ ValueList.Written [.comma] Clause.isSlugChar value list := by
  refine ⟨fun h => ?_, fun h => ?_⟩
  · rcases h.of_mem hcomma with ⟨s, -, hs, hseparator⟩ | ⟨halphabet, -⟩
    · rcases h.of_mem hplus with ⟨t, -, ht, hseparator'⟩ | ⟨halphabet, -⟩
      · rw [hseparator, Option.some.injEq] at hseparator'
        rw [← hseparator', hs] at ht
        cases ht
      · cases halphabet
    · cases halphabet
  · rcases h.of_mem hplus with ⟨s, hs, hchar, -⟩ | ⟨halphabet, -⟩
    · rw [List.mem_singleton.1 hs] at hchar
      cases hchar
    · cases halphabet

/-- **An idle token is no clause.** -/
theorem Idle.ofToken?_eq_none {token : Token} (h : token.Idle) : Clause.ofToken? token = none := by
  rw [Clause.ofToken?]
  cases h with
  | key h =>
      simp only [List.mem_cons, List.not_mem_nil, or_false, not_or] at h
      obtain ⟨hin, hstatus, htags, hcategory, hcategories⟩ := h
      split <;> first | contradiction | rfl
  | strict hkey h => simp [hkey, h, Clause.ofTags?]
  | exclude hkey h => rcases hkey with hkey | hkey <;> simp [hkey, h, Clause.ofCategories?]
  | tags hkey h => simp [hkey, Clause.ofTags?_eq_none h]
  | slugs hkey h => rcases hkey with hkey | hkey <;> simp [hkey, Clause.ofCategories?_eq_none h]
  | mixed hkey hcomma hplus =>
      have hnot := not_written_of_mixed hcomma hplus
      simp only [List.mem_cons, List.not_mem_nil, or_false] at hkey
      rcases hkey with hkey | hkey | hkey
      · simp [hkey, Clause.ofTags?_eq_none fun list => (hnot list).1]
      · simp [hkey, Clause.ofCategories?_eq_none fun list => (hnot list).2]
      · simp [hkey, Clause.ofCategories?_eq_none fun list => (hnot list).2]
  | status hkey h =>
      have hnone : Status.ofName? token.value = none :=
        Option.eq_none_iff_forall_ne_some.2 fun wanted hw => h wanted (Status.name_of_ofName? hw)
      simp [hkey, hnone]

/-- A run that is no clause. -/
inductive Mute : List Char → Prop where
  /-- not of the form of a token -/
  | malformed {run : List Char} (h : ¬ Form run) : Mute run
  /-- the spelling of an idle token -/
  | idle {token : Token} (hwell : token.WellFormed) (h : token.Idle) : Mute token.spelling

/-- What is written can be read off the spelling. -/
theorem WellFormed.written_eq {first second : Token} (hfirst : first.WellFormed)
    (hsecond : second.WellFormed) (h : first.spelling = second.spelling) :
    first.written = second.written := by
  have hread : ofChunk? ⟨first.position, second.spelling⟩ = some first :=
    ofChunk?_eq_some_iff.2 ⟨hfirst, h, rfl⟩
  have hread' : ofChunk? ⟨second.position, second.spelling⟩ = some second :=
    ofChunk?_eq_some_iff.2 ⟨hsecond, rfl, rfl⟩
  have hposition := ofChunk?_position ⟨second.position, second.spelling⟩ first.position
  rw [hread', hread, Option.map_some, Option.some.injEq] at hposition
  rw [hposition]
  rfl

/-- **A token of a mute run adds nothing.** -/
theorem Mute.yield_eq_inert (context : Context) {token : Token} (hwell : token.WellFormed)
    (hsolid : ∀ c ∈ token.spelling, isBlank c = false) (h : Mute token.spelling) :
    context.yield token = .inert := by
  generalize hrun : token.spelling = run at h
  cases h with
  | malformed h => exact absurd ((form_iff hsolid).2 ⟨token, hwell, rfl⟩) (hrun ▸ h)
  | @idle other hother h =>
      rw [context.yield_eq_of_written_eq (hwell.written_eq hother hrun), Context.yield,
        Context.contribution, h.ofToken?_eq_none]
      rfl

end Query.Token

/-- **What says nothing can be cut out of a query**, and a query of mute runs says nothing. -/
theorem narrow_ignores_mute (context : Context) :
    (∀ base first idle last gap gap' gap'', IsGap gap → IsGap gap' → IsGap gap'' →
      (context.compile idle).value = .everything →
      (context.narrow base (first ++ gap ++ idle ++ gap' ++ last)).value =
        (context.narrow base (first ++ gap'' ++ last)).value) ∧
      ∀ idle : String, (∀ before run after, IsRun idle.toList before run after → Token.Mute run) →
        (context.compile idle).value = .everything := by
  refine ⟨fun base first idle last gap gap' gap'' hgap hgap' hgap'' h => ?_, fun idle h => ?_⟩
  · rw [context.value_narrow_eq_meet, context.value_narrow_eq_meet]
    refine congrArg base.meet (Context.value_compile_drop_inert
      ?_ (Context.yields_gap hgap'' first last) (Context.value_compile_eq_everything_iff.1 h))
    rw [Context.yields_gap hgap', Context.yields_gap hgap]
  · refine Context.value_compile_eq_everything_iff.2 fun contribution hc => ?_
    obtain ⟨token, htoken, rfl⟩ := List.mem_map.1 hc
    obtain ⟨hwell, before, after, hrun, -⟩ := Token.mem_scan_iff.1 htoken
    exact (h _ _ _ hrun).yield_eq_inert context hwell hrun.solid

/-- Tags that are not there are cut out from between two that are, and so is a flag out of place. -/
theorem narrow_ignores_mute_between :
    let context : Context := ⟨({} : Permissions).guardian,
      ((∅ : Directory).addTag "a" ⟨1⟩ none none).resolver, true, ⟨0, 0, by decide, by decide⟩⟩
    (IsGap " " ∧ (context.compile "tags:x,y").value = .everything ∧
      (context.narrow (.chain [.status .ongoing])
          ("tags:a" ++ " " ++ "tags:x,y" ++ " " ++ "tags:a")).value =
        (context.narrow (.chain [.status .ongoing]) ("tags:a" ++ " " ++ "tags:a")).value) ∧
    (∀ before run after, IsRun "=tags:a".toList before run after → Token.Mute run) ∧
      (context.compile "=tags:a").value = .everything := by
  intro context
  have hgap : IsGap " " := ⟨by decide, List.all_eq_true.1 (by decide)⟩
  have hidle : (context.compile "tags:x,y").value = .everything := by decide +kernel
  have hmute : ∀ before run after, IsRun "=tags:a".toList before run after → Token.Mute run := by
    intro before run after hrun
    have hchunk : ⟨byteLength before, run⟩ ∈ chunks 0 "=tags:a".toList :=
      mem_chunks_iff.2 ⟨before, after, hrun, (Nat.zero_add _).symm⟩
    rw [show chunks 0 "=tags:a".toList = [⟨0, "=tags:a".toList⟩] by decide +kernel,
      List.mem_singleton, Chunk.mk.injEq] at hchunk
    have hwell : (⟨some .strict, "tags", "a", 0⟩ : Token).WellFormed :=
      ⟨by decide, List.all_eq_true.1 (by decide +kernel), by decide⟩
    rw [hchunk.2]
    exact .idle hwell (.strict rfl rfl)
  have hall := narrow_ignores_mute context
  exact ⟨⟨hgap, hidle, hall.1 _ _ _ _ _ _ _ hgap hgap hgap hidle⟩, hmute, hall.2 _ hmute⟩

end ForumQuery
