import ForumQuery.Directory.Permissions
import ForumQuery.Proofs.Directory.Groups
import ForumQuery.Proofs.Matching
import ForumQuery.Proofs.Rows

/-!
# Casing — the case of letters in the names of tags

Names of tags are told apart with the case of their letters when a list is cleared of what stands in
it twice, and without it when a directory looks for them.  So `tags:a+A` names two tags where
`tags:a+a` names one: there are two groups, two joins, and the labels behind them are other ones.
But both groups are the tag of `a`, and to ask for the same group twice is to ask for it once
(`Contribution.askAlike_ofGroups`).

So a clause asks for the same, in whatever case its names are written: it has the same separator,
since no letter is one (`Clause.preserves_toLower`), and it names the same tags but for the case of
their letters (`Clause.ofTags?_of_toLower_eq`); and those are the same for a directory
(`Directory.named_congr`).  Then a query matches the same topics (`Directory.compile_respelt`).
-/

namespace ForumQuery

open Query Contribution Text

/-! ### Lists of names -/

/-- What relates each character to itself, and those of ASCII to their lower case, relates every
character to its lower case. -/
theorem Text.forall_toLower (P : Char → Char → Prop) (hself : ∀ c, P c c)
    (hascii : ∀ n < 128, P (Char.ofNat n) (Char.ofNat n).toLower) (c : Char) : P c c.toLower := by
  by_cases hc : c.toNat < 128
  · exact forall_ascii (fun c => P c c.toLower) hascii hc
  · -- only the letters from `A` to `Z` change
    have hupper : ¬ (c.val ≥ 'A'.val ∧ c.val ≤ 'Z'.val) := fun h =>
      hc (Nat.lt_of_le_of_lt (UInt32.le_iff_toNat_le.1 h.2) (by decide))
    have hsame : c.toLower = c := dif_neg hupper
    rw [hsame]
    exact hself c

namespace Clause

/-- A letter stays a letter, and no other character becomes one or a separator. -/
theorem preserves_toLower : ValueList.Preserves [.comma, .plus] isTagChar Char.toLower where
  alphabet := forall_toLower (fun c lower => isTagChar lower = isTagChar c) (fun _ => rfl)
    (by decide +kernel)
  separators s _ := by
    refine forall_toLower (fun c lower => lower = s.char ↔ c = s.char) (fun _ => .rfl) ?_
    cases s <;> decide +kernel

/-- Two lists hold the same names, but for the case of their letters. -/
def SameNames (first second : List String) : Prop :=
  ∀ name, name ∈ first.map String.toLower ↔ name ∈ second.map String.toLower

/-- **Lists of tags in different case** are read alike: neither is one, or they say the same of
names that are the same but for their case. -/
theorem ofTags?_of_toLower_eq {first second : String} (h : first.toLower = second.toLower)
    (flag : Option Flag) :
    (ofTags? flag first = none ∧ ofTags? flag second = none) ∨
      ∃ names others mode exclude, ofTags? flag first = some (tags names mode exclude) ∧
        ofTags? flag second = some (tags others mode exclude) ∧ SameNames names others ∧
        (∀ name ∈ names, NameOver isTagChar name) ∧ ∀ other ∈ others, NameOver isTagChar other := by
  by_cases hflag : flag = some .strict
  · exact .inl ⟨if_pos hflag, if_pos hflag⟩
  have hlower : ∀ raw : String, ValueList.parse? [.comma, .plus] isTagChar raw.toLower =
      (ValueList.parse? [.comma, .plus] isTagChar raw).map (ValueList.map Char.toLower) :=
    ValueList.parse?_map preserves_toLower
  have hread := hlower first
  rw [h, hlower second] at hread
  simp only [ofTags?, if_neg hflag]
  cases hfirst : ValueList.parse? [.comma, .plus] isTagChar first with
  | none =>
      rw [hfirst, Option.map_none, Option.map_eq_none_iff] at hread
      exact .inl ⟨rfl, by rw [hread]; rfl⟩
  | some list =>
      rw [hfirst, Option.map_some, Option.map_eq_some_iff] at hread
      obtain ⟨other, hsecond, hlists⟩ := hread
      obtain ⟨hitems, hseparator⟩ := ValueList.mk.inj hlists
      refine .inr ⟨list.items.eraseDups, other.items.eraseDups, .ofSeparator list.separator,
        flag = some .exclude, rfl, by rw [hsecond, Option.map_some, hseparator], fun name => ?_,
        fun name hname => ?_, fun name hname => ?_⟩
      · simp only [List.mem_map, List.mem_eraseDups]
        rw [← List.mem_map, ← List.mem_map]
        exact hitems ▸ Iff.rfl
      · exact .of_parse? hfirst (List.mem_eraseDups.1 hname)
      · exact .of_parse? hsecond (List.mem_eraseDups.1 hname)

end Clause

/-! ### Groups -/

/-- **What groups of tags ask for** depends on which groups there are, not on their order or on how
often one of them stands. -/
theorem Contribution.askAlike_ofGroups {first second : List (RankedSet TagId)}
    (h : ∀ tags, tags ∈ first ↔ tags ∈ second) (mode : MatchMode) (exclude : Bool) :
    AskAlike (ofGroups first mode exclude) (ofGroups second mode exclude) := by
  cases mode with
  | any =>
      have hunion : first.foldl (· ∪ ·) ∅ = second.foldl (· ∪ ·) ∅ := by
        refine RankedSet.ext fun tag => ?_
        simp only [RankedSet.mem_foldl_union, h]
      rw [ofGroups, ofGroups, hunion]
      exact .refl _
  | all =>
      by_cases hempty : ∃ tags ∈ first, tags.isEmpty = true
      · obtain ⟨tags, htags, hnone⟩ := hempty
        rw [ofGroups_of_isEmpty htags hnone, ofGroups_of_isEmpty ((h tags).1 htags) hnone]
        exact .refl _
      · have hother : ¬ ∃ tags ∈ second, tags.isEmpty = true := by simpa only [h] using hempty
        rw [ofGroups_of_not_isEmpty hempty, ofGroups_of_not_isEmpty hother]
        cases exclude with
        | false =>
            refine ⟨by simp, rfl, fun topic => ?_⟩
            simp only [Bool.false_eq_true, if_false, condition?, Option.mem_some_iff, forall_eq',
              Predicate.holds_taggedWithAll_joinsFrom, h]
        | true =>
            refine ⟨by simp, rfl, fun topic => ?_⟩
            simp only [if_true, condition?, Option.mem_some_iff, forall_eq',
              Predicate.holds_missingSomeTag_joinsFrom, h]

namespace Directory

variable {directory : Directory} {guardian : Guardian} {taggingEnabled : Bool} {now : Instant}

/-- Names that are the same but for their case stand for the same tags. -/
theorem named_congr {first second : String} (hfirst : NameOver Clause.isTagChar first)
    (hsecond : NameOver Clause.isTagChar second) (h : first.toLower = second.toLower) :
    directory.named guardian first = directory.named guardian second := by
  have hlower : lowercase first = lowercase second := by
    rw [hfirst.lowercase_eq, hsecond.lowercase_eq, h]
  rw [named, named, tag?_congr hlower]
  rfl

theorem mem_map_named_of_sameNames {names others : List String}
    (h : Clause.SameNames names others) (hnames : ∀ name ∈ names, NameOver Clause.isTagChar name)
    (hothers : ∀ other ∈ others, NameOver Clause.isTagChar other) {tags : RankedSet TagId}
    (ht : tags ∈ names.map (directory.named guardian)) :
    tags ∈ others.map (directory.named guardian) := by
  obtain ⟨name, hname, rfl⟩ := List.mem_map.1 ht
  obtain ⟨other, hother, hlower⟩ := List.mem_map.1 ((h name.toLower).1 (List.mem_map_of_mem hname))
  refine List.mem_map.2 ⟨other, hother, ?_⟩
  exact named_congr (hothers other hother) (hnames name hname) hlower

/-- A clause for tags asks for the same under names that are the same but for their case. -/
theorem askAlike_contribution_tags {names others : List String} (hne : names ≠ [])
    (hne' : others ≠ []) (h : Clause.SameNames names others)
    (hnames : ∀ name ∈ names, NameOver Clause.isTagChar name)
    (hothers : ∀ other ∈ others, NameOver Clause.isTagChar other) (mode : MatchMode)
    (exclude : Bool) :
    let context := directory.context guardian taggingEnabled now
    AskAlike ((Clause.tags names mode exclude).contribution context).value
      ((Clause.tags others mode exclude).contribution context).value := by
  intro context
  rw [value_contribution_tags_context hne hnames, value_contribution_tags_context hne' hothers]
  split
  · refine askAlike_ofGroups (fun tags => ⟨?_, ?_⟩) mode exclude
    · exact mem_map_named_of_sameNames h hnames hothers
    · exact mem_map_named_of_sameNames (fun name => (h name).symm) hothers hnames
  · exact .refl _

end Directory

/-! ### Queries -/

/-- Two tokens with the same flag, key and value, but that the letters in the value of a clause for
tags may differ in case. -/
structure Query.Token.Respelt (first second : Token) : Prop where
  flag : first.flag = second.flag
  key : first.key = second.key
  value : first.value = second.value ∨
    first.key = "tags" ∧ first.value.toLower = second.value.toLower

namespace Directory

variable {directory : Directory} {guardian : Guardian} {taggingEnabled : Bool} {now : Instant}

/-- **A token asks for the same** in whatever case its names of tags are written. -/
theorem askAlike_yield {first second : Token} (h : first.Respelt second) :
    let context := directory.context guardian taggingEnabled now
    AskAlike (context.yield first) (context.yield second) := by
  intro context
  rcases h.value with hvalue | ⟨hkey, hlower⟩
  · have hwritten : first.written = second.written := by
      rw [Token.written, Token.written, h.flag, h.key, hvalue]
    rw [context.yield_eq_of_written_eq hwritten]
    exact .refl _
  · have hread : ∀ token : Token, token.key = "tags" →
        Clause.ofToken? token = Clause.ofTags? token.flag token.value := fun token hkey => by
      simp only [Clause.ofToken?, hkey]
    have hfirst := hread first hkey
    have hsecond := hread second (h.key.symm.trans hkey)
    rw [← h.flag] at hsecond
    rcases Clause.ofTags?_of_toLower_eq hlower first.flag with
      ⟨hnone, hnone'⟩ | ⟨names, others, mode, exclude, hsome, hsome', hsame, hnames, hothers⟩
    · rw [Context.yield, Context.yield, Context.contribution, Context.contribution, hfirst, hsecond,
        hnone, hnone']
      exact .refl _
    · rw [context.yield_of_ofToken? (hfirst.trans hsome),
        context.yield_of_ofToken? (hsecond.trans hsome')]
      exact askAlike_contribution_tags (Clause.listed_of_ofToken? (hfirst.trans hsome))
        (Clause.listed_of_ofToken? (hsecond.trans hsome')) hsame hnames hothers mode exclude

end Directory

/-- **The case of the letters in names of tags does not matter** to a directory.  Queries with the
same tokens, but for the case of letters in the values of clauses for tags, match the same topics,
and nothing passes one if and only if nothing passes the other. -/
theorem Directory.compile_respelt (directory : Directory) (guardian : Guardian)
    (taggingEnabled : Bool) (now : Instant) {first second : String}
    (h : List.Forall₂ Token.Respelt (Token.scan first) (Token.scan second)) :
    let context := directory.context guardian taggingEnabled now
    ((context.compile first).value = .nothing ↔ (context.compile second).value = .nothing) ∧
      ∀ topic, (context.compile first).value.Passes topic ↔
        (context.compile second).value.Passes topic := by
  intro context
  refine Context.passes_compile_of_askAlike ?_
  rw [Context.yields, Context.yields, List.forall₂_map_left_iff, List.forall₂_map_right_iff]
  exact h.imp fun _ _ hrespelt => askAlike_yield hrespelt

/-- Two names in one clause, and one name twice. -/
theorem Directory.compile_respelt_twice :
    let directory := (∅ : Directory).addTag "a" ⟨1⟩ (some ⟨9⟩) none
    let guardian := ({} : Permissions).guardian
    let now : Instant := ⟨0, 0, by decide, by decide⟩
    let context := directory.context guardian true now
    let first := "-tags:a+A status:closed"
    let second := "-tags:A+A  status:closed"
    List.Forall₂ Token.Respelt (Token.scan first) (Token.scan second) ∧
      ((context.compile first).value = .nothing ↔ (context.compile second).value = .nothing) ∧
      ∀ topic, (context.compile first).value.Passes topic ↔
        (context.compile second).value.Passes topic := by
  intro directory guardian now context first second
  have hfirst : Token.scan first =
      [⟨some .exclude, "tags", "a+A", 0⟩, ⟨none, "status", "closed", 10⟩] := by decide +kernel
  have hsecond : Token.scan second =
      [⟨some .exclude, "tags", "A+A", 0⟩, ⟨none, "status", "closed", 11⟩] := by decide +kernel
  have hlower : "a+A".toLower = "A+A".toLower := toLower_eq_iff.2 (by decide +kernel)
  have h : List.Forall₂ Token.Respelt (Token.scan first) (Token.scan second) := by
    rw [hfirst, hsecond]
    exact .cons ⟨rfl, rfl, .inr ⟨rfl, hlower⟩⟩ (.cons ⟨rfl, rfl, .inl rfl⟩ .nil)
  exact ⟨h, directory.compile_respelt guardian true now h⟩

end ForumQuery
