import ForumQuery.Json.Filter
import ForumQuery.Proofs.Json.Reading
import ForumQuery.Proofs.Stamps

/-!
# Filters — the JSON of a filter loses nothing

Every value that a filter is written as can be read back (`Filter.plain_toJson`), so two filters
with one text are written as one value.  That value has all of the filter in it: the integer of
each identifier, the members of each set in ascending order, the stamp of each instant, and the
kind of each condition, which tells conditions with the same fields apart
(`Predicate.alike_of_kind`).  So the text has all of the filter in it as well
(`Filter.eq_of_text`).
-/

namespace ForumQuery

/-! ### Values of the same parts -/

namespace Json

theorem string_injective {s t : String} (h : string s = string t) : s = t := by
  injection h with h
  injection h with h
  injection h

theorem int_injective {m n : Int} (h : int m = int n) : m = n := by
  injection h with h
  injection h

theorem array_injective {α : Type} {f : α → Json} (hf : ∀ {a b}, f a = f b → a = b)
    {items others : List α} (h : array (items.map f) = array (others.map f)) : items = others := by
  injection h with h
  exact List.map_injective_iff.2 (fun _ _ => hf) h

theorem record_injective {fields others : List (String × Json)}
    (h : record fields = record others) : fields = others := by
  injection h with h
  refine List.map_injective_iff.2 ?_ h
  rintro ⟨name, value⟩ ⟨other, next⟩ ⟨⟩
  rfl

section Fields

variable {name other : String} {u v w x : Json}

theorem singleton_injective (h : [(name, u)] = [(name, v)]) : u = v :=
  (Prod.mk.inj (List.cons.inj h).1).2

theorem pair_injective (h : [(name, u), (other, v)] = [(name, w), (other, x)]) : u = w ∧ v = x :=
  ⟨(Prod.mk.inj (List.cons.inj h).1).2, singleton_injective (List.cons.inj h).2⟩

end Fields

end Json

/-! ### Identifiers and names -/

namespace RecordId

variable {kind : RecordKind}

theorem plain_toJson (id : RecordId kind) : id.toJson.Plain := Json.plain_int _

theorem toJson_injective {a b : RecordId kind} (h : a.toJson = b.toJson) : a = b :=
  toInt_injective (Json.int_injective h)

end RecordId

namespace RankedSet

variable {kind : RecordKind}

theorem plain_idsToJson (ids : RankedSet (RecordId kind)) : ids.idsToJson.Plain :=
  Json.plain_array RecordId.plain_toJson _

theorem idsToJson_injective {a b : RankedSet (RecordId kind)} (h : a.idsToJson = b.idsToJson) :
    a = b :=
  toList_injective (Json.array_injective RecordId.toJson_injective h)

end RankedSet

theorem Level.plain_toJson (level : Level) : level.toJson.Plain := Json.plain_string _

theorem Level.toJson_injective {a b : Level} (h : a.toJson = b.toJson) : a = b := by
  rw [← Option.some_inj, ← ofJson?_toJson, h, ofJson?_toJson]

theorem Status.toJson_injective {a b : Status} (h : a.toJson = b.toJson) : a = b := by
  rw [← Option.some_inj, ← ofJson?_toJson, h, ofJson?_toJson]

/-! ### Conditions -/

namespace TagJoin

theorem plain_fields (join : TagJoin) : ∀ field ∈ join.fields, field.2.Plain :=
  Json.plain_pair (Json.plain_string _) join.tags.plain_idsToJson

theorem fields_injective {a b : TagJoin} (h : a.fields = b.fields) : a = b := by
  obtain ⟨hlabel, htags⟩ := Json.pair_injective h
  cases a
  cases b
  congr
  · exact Json.string_injective hlabel
  · exact RankedSet.idsToJson_injective htags

theorem toJson_injective {a b : TagJoin} (h : a.toJson = b.toJson) : a = b :=
  fields_injective (Json.record_injective h)

theorem plain_joins (joins : List TagJoin) : (Json.array (joins.map toJson)).Plain :=
  Json.plain_array (fun join => Json.plain_record join.plain_fields) joins

end TagJoin

namespace Predicate

theorem plain_fields (predicate : Predicate) : ∀ field ∈ predicate.fields, field.2.Plain := by
  cases predicate with
  | status wanted => exact Json.plain_singleton (Json.plain_string _)
  | activelyPinned now => exact Json.plain_singleton (Json.plain_string _)
  | bookmarkedBy actor => exact Json.plain_singleton actor.plain_toJson
  | levelIn actor levels =>
      exact Json.plain_pair actor.plain_toJson
        (Json.plain_array Level.plain_toJson levels.toList)
  | categoryIn categories => exact Json.plain_singleton categories.plain_idsToJson
  | taggedWithAll joins => exact Json.plain_singleton (TagJoin.plain_joins joins)
  | taggedWithAny join => exact join.plain_fields
  | missingSomeTag joins => exact Json.plain_singleton (TagJoin.plain_joins joins)
  | taggedWithNone tags => exact Json.plain_singleton tags.plain_idsToJson

theorem plain_toJson (predicate : Predicate) : predicate.toJson.Plain :=
  Json.plain_record (List.forall_mem_cons.2 ⟨Json.plain_string _, predicate.plain_fields⟩)

/-- Two conditions of one kind. -/
inductive Alike : Predicate → Predicate → Prop
  | status (wanted wanted' : Status) : Alike (status wanted) (status wanted')
  | activelyPinned (now now' : Instant) : Alike (activelyPinned now) (activelyPinned now')
  | bookmarkedBy (actor actor' : ActorId) : Alike (bookmarkedBy actor) (bookmarkedBy actor')
  | levelIn (actor actor' : ActorId) (levels levels' : RankedSet Level) :
      Alike (levelIn actor levels) (levelIn actor' levels')
  | categoryIn (ids ids' : RankedSet CategoryId) : Alike (categoryIn ids) (categoryIn ids')
  | taggedWithAll (joins joins' : List TagJoin) : Alike (taggedWithAll joins) (taggedWithAll joins')
  | taggedWithAny (join join' : TagJoin) : Alike (taggedWithAny join) (taggedWithAny join')
  | missingSomeTag (joins joins' : List TagJoin) :
      Alike (missingSomeTag joins) (missingSomeTag joins')
  | taggedWithNone (tags tags' : RankedSet TagId) :
      Alike (taggedWithNone tags) (taggedWithNone tags')

/-- The word for the kind tells conditions apart that have the same fields. -/
theorem alike_of_kind {a b : Predicate} (h : a.kind = b.kind) : Alike a b := by
  -- two of different constructors have different words, so only the pairs of `Alike` are left
  cases a <;> cases b <;> simp [kind] at h <;> constructor

theorem toJson_injective {a b : Predicate} (h : a.toJson = b.toJson) : a = b := by
  obtain ⟨hkind, hfields⟩ := List.cons.inj (Json.record_injective h)
  cases alike_of_kind (Json.string_injective (Prod.mk.inj hkind).2) with
  | status wanted wanted' =>
      rw [Status.toJson_injective (Json.singleton_injective hfields)]
  | activelyPinned now now' =>
      rw [Instant.stamp_injective (Json.string_injective (Json.singleton_injective hfields))]
  | bookmarkedBy actor actor' =>
      rw [RecordId.toJson_injective (Json.singleton_injective hfields)]
  | levelIn actor actor' levels levels' =>
      obtain ⟨hactor, hlevels⟩ := Json.pair_injective hfields
      rw [RecordId.toJson_injective hactor,
        RankedSet.toList_injective (Json.array_injective Level.toJson_injective hlevels)]
  | categoryIn ids ids' =>
      rw [RankedSet.idsToJson_injective (Json.singleton_injective hfields)]
  | taggedWithAll joins joins' =>
      rw [Json.array_injective TagJoin.toJson_injective (Json.singleton_injective hfields)]
  | taggedWithAny join join' =>
      rw [TagJoin.fields_injective hfields]
  | missingSomeTag joins joins' =>
      rw [Json.array_injective TagJoin.toJson_injective (Json.singleton_injective hfields)]
  | taggedWithNone tags tags' =>
      rw [RankedSet.idsToJson_injective (Json.singleton_injective hfields)]

end Predicate

/-! ### Filters -/

namespace Filter

theorem plain_toJson (filter : Filter) : filter.toJson.Plain := by
  cases filter with
  | chain predicates =>
      have hchain := Json.plain_array Predicate.plain_toJson predicates
      exact Json.plain_record (Json.plain_singleton (Json.plain_record (Json.plain_singleton hchain)))
  | nothing => exact Json.plain_string "empty"

theorem toJson_injective {a b : Filter} (h : a.toJson = b.toJson) : a = b := by
  match a, b with
  | chain predicates, chain predicates' =>
      have hfilter := Json.singleton_injective (Json.record_injective h)
      have hpredicates := Json.singleton_injective (Json.record_injective hfilter)
      rw [Json.array_injective Predicate.toJson_injective hpredicates]
  | nothing, nothing => rfl

/-- **The text of a filter loses nothing**, whichever way it is printed. -/
theorem eq_of_text {a b : Filter}
    (h : a.toJson.compact = b.toJson.compact ∨ a.toJson.pretty = b.toJson.pretty) : a = b := by
  refine toJson_injective (Option.some.inj ?_)
  rcases h with hcompact | hpretty
  · rw [← a.plain_toJson.parse?_compact, hcompact, b.plain_toJson.parse?_compact]
  · rw [← a.plain_toJson.parse?_pretty, hpretty, b.plain_toJson.parse?_pretty]

/-- A set has one text, in whatever order its members were put in. -/
theorem eq_of_text_set :
    let now : Instant := { seconds := 0, nanos := 0 }
    let a := chain [.activelyPinned now, .taggedWithAny ⟨"a\"b", .ofList [⟨3⟩, ⟨1⟩, ⟨3⟩]⟩]
    let b := chain [.activelyPinned now, .taggedWithAny ⟨"a\"b", .ofList [⟨1⟩, ⟨3⟩]⟩]
    a.toJson.compact = b.toJson.compact ∧ a = b := by
  intro now a b
  have h : a.toJson.compact = b.toJson.compact := rfl
  exact ⟨h, eq_of_text (.inl h)⟩

end Filter

end ForumQuery
