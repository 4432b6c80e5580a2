import ForumQuery.Proofs.Tokens
import ForumQuery.Proofs.ValueLists
import ForumQuery.Proofs.Yield

/-!
# Parts — a query that is written in parts

A gap between two parts of a query keeps them apart, so its tokens are those of the parts
(`Query.Token.scan_gap`) and it yields what the parts yield alone (`Context.yields_gap`); and so
does one of many parts with a gap between each two (`Spaced`, `Context.yields_spaced`).  A part that is the text of a clause is read as that clause
(`Query.Token.scan_clauseText`) and yields what the clause adds (`Context.yields_clauseText`).
-/

namespace ForumQuery

open Query Text

/-! ### Texts -/

/-- What can stand between two parts of a query: a blank at least, and nothing but blanks. -/
structure IsGap (gap : String) : Prop where
  ne_empty : gap ≠ ""
  blank : ∀ c ∈ gap.toList, isBlank c = true

/-- A query in its parts, with a gap between each two. -/
inductive Spaced : List String → String → Prop where
  | single (part : String) : Spaced [part] part
  | cons {gap : String} {parts : List String} {rest : String} (part : String) (hgap : IsGap gap)
      (h : Spaced parts rest) : Spaced (part :: parts) (part ++ gap ++ rest)

/-- A text with a character in it, and no blank. -/
structure Solid (text : String) : Prop where
  ne_empty : text ≠ ""
  solid : ∀ c ∈ text.toList, isBlank c = false

instance (text : String) : Decidable (Solid text) :=
  decidable_of_iff (text ≠ "" ∧ text.toList.all inChunk = true)
    ⟨fun h => ⟨h.1, fun c hc => inChunk_iff.1 (List.all_eq_true.1 h.2 c hc)⟩,
      fun h => ⟨h.ne_empty, List.all_eq_true.2 fun c hc => inChunk_iff.2 (h.solid c hc)⟩⟩

/-- Texts that are solid make one with a character between each two. -/
theorem solid_intercalate {between : String} {c : Char} (hbetween : between.toList = [c])
    (hc : isBlank c = false) {texts : List String} (hne : texts ≠ [])
    (h : ∀ text ∈ texts, Solid text) : Solid (between.intercalate texts) := by
  have htext : (between.intercalate texts).toList =
      List.intercalate [c] (texts.map String.toList) := by
    rw [String.toList_intercalate, hbetween]
  obtain ⟨first, rest, rfl⟩ := List.exists_cons_of_ne_nil hne
  constructor
  case ne_empty =>
    have hfirst := mt String.toList_eq_nil_iff.1 (h first List.mem_cons_self).ne_empty
    refine mt String.toList_eq_nil_iff.2 ?_
    rw [htext]
    cases rest <;> simp [List.intercalate_cons_cons, hfirst]
  case solid =>
    intro d hd
    rw [htext] at hd
    rcases ValueList.mem_of_mem_intercalate hd with rfl | ⟨item, hitem, hd⟩
    · exact hc
    · obtain ⟨text, ht, rfl⟩ := List.mem_map.1 hitem
      exact (h text ht).solid d hd

namespace Query.Token

/-- Blanks alone are no token. -/
theorem scan_blank {text : String} (h : ∀ c ∈ text.toList, isBlank c = true) : scan text = [] := by
  rw [scan, chunks_eq_nil 0 h, List.filterMap_nil]

/-- **A gap cuts a scan in two**, and what is behind it stands where it stood. -/
theorem scan_gap {gap : String} (h : IsGap gap) (first second : String) :
    scan (first ++ gap ++ second) =
      scan first ++ (scan second).map (shift (first ++ gap).utf8ByteSize) := by
  have hhead : ∀ c ∈ gap.toList.head?, isBlank c = true :=
    fun c hc => h.blank c (List.mem_of_mem_head? hc)
  have hlast : ∀ c ∈ (first ++ gap).toList.getLast?, isBlank c = true := by
    intro c hc
    rw [String.toList_append, List.getLast?_append_of_ne_nil _
      (mt String.toList_eq_nil_iff.1 h.ne_empty)] at hc
    exact h.blank c (List.mem_of_getLast? hc)
  rw [scan_append (.inl hlast), scan_append (.inr hhead), scan_blank h.blank, List.map_nil,
    List.append_nil]

end Query.Token

/-- The text of a clause. -/
def clauseText (flag : Option Flag) (key value : String) : String :=
  String.ofList (Token.spelling ⟨flag, key, value, 0⟩)

/-- **The text of a clause is read as one token**, with its flag, its key and its value. -/
theorem Query.Token.scan_clauseText {flag : Option Flag} {key value : String} (hkey : Solid key)
    (hword : key.toList.all isWordChar = true) (hvalue : Solid value) :
    Token.scan (clauseText flag key value) = [⟨flag, key, value, 0⟩] := by
  have hflag : ∀ c ∈ (flag.map Flag.char).toList, isBlank c = false := by
    cases flag with
    | none => exact fun _ hc => absurd hc List.not_mem_nil
    | some flag => cases flag <;> exact List.forall_mem_singleton.2 (by decide)
  have hne : Token.spelling ⟨flag, key, value, 0⟩ ≠ [] := by simp [Token.spelling]
  have hrun : ∀ c ∈ Token.spelling ⟨flag, key, value, 0⟩, inChunk c = true := by
    intro c hc
    refine inChunk_iff.2 ?_
    rw [Token.spelling, List.append_assoc, List.mem_append, List.mem_append, List.mem_cons] at hc
    rcases hc with hc | hc | rfl | hc
    · exact hflag c hc
    · exact hkey.solid c hc
    · decide
    · exact hvalue.solid c hc
  have htoken : Token.ofChunk? ⟨0, Token.spelling ⟨flag, key, value, 0⟩⟩ =
      some ⟨flag, key, value, 0⟩ :=
    Token.ofChunk?_eq_some_iff.2
      ⟨⟨hkey.ne_empty, List.all_eq_true.1 hword, hvalue.ne_empty⟩, rfl, rfl⟩
  rw [Token.scan, clauseText, String.toList_ofList, chunks_of_run 0 hne hrun,
    List.filterMap_cons, htoken]
  rfl

/-! ### What the parts yield -/

namespace Context

variable {context : Context}

/-- **The parts of a query yield what they yield alone.** -/
theorem yields_gap {gap : String} (h : IsGap gap) (first second : String) :
    context.yields (first ++ gap ++ second) = context.yields first ++ context.yields second := by
  have hshift : ∀ offset, context.yield ∘ Token.shift offset = context.yield := fun _ => rfl
  rw [yields, Token.scan_gap h, List.map_append, List.map_map, hshift]
  rfl

/-- **A query yields what its parts yield**, one after the other. -/
theorem yields_spaced {parts : List String} {query : String} (h : Spaced parts query) :
    context.yields query = parts.flatMap context.yields := by
  induction h with
  | single part => rw [List.flatMap_singleton]
  | cons part hgap _ ih => rw [yields_gap hgap, ih, List.flatMap_cons]

theorem yields_between {first part last query : String} (h : Spaced [first, part, last] query) :
    context.yields query = context.yields first ++ context.yields part ++ context.yields last := by
  rw [yields_spaced h, List.flatMap_cons, List.flatMap_cons, List.flatMap_singleton,
    List.append_assoc]

/-- A query whose middle parts add one contribution each. -/
theorem yields_between_map {ι : Type} {text : ι → String} {added : ι → Contribution}
    {items : List ι} (hone : ∀ item ∈ items, context.yields (text item) = [added item])
    {first last query : String} (h : Spaced (first :: items.map text ++ [last]) query) :
    context.yields query = context.yields first ++ items.map added ++ context.yields last := by
  have hitems : (items.map text).flatMap context.yields = items.map added := by
    rw [List.flatMap_map, List.flatMap_congr hone, List.map_eq_flatMap]
  rw [yields_spaced h, List.flatMap_append, List.flatMap_cons, List.flatMap_singleton, hitems]

/-- **A part that is a clause yields what the clause adds.** -/
theorem yields_clauseText {flag : Option Flag} {key value : String} (hkey : Solid key)
    (hword : key.toList.all isWordChar = true) (hvalue : Solid value) {clause : Clause}
    (hclause : Clause.ofToken? ⟨flag, key, value, 0⟩ = some clause) :
    context.yields (clauseText flag key value) = [(clause.contribution context).value] := by
  rw [yields, Token.scan_clauseText hkey hword hvalue, ← yield_of_ofToken? context hclause]
  rfl

end Context

end ForumQuery
