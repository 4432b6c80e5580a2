import ForumQuery.Query.ValueList
import Mathlib.Data.List.Basic
import Mathlib.Data.List.Induction

/-!
# Value lists — how a list is written

`ValueList.Written` says which characters write a list: items of the alphabet with one permitted
separator between each two, and maybe one more of it at the end.  The pass over a text keeps a
reading of what it has seen, which is always items with the separator behind each and the beginning
of one more (`Reading.leads_iff`).  So a text is read as a list if and only if it is written as
one (`parse?_eq_some_iff`); it writes one list at most, and it is the text of that list but for a
separator at the end (`parse?_exact`).

A list has an item at least (`Written.items_ne_nil`), and its characters are its separator and those
of the alphabet (`Written.of_mem`).  Items with a separator between each two are read as those
items (`exists_parse?_intercalate`).  Where characters change and neither the alphabet nor the
separators see it, the list is the same one with its items changed (`parse?_map`).
-/

namespace ForumQuery.Query

namespace Separator

theorem char_injective {s t : Separator} (h : s.char = t.char) : s = t := by
  cases s <;> cases t <;> first | rfl | cases h

theorem ofChar?_eq_some_iff {permitted : List Separator} {c : Char} {s : Separator} :
    ofChar? permitted c = some s ↔ s ∈ permitted ∧ s.char = c := by
  constructor
  · intro h
    have hchar := List.find?_some h
    exact ⟨List.mem_of_find?_eq_some h, of_decide_eq_true hchar⟩
  · rintro ⟨hs, rfl⟩
    cases hf : ofChar? permitted s.char with
    | none => exact absurd (decide_eq_true rfl) (List.find?_eq_none.1 hf s hs)
    | some t =>
        have hchar := List.find?_some hf
        rw [char_injective (of_decide_eq_true hchar)]

end Separator

namespace ValueList

variable {permitted : List Separator} {alphabet : Char → Bool}

/-- Characters that make an item. -/
structure IsItem (permitted : List Separator) (alphabet : Char → Bool) (cs : List Char) : Prop where
  ne_nil : cs ≠ []
  alphabet : ∀ c ∈ cs, alphabet c = true
  separators : ∀ s ∈ permitted, s.char ∉ cs

/-- Characters that write a list. -/
inductive Written (permitted : List Separator) (alphabet : Char → Bool) :
    List Char → ValueList → Prop where
  /-- a lone item -/
  | alone {item : List Char} (h : IsItem permitted alphabet item) :
      Written permitted alphabet item ⟨[String.ofList item], none⟩
  /-- a separator between each two items -/
  | separated {s : Separator} {items : List (List Char)} (hs : s ∈ permitted)
      (h : ∀ item ∈ items, IsItem permitted alphabet item) (hlength : 1 < items.length) :
      Written permitted alphabet (List.intercalate [s.char] items)
        ⟨items.map String.ofList, some s⟩
  /-- one more separator at the end -/
  | closed {s : Separator} {items : List (List Char)} (hs : s ∈ permitted)
      (h : ∀ item ∈ items, IsItem permitted alphabet item) (hne : items ≠ []) :
      Written permitted alphabet (List.intercalate [s.char] items ++ [s.char])
        ⟨items.map String.ofList, some s⟩

/-- A character that stands in items. -/
def InItem (permitted : List Separator) (alphabet : Char → Bool) (c : Char) : Prop :=
  alphabet c = true ∧ ∀ s ∈ permitted, s.char ≠ c

theorem isItem_iff {cs : List Char} :
    IsItem permitted alphabet cs ↔ cs ≠ [] ∧ ∀ c ∈ cs, InItem permitted alphabet c := by
  constructor
  · intro h
    exact ⟨h.ne_nil, fun c hc => ⟨h.alphabet c hc, fun s hs e => h.separators s hs (e ▸ hc)⟩⟩
  · rintro ⟨hne, h⟩
    exact ⟨hne, fun c hc => (h c hc).1, fun s hs hmem => (h _ hmem).2 s hs rfl⟩

/-! ### What a text writes -/

/-- A character of parts and the separators between them is a separator or is in a part. -/
theorem mem_of_mem_intercalate {x c : Char} {parts : List (List Char)}
    (h : c ∈ List.intercalate [x] parts) : c = x ∨ ∃ part ∈ parts, c ∈ part := by
  induction parts with
  | nil => simp at h
  | cons part rest ih =>
      cases rest with
      | nil => exact .inr ⟨part, List.mem_singleton_self _, by simpa using h⟩
      | cons next rest =>
          rw [List.intercalate_cons_cons, List.append_assoc, List.mem_append, List.mem_append,
            List.mem_singleton] at h
          rcases h with h | h | h
          · exact .inr ⟨part, List.mem_cons_self, h⟩
          · exact .inl h
          · exact (ih h).imp_right fun ⟨part, hpart, hc⟩ =>
              ⟨part, List.mem_cons_of_mem _ hpart, hc⟩

/-- A list has an item. -/
theorem Written.items_ne_nil {cs : List Char} {list : ValueList}
    (h : Written permitted alphabet cs list) : list.items ≠ [] := by
  cases h with
  | alone _ => exact List.cons_ne_nil _ _
  | separated _ _ hlength => exact mt List.map_eq_nil_iff.1 (List.length_pos_iff.1 (by omega))
  | closed _ _ hne => exact mt List.map_eq_nil_iff.1 hne

/-- The items of a list are written as items. -/
theorem Written.isItem_of_mem {cs : List Char} {list : ValueList}
    (h : Written permitted alphabet cs list) {name : String} (hname : name ∈ list.items) :
    IsItem permitted alphabet name.toList := by
  have hitems : ∀ {items : List (List Char)}, (∀ item ∈ items, IsItem permitted alphabet item) →
      ∀ name ∈ items.map String.ofList, IsItem permitted alphabet name.toList := fun h =>
    List.forall_mem_map.2 fun item hitem => String.toList_ofList.symm ▸ h item hitem
  cases h with
  | alone h => exact hitems (List.forall_mem_singleton.2 h) name hname
  | separated _ h _ => exact hitems h name hname
  | closed _ h _ => exact hitems h name hname

/-- A character of a list is its separator, or one of the alphabet that is no separator. -/
theorem Written.of_mem {cs : List Char} {list : ValueList}
    (h : Written permitted alphabet cs list) {c : Char} (hc : c ∈ cs) :
    (∃ s ∈ permitted, s.char = c ∧ list.separator = some s) ∨
      (alphabet c = true ∧ ∀ s ∈ permitted, s.char ≠ c) := by
  have hitem : ∀ {item : List Char}, IsItem permitted alphabet item → c ∈ item →
      alphabet c = true ∧ ∀ s ∈ permitted, s.char ≠ c := fun h hc => (isItem_iff.1 h).2 c hc
  have hitems : ∀ {s : Separator} {items : List (List Char)},
      (∀ item ∈ items, IsItem permitted alphabet item) → c ∈ List.intercalate [s.char] items →
        s.char = c ∨ (alphabet c = true ∧ ∀ s ∈ permitted, s.char ≠ c) := by
    intro s items h hc
    rcases mem_of_mem_intercalate hc with rfl | ⟨item, hmem, hc⟩
    · exact .inl rfl
    · exact .inr (hitem (h item hmem) hc)
  cases h with
  | alone h => exact .inr (hitem h hc)
  | separated hs h _ => exact (hitems h hc).imp_left fun hchar => ⟨_, hs, hchar, rfl⟩
  | closed hs h _ =>
      rcases List.mem_append.1 hc with hc | hc
      · exact (hitems h hc).imp_left fun hchar => ⟨_, hs, hchar, rfl⟩
      · exact .inl ⟨_, hs, (List.mem_singleton.1 hc).symm, rfl⟩

/-! ### What a reading has seen -/

namespace Reading

variable {reading next : Reading}

/-- **One more character** ends an item that has begun, at the separator of the list, or belongs to
the item. -/
theorem step?_eq_some_iff {c : Char} :
    reading.step? permitted alphabet c = some next ↔
      (∃ s ∈ permitted, s.char = c ∧ (∀ t ∈ reading.separator, t = s) ∧ reading.item ≠ [] ∧
        next = ⟨some s, reading.items ++ [String.ofList reading.item], []⟩) ∨
      InItem permitted alphabet c ∧ next = { reading with item := reading.item ++ [c] } := by
  rw [step?]
  cases hc : Separator.ofChar? permitted c with
  | some s =>
      obtain ⟨hs, rfl⟩ := Separator.ofChar?_eq_some_iff.1 hc
      have hpart : ¬ InItem permitted alphabet s.char := fun h => h.2 s hs rfl
      have hsame : reading.separator.any (· ≠ s) = true ↔ ¬ ∀ t ∈ reading.separator, t = s := by
        cases reading.separator <;> simp
      simp only [hsame, hpart, false_and, or_false]
      constructor
      · intro h
        split at h
        · cases h
        · next hsep =>
          split at h
          · cases h
          · next hne => exact ⟨s, hs, rfl, not_not.1 hsep, hne, (Option.some.inj h).symm⟩
      · rintro ⟨t, -, ht, hsep, hne, rfl⟩
        rw [Separator.char_injective ht] at hsep ⊢
        rw [if_neg (not_not.2 hsep), if_neg hne]
  | none =>
      have hplain : ∀ s ∈ permitted, s.char ≠ c := by
        rintro s hs rfl
        exact nomatch hc.symm.trans (Separator.ofChar?_eq_some_iff.2 ⟨hs, rfl⟩)
      have hnone : ¬ ∃ s ∈ permitted, s.char = c ∧ (∀ t ∈ reading.separator, t = s) ∧
          reading.item ≠ [] ∧
            next = ⟨some s, reading.items ++ [String.ofList reading.item], []⟩ :=
        fun ⟨s, hs, hchar, _⟩ => hplain s hs hchar
      rw [or_iff_right hnone]
      by_cases ha : alphabet c = true
      · have hpart : InItem permitted alphabet c := ⟨ha, hplain⟩
        simp [ha, hpart, eq_comm]
      · simp [InItem, ha]

/-- The characters that lead to a reading. -/
inductive Leads (permitted : List Separator) (alphabet : Char → Bool) :
    List Char → Reading → Prop where
  /-- no separator has occurred -/
  | first {item : List Char} (h : ∀ c ∈ item, InItem permitted alphabet c) :
      Leads permitted alphabet item ⟨none, [], item⟩
  /-- a separator stands behind each item, and one more item may have begun -/
  | next {s : Separator} {items : List (List Char)} {item : List Char} (hs : s ∈ permitted)
      (h : ∀ item ∈ items, IsItem permitted alphabet item) (hne : items ≠ [])
      (hitem : ∀ c ∈ item, InItem permitted alphabet c) :
      Leads permitted alphabet (items.flatMap (· ++ [s.char]) ++ item)
        ⟨some s, items.map String.ofList, item⟩

/-- A character of an item leads on. -/
theorem Leads.inItem {cs : List Char} (h : Leads permitted alphabet cs reading) {c : Char}
    (hc : InItem permitted alphabet c) :
    Leads permitted alphabet (cs ++ [c]) { reading with item := reading.item ++ [c] } := by
  cases h with
  | first h => exact .first (List.forall_mem_append.2 ⟨h, List.forall_mem_singleton.2 hc⟩)
  | next hs h hne hitem =>
      rw [List.append_assoc]
      exact .next hs h hne (List.forall_mem_append.2 ⟨hitem, List.forall_mem_singleton.2 hc⟩)

/-- So does a separator behind an item. -/
theorem Leads.separator {cs : List Char} (h : Leads permitted alphabet cs reading)
    {s : Separator} (hs : s ∈ permitted) (hsep : ∀ t ∈ reading.separator, t = s)
    (hne : reading.item ≠ []) :
    Leads permitted alphabet (cs ++ [s.char])
      ⟨some s, reading.items ++ [String.ofList reading.item], []⟩ := by
  cases h with
  | first h =>
      have hitems : ∀ item ∈ [cs], IsItem permitted alphabet item :=
        List.forall_mem_singleton.2 (isItem_iff.2 ⟨hne, h⟩)
      simpa using Leads.next hs hitems (List.cons_ne_nil _ _) (List.forall_mem_nil _)
  | @next t items item _ h _ hitem =>
      obtain rfl := hsep t rfl
      have hitems : ∀ other ∈ items ++ [item], IsItem permitted alphabet other :=
        List.forall_mem_append.2 ⟨h, List.forall_mem_singleton.2 (isItem_iff.2 ⟨hne, hitem⟩)⟩
      simpa using Leads.next hs hitems (by simp) (List.forall_mem_nil _)

/-- The pass over a text keeps what it has seen. -/
theorem leads_of_foldlM {cs : List Char}
    (h : cs.foldlM (step? permitted alphabet) {} = some reading) :
    Leads permitted alphabet cs reading := by
  induction cs using List.reverseRecOn generalizing reading with
  | nil =>
      cases h
      exact .first (List.forall_mem_nil _)
  | append_singleton cs c ih =>
      rw [List.foldlM_append] at h
      obtain ⟨before, hbefore, hstep⟩ := Option.bind_eq_some_iff.1 h
      simp only [List.foldlM_cons, List.foldlM_nil, bind_pure] at hstep
      rcases step?_eq_some_iff.1 hstep with ⟨s, hs, rfl, hsep, hne, rfl⟩ | ⟨hc, rfl⟩
      · exact (ih hbefore).separator hs hsep hne
      · exact (ih hbefore).inItem hc

variable {s : Separator} {items : List (List Char)}

/-- The characters of an item are read one behind the other. -/
theorem foldlM_inItem {cs : List Char} (h : ∀ c ∈ cs, InItem permitted alphabet c)
    (reading : Reading) :
    cs.foldlM (step? permitted alphabet) reading =
      some { reading with item := reading.item ++ cs } := by
  induction cs generalizing reading with
  | nil => simp
  | cons c cs ih =>
      obtain ⟨hc, hcs⟩ := List.forall_mem_cons.1 h
      rw [List.foldlM_cons, step?_eq_some_iff.2 (.inr ⟨hc, rfl⟩)]
      refine (ih hcs _).trans ?_
      rw [List.append_assoc, List.singleton_append]

/-- An item is read up to the separator behind it. -/
theorem foldlM_item (hs : s ∈ permitted) {item : List Char} (h : IsItem permitted alphabet item)
    {separator : Option Separator} (hsep : ∀ t ∈ separator, t = s) (done : List String) :
    (item ++ [s.char]).foldlM (step? permitted alphabet) ⟨separator, done, []⟩ =
      some ⟨some s, done ++ [String.ofList item], []⟩ := by
  rw [List.foldlM_append, foldlM_inItem (isItem_iff.1 h).2]
  exact (bind_pure _).trans (step?_eq_some_iff.2 (.inl ⟨s, hs, rfl, hsep, h.ne_nil, rfl⟩))

/-- So is one item after the other. -/
theorem foldlM_items (hs : s ∈ permitted) (h : ∀ item ∈ items, IsItem permitted alphabet item)
    (done : List String) :
    (items.flatMap (· ++ [s.char])).foldlM (step? permitted alphabet) ⟨some s, done, []⟩ =
      some ⟨some s, done ++ items.map String.ofList, []⟩ := by
  induction items generalizing done with
  | nil => simp
  | cons item items ih =>
      obtain ⟨hitem, hitems⟩ := List.forall_mem_cons.1 h
      have hsep : ∀ t ∈ some s, t = s := fun t ht => (Option.some.inj ht).symm
      rw [List.flatMap_cons, List.foldlM_append, foldlM_item hs hitem hsep]
      refine (ih hitems _).trans ?_
      rw [List.append_assoc, List.singleton_append, List.map_cons]

/-- **A reading is what the characters lead to** that have been read. -/
theorem leads_iff {cs : List Char} :
    cs.foldlM (step? permitted alphabet) {} = some reading ↔
      Leads permitted alphabet cs reading := by
  refine ⟨leads_of_foldlM, fun h => ?_⟩
  cases h with
  | first h => exact foldlM_inItem h {}
  | @next s _ item hs h hne hitem =>
      obtain ⟨first, rest, rfl⟩ := List.exists_cons_of_ne_nil hne
      obtain ⟨hfirst, hrest⟩ := List.forall_mem_cons.1 h
      have hnone : ∀ t ∈ (none : Option Separator), t = s := nofun
      rw [List.foldlM_append, List.flatMap_cons, List.foldlM_append, foldlM_item hs hfirst hnone]
      refine (congrArg (· >>= _) (foldlM_items hs hrest _)).trans ?_
      exact foldlM_inItem hitem _

end Reading

/-! ### Reading what is written -/

/-- Items with a separator between each two are the items before the last one with a separator
behind each, and the last one. -/
theorem intercalate_concat {x : Char} (items : List (List Char)) (last : List Char) :
    List.intercalate [x] (items ++ [last]) = items.flatMap (· ++ [x]) ++ last := by
  induction items with
  | nil => exact List.intercalate_singleton
  | cons item items ih =>
      rw [List.cons_append, List.intercalate_cons_of_ne_nil (by simp), ih, List.flatMap_cons,
        List.append_assoc, List.append_assoc, List.append_assoc]

theorem intercalate_append_singleton {x : Char} {items : List (List Char)} (hne : items ≠ []) :
    List.intercalate [x] items ++ [x] = items.flatMap (· ++ [x]) := by
  obtain rfl | ⟨init, last, rfl⟩ := items.eq_nil_or_concat'
  · exact absurd rfl hne
  · rw [intercalate_concat, List.flatMap_append, List.flatMap_singleton, List.append_assoc]

/-- What is read at the end of a text is written by it. -/
theorem Reading.Leads.written {cs : List Char} {reading : Reading} {list : ValueList}
    (h : Leads permitted alphabet cs reading) (hlist : reading.list? = some list) :
    Written permitted alphabet cs list := by
  cases h with
  | first h =>
      by_cases hitem : cs = []
      · simp [list?, hitem] at hlist
      · obtain rfl : ⟨[String.ofList cs], none⟩ = list := by simpa [list?, hitem] using hlist
        exact .alone (isItem_iff.2 ⟨hitem, h⟩)
  | @next s items item hs h hne hpart =>
      by_cases hitem : item = []
      · obtain rfl : ⟨items.map String.ofList, some s⟩ = list := by
          simpa [list?, hitem, hne] using hlist
        rw [hitem, List.append_nil, ← intercalate_append_singleton hne]
        exact .closed hs h hne
      · obtain rfl : ⟨(items ++ [item]).map String.ofList, some s⟩ = list := by
          simpa [list?, hitem] using hlist
        rw [← intercalate_concat]
        refine .separated hs (List.forall_mem_append.2 ⟨h, List.forall_mem_singleton.2 ?_⟩) ?_
        · exact isItem_iff.2 ⟨hitem, hpart⟩
        · simpa using List.length_pos_iff.2 hne

/-- What a text writes is read at its end. -/
theorem Written.exists_leads {cs : List Char} {list : ValueList}
    (h : Written permitted alphabet cs list) :
    ∃ reading, Reading.Leads permitted alphabet cs reading ∧ reading.list? = some list := by
  cases h with
  | alone h =>
      exact ⟨_, .first (isItem_iff.1 h).2, by simp [Reading.list?, h.ne_nil]⟩
  | @separated s items hs h hlength =>
      obtain rfl | ⟨init, last, rfl⟩ := items.eq_nil_or_concat'
      · cases hlength
      · obtain ⟨hinit, hlast⟩ := List.forall_mem_append.1 h
        obtain ⟨hne, hpart⟩ := isItem_iff.1 (hlast last (List.mem_singleton_self _))
        rw [intercalate_concat]
        refine ⟨_, .next hs hinit ?_ hpart, by simp [Reading.list?, hne]⟩
        simpa [← List.length_pos_iff] using hlength
  | @closed s items hs h hne =>
      have hleads := Reading.Leads.next hs h hne (List.forall_mem_nil _)
      rw [List.append_nil, ← intercalate_append_singleton hne] at hleads
      exact ⟨_, hleads, by simp [Reading.list?, hne]⟩

/-- **A text is read as a list if and only if it is written as that list.** -/
theorem parse?_eq_some_iff {raw : String} {list : ValueList} :
    parse? permitted alphabet raw = some list ↔ Written permitted alphabet raw.toList list := by
  refine Option.bind_eq_some_iff.trans ⟨?_, fun h => ?_⟩
  · rintro ⟨reading, hread, hlist⟩
    exact (Reading.leads_iff.1 hread).written hlist
  · obtain ⟨reading, hleads, hlist⟩ := h.exists_leads
    exact ⟨reading, Reading.leads_iff.2 hleads, hlist⟩

variable {s : Separator}

/-- Items with a separator between each two are read as those items. -/
theorem exists_parse?_intercalate {between : String} (hbetween : between.toList = [s.char])
    (hs : s ∈ permitted) {names : List String} (hne : names ≠ [])
    (h : ∀ name ∈ names, IsItem permitted alphabet name.toList) :
    ∃ separator, (separator = none ∨ separator = some s) ∧
      parse? permitted alphabet (between.intercalate names) = some ⟨names, separator⟩ := by
  have hnames : (names.map String.toList).map String.ofList = names := by simp [Function.comp_def]
  cases names with
  | nil => exact absurd rfl hne
  | cons first rest =>
      cases rest with
      | nil =>
          have hwritten := Written.alone (h first List.mem_cons_self)
          rw [String.ofList_toList] at hwritten
          refine ⟨none, .inl rfl, parse?_eq_some_iff.2 ?_⟩
          rwa [String.intercalate_singleton]
      | cons next rest =>
          have hitems : ∀ item ∈ (first :: next :: rest).map String.toList,
              IsItem permitted alphabet item := List.forall_mem_map.2 h
          have hwritten := Written.separated hs hitems (by simp)
          rw [hnames, ← hbetween, ← String.toList_intercalate] at hwritten
          exact ⟨some s, .inr rfl, parse?_eq_some_iff.2 hwritten⟩

/-- A list is written as it is spelt, maybe with one more separator. -/
theorem Written.exists_spelling {cs : List Char} {list : ValueList}
    (h : Written permitted alphabet cs list) : ∃ last, cs = list.spelling ++ last ∧
      (last = [] ∨ ∃ s ∈ permitted, list.separator = some s ∧ last = [s.char]) := by
  have hnames : ∀ items : List (List Char), (items.map String.ofList).map String.toList = items :=
    fun items => by simp [Function.comp_def]
  cases h with
  | alone _ => exact ⟨[], by simp [spelling], .inl rfl⟩
  | separated => exact ⟨[], by simp only [spelling, hnames, List.append_nil], .inl rfl⟩
  | @closed s _ hs => exact ⟨[s.char], by simp only [spelling, hnames], .inr ⟨s, hs, rfl, rfl⟩⟩

/-- **A text is read as a list if and only if it is written as that list**, and as no list if it is
not written as one.  It is written as one list at most, and spells it up to a separator at the
end. -/
theorem parse?_exact (permitted : List Separator) (alphabet : Char → Bool) (raw : String) :
    (∀ list, parse? permitted alphabet raw = some list ↔
      Written permitted alphabet raw.toList list) ∧
      (parse? permitted alphabet raw = none ↔
        ∀ list, ¬ Written permitted alphabet raw.toList list) ∧
      (∀ first second, Written permitted alphabet raw.toList first →
        Written permitted alphabet raw.toList second → first = second) ∧
      ∀ list, Written permitted alphabet raw.toList list →
        ∃ last, raw.toList = list.spelling ++ last ∧
          (last = [] ∨ ∃ s ∈ permitted, list.separator = some s ∧ last = [s.char]) := by
  refine ⟨fun list => parse?_eq_some_iff, ?_, fun first second hfirst hsecond => ?_,
    fun list h => h.exists_spelling⟩
  · rw [Option.eq_none_iff_forall_ne_some]
    exact forall_congr' fun list => not_congr parse?_eq_some_iff
  · exact Option.some.inj ((parse?_eq_some_iff.2 hfirst).symm.trans
      (parse?_eq_some_iff.2 hsecond))

/-- A plus is a character like any other where only the comma is a separator, and a comma at the end
is one more separator, also where the alphabet has it. -/
theorem parse?_exact_closed :
    let alphabet : Char → Bool := fun c => c.isAlphanum || c == '+' || c == ','
    Written [.comma] alphabet "a+b,".toList ⟨["a+b"], some .comma⟩ ∧
      parse? [.comma] alphabet "a+b," = some ⟨["a+b"], some .comma⟩ ∧
      (∀ list, Written [.comma] alphabet "a+b,".toList list → list = ⟨["a+b"], some .comma⟩) ∧
      parse? [.comma] alphabet "a,,b" = none := by
  intro alphabet
  have hitem : IsItem [.comma] alphabet ['a', '+', 'b'] :=
    ⟨List.cons_ne_nil _ _, List.all_eq_true.1 (by decide), List.forall_mem_singleton.2 (by decide)⟩
  have hwritten : Written [.comma] alphabet "a+b,".toList ⟨["a+b"], some .comma⟩ :=
    Written.closed (List.mem_singleton_self _) (List.forall_mem_singleton.2 hitem)
      (List.cons_ne_nil _ _)
  obtain ⟨hread, -, hunique, -⟩ := parse?_exact [.comma] alphabet "a+b,"
  exact ⟨hwritten, (hread _).2 hwritten, fun list h => hunique _ _ h hwritten, by decide +kernel⟩

/-! ### Characters that change -/

/-- A change of characters that leaves the form of a list as it is: those of the alphabet and the
permitted separators are still the same ones. -/
structure Preserves (permitted : List Separator) (alphabet : Char → Bool) (f : Char → Char) :
    Prop where
  alphabet : ∀ c, alphabet (f c) = alphabet c
  separators : ∀ s ∈ permitted, ∀ c, f c = s.char ↔ c = s.char

/-- A list with the characters of its items changed. -/
def map (f : Char → Char) (list : ValueList) : ValueList :=
  ⟨list.items.map (String.map f), list.separator⟩

variable {f : Char → Char}

theorem ofList_map (f : Char → Char) (cs : List Char) :
    String.ofList (cs.map f) = (String.ofList cs).map f := by
  rw [← String.toList_inj, String.toList_map, String.toList_ofList, String.toList_ofList]

theorem Preserves.ofChar? (h : Preserves permitted alphabet f) (c : Char) :
    Separator.ofChar? permitted (f c) = Separator.ofChar? permitted c := by
  refine Option.ext fun s => ?_
  rw [Separator.ofChar?_eq_some_iff, Separator.ofChar?_eq_some_iff]
  refine and_congr_right fun hs => ?_
  rw [eq_comm, h.separators s hs, eq_comm]

/-- A reading with the characters of its items changed. -/
def Reading.map (f : Char → Char) (reading : Reading) : Reading :=
  ⟨reading.separator, reading.items.map (String.map f), reading.item.map f⟩

theorem Reading.list?_map (f : Char → Char) (reading : Reading) :
    (reading.map f).list? = reading.list?.map (ValueList.map f) := by
  obtain ⟨separator, items, item⟩ := reading
  by_cases hitem : item = []
  · by_cases hitems : items = [] <;> simp [list?, map, ValueList.map, hitem, hitems]
  · simp [list?, map, ValueList.map, hitem, ofList_map]

namespace Preserves

variable (h : Preserves permitted alphabet f)
include h

/-- A character that changes leads to the same reading with its characters changed. -/
theorem step?_map (reading : Reading) (c : Char) :
    (reading.map f).step? permitted alphabet (f c) =
      (reading.step? permitted alphabet c).map (Reading.map f) := by
  rw [Reading.step?, Reading.step?, h.ofChar?, h.alphabet]
  cases Separator.ofChar? permitted c with
  | some s =>
      simp only [Reading.map, List.map_eq_nil_iff, ofList_map]
      split
      · rfl
      · split
        · rfl
        · simp [Reading.map]
  | none =>
      cases alphabet c with
      | true => simp [Reading.map]
      | false => rfl

theorem foldlM_map (reading : Reading) (cs : List Char) :
    (cs.map f).foldlM (Reading.step? permitted alphabet) (reading.map f) =
      (cs.foldlM (Reading.step? permitted alphabet) reading).map (Reading.map f) := by
  induction cs generalizing reading with
  | nil => rfl
  | cons c cs ih =>
      rw [List.map_cons, List.foldlM_cons, List.foldlM_cons, h.step?_map]
      cases reading.step? permitted alphabet c with
      | none => rfl
      | some next => exact ih next

end Preserves

/-- **A text is read as the same list** when its characters change and the form of it does not. -/
theorem parse?_map (h : Preserves permitted alphabet f) (raw : String) :
    parse? permitted alphabet (raw.map f) = (parse? permitted alphabet raw).map (map f) := by
  have hread := h.foldlM_map {} raw.toList
  rw [← String.toList_map] at hread
  refine (congrArg (Option.bind · Reading.list?) hread).trans ?_
  rw [parse?]
  cases raw.toList.foldlM (Reading.step? permitted alphabet) {} with
  | none => rfl
  | some reading => exact Reading.list?_map f reading

end ValueList

end ForumQuery.Query
