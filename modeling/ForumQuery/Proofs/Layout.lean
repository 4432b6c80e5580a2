import ForumQuery.Proofs.Parts

/-!
# Layout — clauses that are written out are read back

What a clause is written with is an *entry*: a flag or none, a key of word characters and a value
without a blank (`Query.Entry`).  Entries are laid out one after the other, each with what stands
behind it (`Query.layOut`): blanks, one at least between each two entries, and any number of them in
front of the first and behind the last (`Query.IsLayout`).

A scan undoes this.  It gives back the entries and nothing else, each at the byte offset at which it
was written (`Query.IsLayout.scan_layOut`).  No word character is blank
(`Text.isBlank_of_isWordChar`), so an entry is one chunk; and its value may hold colons, dashes and
equals signs, for the key ends at the first colon.
-/

namespace ForumQuery

open Query Text

/-! ### Word characters -/

theorem Text.exists_of_inRanges {ranges : List (Nat × Nat)} {n : Nat}
    (h : inRanges ranges n = true) : ∃ range ∈ ranges, range.1 ≤ n ∧ n ≤ range.2 := by
  induction ranges with
  | nil => cases h
  | cons range rest ih =>
      obtain ⟨low, high⟩ := range
      rw [inRanges] at h
      split at h
      · cases h
      · next hlow =>
        split at h
        · next hhigh => exact ⟨(low, high), List.mem_cons_self, Nat.le_of_not_lt hlow, hhigh⟩
        · obtain ⟨range, hrange, hbounds⟩ := ih h
          exact ⟨range, List.mem_cons_of_mem _ hrange, hbounds⟩

/-- **No word character is blank.** -/
theorem Text.isBlank_of_isWordChar {c : Char} (h : isWordChar c = true) : isBlank c = false := by
  -- the blanks are few enough to look at each of them
  have hblanks : ∀ range ∈ blankRanges, ∀ k < range.2 + 1 - range.1,
      isWordChar (Char.ofNat (range.1 + k)) = false := by decide +kernel
  refine Bool.eq_false_iff.2 fun hblank => ?_
  obtain ⟨range, hrange, hlow, hhigh⟩ := exists_of_inRanges hblank
  have hnot := hblanks range hrange (c.toNat - range.1) (by omega)
  rw [Nat.add_sub_of_le hlow, Char.ofNat_toNat, h] at hnot
  cases hnot

/-! ### Entries -/

namespace Query

/-- What a clause is written with. -/
structure Entry where
  flag : Option Flag
  key : String
  value : String
  key_ne : key ≠ ""
  word : ∀ c ∈ key.toList, isWordChar c = true
  solid : Solid value

namespace Entry

/-- The flag, the key, a colon and the value. -/
def text (entry : Entry) : String := clauseText entry.flag entry.key entry.value

/-- The token of an entry that is written at a byte offset. -/
def token (entry : Entry) (position : Nat) : Token :=
  ⟨entry.flag, entry.key, entry.value, position⟩

theorem solid_key (entry : Entry) : Solid entry.key :=
  ⟨entry.key_ne, fun c hc => isBlank_of_isWordChar (entry.word c hc)⟩

/-- An entry by itself is read as one token. -/
theorem scan_text (entry : Entry) : Token.scan entry.text = [entry.token 0] :=
  Token.scan_clauseText entry.solid_key (List.all_eq_true.2 entry.word) entry.solid

end Entry

/-! ### Entries one after the other -/

/-- Entries, each with what stands behind it, written out behind some text. -/
def layOut (lead : String) : List (Entry × String) → String
  | [] => lead
  | (entry, gap) :: rest => lead ++ entry.text ++ layOut gap rest

/-- Nothing but blanks stands around some entries, and one blank at least between each two. -/
structure IsLayout (lead : String) (parts : List (Entry × String)) : Prop where
  lead_blank : ∀ c ∈ lead.toList, isBlank c = true
  gap_blank : ∀ part ∈ parts, ∀ c ∈ part.2.toList, isBlank c = true
  apart : ∀ part ∈ parts.dropLast, part.2 ≠ ""

theorem layOut_concat (lead : String) (parts : List (Entry × String)) (entry : Entry)
    (gap : String) :
    layOut lead (parts ++ [(entry, gap)]) = layOut lead parts ++ entry.text ++ gap := by
  induction parts generalizing lead with
  | nil => rfl
  | cons part rest ih =>
      rw [List.cons_append, layOut, layOut, ih]
      simp only [String.append_assoc]

namespace IsLayout

variable {lead : String} {parts : List (Entry × String)} {part : Entry × String}

/-- Without the last entry, the others have a gap behind each of them. -/
theorem isGap_of_mem (h : IsLayout lead (parts ++ [part])) {other : Entry × String}
    (hother : other ∈ parts) : IsGap other.2 where
  ne_empty := h.apart other (by rwa [List.dropLast_concat])
  blank := h.gap_blank other (List.mem_append_left _ hother)

theorem of_concat (h : IsLayout lead (parts ++ [part])) : IsLayout lead parts where
  lead_blank := h.lead_blank
  gap_blank _ hother := (h.isGap_of_mem hother).blank
  apart _ hother := (h.isGap_of_mem (List.dropLast_subset _ hother)).ne_empty

/-- What stands in front of the last entry ends in a blank, if it is anything. -/
theorem isBlank_of_mem_getLast? (h : IsLayout lead (parts ++ [part])) {c : Char}
    (hc : c ∈ (layOut lead parts).toList.getLast?) : isBlank c = true := by
  rcases List.eq_nil_or_concat' parts with rfl | ⟨rest, ⟨entry, gap⟩, rfl⟩
  · exact h.lead_blank c (List.mem_of_getLast? hc)
  · have hgap : IsGap gap := h.isGap_of_mem (List.mem_append_right rest List.mem_cons_self)
    rw [layOut_concat, String.toList_append,
      List.getLast?_append_of_ne_nil _ (mt String.toList_eq_nil_iff.1 hgap.ne_empty)] at hc
    exact hgap.blank c (List.mem_of_getLast? hc)

/-- **A scan gives back what was laid out**, each entry at the size of what stands in front of
it. -/
theorem scan_layOut (h : IsLayout lead parts) :
    Token.scan (layOut lead parts) =
      parts.mapIdx fun i part => part.1.token (layOut lead (parts.take i)).utf8ByteSize := by
  induction parts using List.reverseRecOn with
  | nil => exact Token.scan_blank h.lead_blank
  | append_singleton parts last ih =>
      obtain ⟨entry, gap⟩ := last
      have hblank : ∀ c ∈ gap.toList, isBlank c = true := h.gap_blank (entry, gap) (by simp)
      have hlast : Token.scan (entry.text ++ gap) = [entry.token 0] := by
        rw [Token.scan_append (.inr fun c hc => hblank c (List.mem_of_mem_head? hc)),
          Token.scan_blank hblank, entry.scan_text]
        rfl
      -- the others are written as they are without the last entry
      have hothers : parts.mapIdx (fun i part =>
          part.1.token (layOut lead ((parts ++ [(entry, gap)]).take i)).utf8ByteSize) =
          parts.mapIdx fun i part => part.1.token (layOut lead (parts.take i)).utf8ByteSize := by
        refine List.mapIdx_eq_mapIdx_iff.2 fun i hi => ?_
        rw [List.take_append_of_le_length (Nat.le_of_lt hi)]
      rw [layOut_concat, String.append_assoc,
        Token.scan_append (.inl fun c hc => h.isBlank_of_mem_getLast? hc), hlast, ih h.of_concat,
        List.mapIdx_concat, List.take_left, hothers]
      rfl

end IsLayout

end Query

/-- **A scan undoes the writing of clauses**: what was laid out is given back, each entry at its byte
offset.  And a scan is cut in two by a gap, wherever it stands and whatever is on its two sides. -/
theorem scan_laidOut :
    (∀ lead parts, IsLayout lead parts →
      Token.scan (layOut lead parts) =
        parts.mapIdx fun i part => part.1.token (layOut lead (parts.take i)).utf8ByteSize) ∧
      ∀ first gap second, IsGap gap →
        Token.scan (first ++ gap ++ second) =
          Token.scan first ++ (Token.scan second).map (Token.shift (first ++ gap).utf8ByteSize) :=
  ⟨fun _ _ h => h.scan_layOut, fun first _ second h => Token.scan_gap h first second⟩

/-- Blanks of several bytes, and values that look like the start of other clauses. -/
theorem scan_laidOut_wide :
    let first : Entry := ⟨none, "été", "-a:b=", by decide,
      List.all_eq_true.1 (by decide +kernel), by decide +kernel⟩
    let second : Entry := ⟨some .strict, "_", "::", by decide,
      List.all_eq_true.1 (by decide +kernel), by decide +kernel⟩
    let parts := [(first, "\u3000\n"), (second, "")]
    let query := layOut "\u2003" parts
    let gap := "\u00A0"
    IsLayout "\u2003" parts ∧ IsGap gap ∧
      Token.scan query = [first.token 3, second.token 18] ∧
      Token.scan (query ++ gap ++ "tags:a") =
        [first.token 3, second.token 18, ⟨none, "tags", "a", 25⟩] := by
  intro first second parts query gap
  have hblank : parts.all (fun part => part.2.toList.all isBlank) = true := by decide +kernel
  have hlayout : IsLayout "\u2003" parts :=
    ⟨List.all_eq_true.1 (by decide +kernel),
      fun part hpart => List.all_eq_true.1 (List.all_eq_true.1 hblank part hpart), by decide +kernel⟩
  have hgap : IsGap gap := ⟨by decide, List.all_eq_true.1 (by decide +kernel)⟩
  obtain ⟨hwritten, hcut⟩ := scan_laidOut
  have hquery : Token.scan query = [first.token 3, second.token 18] :=
    (hwritten _ _ hlayout).trans (by decide +kernel)
  refine ⟨hlayout, hgap, hquery, (hcut query gap "tags:a" hgap).trans ?_⟩
  rw [hquery]
  decide +kernel

end ForumQuery
