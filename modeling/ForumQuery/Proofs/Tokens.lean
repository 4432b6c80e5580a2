import ForumQuery.Proofs.Chunks

/-!
# Tokens — what a query is read as

A chunk is a token if and only if it has the form `[-=]?\w+:\S+` (`Token.Form`), and then the token
is the only one that is spelt like it (`ofChunk?_eq_some_iff`).  The chunks being the longest runs
of the query, a scan gives one token for each run of that form, at its byte offset and in the order
of the runs, and nothing else (`scan_exact`).
-/

namespace ForumQuery.Query

open ForumQuery.Text

/-- Every boundary between two characters of a text is a valid offset into it. -/
theorem isValid_byteLength {text : String} {first second : List Char}
    (h : text.toList = first ++ second) :
    (⟨byteLength first⟩ : String.Pos.Raw).IsValid text := by
  refine String.Pos.Raw.isValid_iff_exists_append.2
    ⟨String.ofList first, String.ofList second, ?_, ?_⟩
  · rw [← String.ofList_append, ← h, String.ofList_toList]
  · have hlength := byteLength_toList (String.ofList first)
    rw [String.toList_ofList] at hlength
    rw [hlength]
    rfl

/-! ### One token -/

namespace Token

/-- A key of word characters, and neither the key nor the value empty. -/
structure WellFormed (token : Token) : Prop where
  key_ne : token.key ≠ ""
  word : ∀ c ∈ token.key.toList, isWordChar c = true
  value_ne : token.value ≠ ""

/-- The form `[-=]?\w+:\S+`. -/
def Form (run : List Char) : Prop :=
  ∃ mark key value : List Char, (mark = [] ∨ mark = ['-'] ∨ mark = ['=']) ∧
    (key ≠ [] ∧ ∀ c ∈ key, isWordChar c = true) ∧
    (value ≠ [] ∧ ∀ c ∈ value, isBlank c = false) ∧ run = mark ++ key ++ ':' :: value

theorem ne_of_isWordChar {c : Char} (h : isWordChar c = true) : c ≠ '-' ∧ c ≠ '=' ∧ c ≠ ':' := by
  refine ⟨?_, ?_, ?_⟩ <;> rintro rfl <;> cases h

/-- The key ends at the first colon. -/
theorem WellFormed.colon_notMem {token : Token} (h : token.WellFormed) : ':' ∉ token.key.toList :=
  fun hmem => (ne_of_isWordChar (h.word ':' hmem)).2.2 rfl

/-- The flag is read back off a token's characters. -/
theorem WellFormed.split_spelling {token : Token} (h : token.WellFormed) :
    Flag.split token.spelling = (token.flag, token.key.toList ++ ':' :: token.value.toList) := by
  rw [spelling]
  cases token.flag with
  | some flag => cases flag <;> rfl
  | none =>
      obtain ⟨c, cs, hkey⟩ := List.exists_cons_of_ne_nil (mt String.toList_eq_nil_iff.1 h.key_ne)
      have hc := ne_of_isWordChar (h.word c (hkey ▸ List.mem_cons_self))
      have hflag : Flag.ofChar? c = none := by simp [Flag.ofChar?, hc.1, hc.2.1]
      simp [hkey, Flag.split, hflag]

theorem wellFormed_of_ofChunk? {chunk : Chunk} {token : Token} (h : ofChunk? chunk = some token) :
    token.WellFormed ∧ token.position = chunk.position := by
  unfold ofChunk? at h
  dsimp only at h
  split at h
  · cases h
  · split at h
    · next hform =>
      cases h
      refine ⟨⟨?_, ?_, ?_⟩, rfl⟩
      · simpa using hform.1
      · simpa using hform.2.1
      · simpa using hform.2.2
    · cases h

/-- **A chunk is read as the token that is spelt like it.** -/
theorem ofChunk?_eq_some_iff {chunk : Chunk} {token : Token} :
    ofChunk? chunk = some token ↔
      token.WellFormed ∧ token.spelling = chunk.text ∧ token.position = chunk.position := by
  constructor
  · intro h
    obtain ⟨hform, hposition⟩ := wellFormed_of_ofChunk? h
    exact ⟨hform, spelling_of_ofChunk? h, hposition⟩
  · rintro ⟨hform, hspelling, hposition⟩
    have hkey : ∀ c ∈ token.key.toList, decide (c ≠ ':') = true :=
      fun c hc => decide_eq_true (ne_of_isWordChar (hform.word c hc)).2.2
    have htake : (token.key.toList ++ ':' :: token.value.toList).takeWhile (· ≠ ':') =
        token.key.toList := by
      rw [List.takeWhile_append_of_pos hkey, List.takeWhile_cons_of_neg (by decide),
        List.append_nil]
    have hdrop : (token.key.toList ++ ':' :: token.value.toList).dropWhile (· ≠ ':') =
        ':' :: token.value.toList := by
      rw [List.dropWhile_append_of_pos hkey, List.dropWhile_cons_of_neg (by decide)]
    have hcond : token.key.toList ≠ [] ∧ token.key.toList.all isWordChar = true ∧
        token.value.toList ≠ [] :=
      ⟨mt String.toList_eq_nil_iff.1 hform.key_ne, List.all_eq_true.2 hform.word,
        mt String.toList_eq_nil_iff.1 hform.value_ne⟩
    simp only [ofChunk?, ← hspelling, hform.split_spelling, htake, hdrop, if_pos hcond,
      String.ofList_toList, ← hposition]

/-- A run has the form of a token if and only if some token is spelt like it. -/
theorem form_iff {run : List Char} (h : ∀ c ∈ run, isBlank c = false) :
    Form run ↔ ∃ token : Token, token.WellFormed ∧ token.spelling = run := by
  constructor
  · rintro ⟨mark, key, value, hmark, ⟨hkey, hword⟩, ⟨hvalue, -⟩, rfl⟩
    obtain ⟨flag, hflag⟩ : ∃ flag : Option Flag, (flag.map Flag.char).toList = mark := by
      rcases hmark with rfl | rfl | rfl
      · exact ⟨none, rfl⟩
      · exact ⟨some .exclude, rfl⟩
      · exact ⟨some .strict, rfl⟩
    refine ⟨⟨flag, String.ofList key, String.ofList value, 0⟩, ⟨?_, ?_, ?_⟩, ?_⟩
    · simpa using hkey
    · simpa using hword
    · simpa using hvalue
    · simp [spelling, hflag]
  · rintro ⟨⟨flag, key, value, position⟩, hform, rfl⟩
    have hkey : key.toList ≠ [] := mt String.toList_eq_nil_iff.1 hform.key_ne
    have hvalue : value.toList ≠ [] := mt String.toList_eq_nil_iff.1 hform.value_ne
    refine ⟨_, key.toList, value.toList, ?_, ⟨hkey, hform.word⟩,
      ⟨hvalue, fun c hc => h c ?_⟩, rfl⟩
    · rcases flag with _ | _ | _
      · exact .inl rfl
      · exact .inr (.inl rfl)
      · exact .inr (.inr rfl)
    · exact List.mem_append_right _ (List.mem_cons_of_mem _ hc)

/-! ### All of them -/

/-- **A scan gives the tokens that are spelt like the runs of the query.** -/
theorem mem_scan_iff {query : String} {token : Token} :
    token ∈ scan query ↔ token.WellFormed ∧
      ∃ before after, IsRun query.toList before token.spelling after ∧
        token.position = byteLength before := by
  rw [scan, List.mem_filterMap]
  constructor
  · rintro ⟨chunk, hchunk, htoken⟩
    obtain ⟨hform, hspelling, hposition⟩ := ofChunk?_eq_some_iff.1 htoken
    obtain ⟨before, after, hrun, hstart⟩ := mem_chunks_iff.1 hchunk
    exact ⟨hform, before, after, hspelling ▸ hrun, by rw [hposition, hstart, Nat.zero_add]⟩
  · rintro ⟨hform, before, after, hrun, hposition⟩
    refine ⟨⟨token.position, token.spelling⟩, mem_chunks_iff.2 ⟨before, after, hrun, ?_⟩,
      ofChunk?_eq_some_iff.2 ⟨hform, rfl, rfl⟩⟩
    rw [hposition, Nat.zero_add]

/-- **Tokens stand in their order and do not touch.** -/
theorem pairwise_scan (query : String) :
    (scan query).Pairwise fun a b => a.position + byteLength a.spelling < b.position := by
  refine List.pairwise_filterMap.2 ((pairwise_chunks 0 query.toList).imp ?_)
  intro a b hab token htoken other hother
  obtain ⟨-, hspelling, hposition⟩ := ofChunk?_eq_some_iff.1 htoken
  obtain ⟨-, -, hother⟩ := ofChunk?_eq_some_iff.1 hother
  rwa [hspelling, hposition, hother]

/-- A token as it stands in a query with `offset` bytes in front. -/
def shift (offset : Nat) (token : Token) : Token :=
  { token with position := offset + token.position }

theorem ofChunk?_shift (offset : Nat) (chunk : Chunk) :
    ofChunk? (chunk.shift offset) = (ofChunk? chunk).map (shift offset) := by
  refine (ofChunk?_position chunk _).trans ?_
  cases htoken : ofChunk? chunk with
  | none => rfl
  | some token =>
      obtain ⟨-, -, hposition⟩ := ofChunk?_eq_some_iff.1 htoken
      rw [Option.map_some, Option.map_some, shift, hposition]

/-- **A query is scanned piece by piece** where a blank stands on one side of the cut. -/
theorem scan_append {first second : String}
    (h : (∀ c ∈ first.toList.getLast?, isBlank c = true) ∨
      ∀ c ∈ second.toList.head?, isBlank c = true) :
    scan (first ++ second) = scan first ++ (scan second).map (shift first.utf8ByteSize) := by
  have hsecond : chunks first.utf8ByteSize second.toList =
      (chunks 0 second.toList).map (Chunk.shift first.utf8ByteSize) :=
    chunks_add first.utf8ByteSize 0 second.toList
  rw [scan, String.toList_append, chunks_append 0 h, List.filterMap_append, Nat.zero_add,
    byteLength_toList, hsecond, List.filterMap_map, scan, scan, List.map_filterMap]
  exact congrArg _ (List.filterMap_congr fun chunk _ => ofChunk?_shift _ chunk)

/-- The token that stands where a run starts is spelt like the run. -/
theorem spelling_eq_of_isRun {query : String} {token : Token} (h : token ∈ scan query)
    {before run after : List Char} (hrun : IsRun query.toList before run after)
    (hposition : token.position = byteLength before) : token.spelling = run := by
  obtain ⟨chunk, hchunk, htoken⟩ := List.mem_filterMap.1 h
  obtain ⟨-, hspelling, hstart⟩ := ofChunk?_eq_some_iff.1 htoken
  have hmem : ⟨byteLength before, run⟩ ∈ chunks 0 query.toList :=
    mem_chunks_iff.2 ⟨before, after, hrun, (Nat.zero_add _).symm⟩
  rw [hspelling, eq_of_position_eq hchunk hmem (hstart.symm.trans hposition)]

/-- Two tokens at one position are one. -/
theorem eq_of_mem_scan {query : String} {first second : Token} (hfirst : first ∈ scan query)
    (hsecond : second ∈ scan query) (h : first.position = second.position) : first = second := by
  obtain ⟨chunk, hchunk, hfirst⟩ := List.mem_filterMap.1 hfirst
  obtain ⟨other, hother, hsecond⟩ := List.mem_filterMap.1 hsecond
  obtain ⟨-, -, hposition⟩ := ofChunk?_eq_some_iff.1 hfirst
  obtain ⟨-, -, hposition'⟩ := ofChunk?_eq_some_iff.1 hsecond
  obtain rfl := eq_of_position_eq hchunk hother (hposition ▸ hposition' ▸ h)
  exact Option.some.inj (hfirst.symm.trans hsecond)

/-- **A scan reads each run of the form of a token as one token**, and nothing else: the tokens are
in the order of their runs and do not touch, a token's characters are those of its run, with the key
ending at the first colon, and to cut a token anywhere between two characters is to cut the query
there. -/
theorem scan_exact (query : String) :
    (∀ before run after, IsRun query.toList before run after →
      (Form run → ∃ token ∈ scan query, token.position = byteLength before ∧
          token.spelling = run ∧
          ∀ other ∈ scan query, other.position = byteLength before → other = token) ∧
        (¬ Form run → ∀ token ∈ scan query, token.position ≠ byteLength before)) ∧
      (∀ token ∈ scan query, ':' ∉ token.key.toList ∧
        (∃ before after, IsRun query.toList before token.spelling after ∧
          token.position = byteLength before) ∧
        ∀ cut, cut <+: token.spelling →
          (⟨token.position + byteLength cut⟩ : String.Pos.Raw).IsValid query) ∧
      (scan query).Pairwise fun a b => a.position + byteLength a.spelling < b.position := by
  refine ⟨fun before run after hrun => ⟨fun hform => ?_, fun hform token htoken hposition => ?_⟩,
    fun token htoken => ?_, pairwise_scan query⟩
  · obtain ⟨token, hwell, hspelling⟩ := (form_iff hrun.solid).1 hform
    have hmem : { token with position := byteLength before } ∈ scan query :=
      mem_scan_iff.2 ⟨⟨hwell.key_ne, hwell.word, hwell.value_ne⟩, before, after,
        hspelling ▸ hrun, rfl⟩
    exact ⟨_, hmem, rfl, hspelling, fun other hother h => eq_of_mem_scan hother hmem h⟩
  · refine hform ((form_iff hrun.solid).2 ⟨token, (mem_scan_iff.1 htoken).1, ?_⟩)
    exact spelling_eq_of_isRun htoken hrun hposition
  · obtain ⟨hwell, before, after, hrun, hposition⟩ := mem_scan_iff.1 htoken
    refine ⟨hwell.colon_notMem, ⟨before, after, hrun, hposition⟩, ?_⟩
    rintro cut ⟨rest, hcut⟩
    have hquery : query.toList = (before ++ cut) ++ (rest ++ after) := by
      rw [hrun.eq, ← hcut]
      simp only [List.append_assoc]
    rw [hposition, ← byteLength_append]
    exact isValid_byteLength hquery

/-- A token behind letters and a blank of several bytes, with colons in its value. -/
theorem scan_exact_behind_wide :
    let query := "é:ü\u3000--a:b =k:v::"
    let before := "é:ü\u3000--a:b ".toList
    let run := "=k:v::".toList
    (IsRun query.toList before run [] ∧ Form run ∧ byteLength before = 14) ∧
      ∃ token ∈ scan query, token.position = byteLength before ∧ token.spelling = run := by
  intro query before run
  have hlast : before.getLast? = some ' ' := by decide +kernel
  have hsolid : ∀ c ∈ run, inChunk c = true := List.all_eq_true.1 (by decide +kernel)
  have hvalue : ∀ c ∈ ['v', ':', ':'], inChunk c = true := List.all_eq_true.1 (by decide +kernel)
  have hrun : IsRun query.toList before run [] := by
    refine ⟨by decide +kernel, by decide, fun c hc => inChunk_iff.1 (hsolid c hc), ?_, nofun⟩
    rw [hlast]
    rintro _ ⟨⟩
    decide
  have hform : Form run :=
    ⟨['='], ['k'], ['v', ':', ':'], .inr (.inr rfl),
      ⟨by decide, List.all_eq_true.1 (by decide +kernel)⟩,
      ⟨by decide, fun c hc => inChunk_iff.1 (hvalue c hc)⟩, by decide⟩
  obtain ⟨token, htoken, hposition, hspelling, -⟩ :=
    ((scan_exact query).1 before run [] hrun).1 hform
  exact ⟨⟨hrun, hform, by decide +kernel⟩, token, htoken, hposition, hspelling⟩

end Token

end ForumQuery.Query
