import ForumQuery.Json.Parse
import Mathlib.Data.List.Basic
import Mathlib.Data.List.TakeWhile

/-!
# Lexemes — marks and scalars that are written are read back

A string is written character by character, each in one of three ways (`escape_cases`), and each
way is undone where it is met (`readPieces_escape`).  The digits of an integer are read as that
integer (`readNumber?_toString`), for its first digit is no zero unless it is the only one; but a
number goes on as far as there are characters of numbers, so no such character may follow it
(`Stops`).

`Spells` says how characters are put together from marks and scalars with spaces between them.
What is spelt so is read as these lexemes (`Spells.lex_eq`).  Scalars take part in it if they are
`Plain`: the halves of a character that stand alone and the numbers that are not integers are left
out, which this library reads but never writes.
-/

namespace ForumQuery.Json

/-! ### Strings -/

theorem hexValue?_digitChar {d : Nat} (h : d < 16) : hexValue? d.digitChar = some d := by
  have hall : ∀ d < 16, hexValue? (Nat.digitChar d) = some d := by decide
  exact hall d h

/-- The three ways of writing a character: by a letter, by its number, and as it is. -/
theorem escape_cases (c : Char) :
    (∃ letter, escape c = ['\\', letter] ∧ unescape? letter = some c) ∨
      (c.toNat < 0x20 ∧ escape c = '\\' :: 'u' :: hexDigits c.toNat) ∨
      (c ≠ '"' ∧ c ≠ '\\' ∧ ¬ c.toNat < 0x20 ∧ escape c = [c]) := by
  rw [escape]
  split_ifs with hquote hslash hback hfeed hline hreturn htab hcontrol
  · exact .inl ⟨_, rfl, congrArg some hquote.symm⟩
  · exact .inl ⟨_, rfl, congrArg some hslash.symm⟩
  · exact .inl ⟨_, rfl, congrArg some hback.symm⟩
  · exact .inl ⟨_, rfl, congrArg some hfeed.symm⟩
  · exact .inl ⟨_, rfl, congrArg some hline.symm⟩
  · exact .inl ⟨_, rfl, congrArg some hreturn.symm⟩
  · exact .inl ⟨_, rfl, congrArg some htab.symm⟩
  · exact .inr (.inl ⟨hcontrol, rfl⟩)
  · exact .inr (.inr ⟨hquote, hslash, hcontrol, rfl⟩)

section ReadPieces

variable (rest : List Char)

theorem readPieces_letter {letter c : Char} (h : unescape? letter = some c) :
    readPieces ('\\' :: letter :: rest) =
      (readPieces rest).map fun read => (.char c :: read.1, read.2) := by
  rw [readPieces, h]
  · cases readPieces rest <;> rfl
  · -- the letter `u` names no character by itself
    rintro _ _ _ _ _ rfl
    cases h

theorem readPieces_hexDigits {n : Nat} (h : n < 65536) :
    readPieces ('\\' :: 'u' :: (hexDigits n ++ rest)) =
      (readPieces rest).map fun read => (.ofCode n :: read.1, read.2) := by
  have hnumber : hexNumber? (n / 4096 % 16).digitChar (n / 256 % 16).digitChar
      (n / 16 % 16).digitChar (n % 16).digitChar = some n := by
    simp only [hexNumber?, hexValue?_digitChar (Nat.mod_lt _ (by decide : 0 < 16)),
      Option.pure_def, Option.bind_eq_bind, Option.bind_some, Option.some.injEq]
    omega
  simp only [hexDigits, List.map_cons, List.map_nil, List.cons_append, List.nil_append]
  rw [readPieces, hnumber]
  cases readPieces rest <;> rfl

theorem readPieces_char {c : Char} (hquote : c ≠ '"') (hslash : c ≠ '\\')
    (hcontrol : ¬ c.toNat < 0x20) :
    readPieces (c :: rest) = (readPieces rest).map fun read => (.char c :: read.1, read.2) := by
  rw [readPieces, if_neg (not_or.2 ⟨hslash, hcontrol⟩)]
  · cases readPieces rest <;> rfl
  · exact hquote
  · rintro _ _ _ _ _ rfl
    exact absurd rfl hslash
  · rintro _ _ rfl
    exact absurd rfl hslash

theorem readPieces_escape (c : Char) :
    readPieces (escape c ++ rest) =
      (readPieces rest).map fun read => (.char c :: read.1, read.2) := by
  rcases escape_cases c with ⟨letter, hescape, hletter⟩ | ⟨hcontrol, hescape⟩ |
    ⟨hquote, hslash, hcontrol, hescape⟩
  · rw [hescape]
    exact readPieces_letter rest hletter
  · have hpiece : Piece.ofCode c.toNat = .char c := by
      rw [Piece.ofCode, if_neg (by omega), Char.ofNat_toNat]
    rw [hescape, List.cons_append, List.cons_append, readPieces_hexDigits rest (by omega), hpiece]
  · rw [hescape]
    exact readPieces_char rest hquote hslash hcontrol

/-- **What is written between quotes is read back**, up to the closing quote. -/
theorem readPieces_quoted (cs : List Char) :
    readPieces (cs.flatMap escape ++ '"' :: rest) = some (cs.map .char, rest) := by
  induction cs with
  | nil => rw [List.flatMap_nil, List.nil_append, readPieces, List.map_nil]
  | cons c cs ih => rw [List.flatMap_cons, List.append_assoc, readPieces_escape, ih]; rfl

end ReadPieces

theorem characters?_map_char (cs : List Char) : characters? (cs.map .char) = some cs := by
  induction cs with
  | nil => rfl
  | cons c cs ih => rw [List.map_cons, characters?, ih]; rfl

theorem ofPieces_map_char (text : String) :
    Text.ofPieces (text.toList.map .char) = .plain text := by
  rw [Text.ofPieces, characters?_map_char]
  exact congrArg Text.plain String.ofList_toList

/-! ### Digits -/

theorem digitsValue_toDigits (n : Nat) : digitsValue (Nat.toDigits 10 n) = n := by
  rw [digitsValue, ← Nat.ofDigitChars_eq_foldl, Nat.ofDigitChars_ten_toDigits]

theorem isDigit_toDigits (n : Nat) : ∀ c ∈ Nat.toDigits 10 n, c.isDigit = true :=
  fun _ hc => Nat.isDigit_of_mem_toDigits (by decide) (by decide) hc

/-- Only the digits of zero start with a zero. -/
theorem eq_zero_of_head?_toDigits {n : Nat} (h : (Nat.toDigits 10 n).head? = some '0') :
    n = 0 := by
  induction n using Nat.strongRecOn with
  | ind n ih =>
      by_cases hn : n < 10
      · rw [Nat.toDigits_of_lt_base hn] at h
        simpa using h
      · rw [Nat.toDigits_of_base_le (by decide) (by omega),
          List.head?_append_of_ne_nil _ Nat.toDigits_ne_nil] at h
        have hzero := ih (n / 10) (by omega) h
        omega

theorem toDigits_eq_zero_iff {n : Nat} : Nat.toDigits 10 n = ['0'] ↔ n = 0 :=
  ⟨fun h => eq_zero_of_head?_toDigits (by rw [h]; rfl), by rintro rfl; rfl⟩

/-! ### Numbers -/

theorem toList_toString_natCast (n : Nat) : (toString (n : Int)).toList = Nat.toDigits 10 n := by
  rw [Int.toString_eq_repr, Int.repr_eq_if, if_pos (by omega), Int.toNat_natCast, Nat.toList_repr]

theorem toList_toString_negSucc (n : Nat) :
    (toString (Int.negSucc n)).toList = '-' :: Nat.toDigits 10 (n + 1) := by
  have hnat : (-Int.negSucc n).toNat = n + 1 := by omega
  rw [Int.toString_eq_repr, Int.repr_eq_if, if_neg (by omega), hnat, String.toList_append,
    Nat.toList_repr]
  rfl

section ReadNumber

variable (n : Nat)

theorem takeWhile_toDigits :
    (Nat.toDigits 10 n).takeWhile Char.isDigit = Nat.toDigits 10 n :=
  List.takeWhile_eq_self_iff.2 (isDigit_toDigits n)

theorem dropWhile_toDigits : (Nat.toDigits 10 n).dropWhile Char.isDigit = [] :=
  List.dropWhile_eq_nil_iff.2 (isDigit_toDigits n)

theorem readNumber?_toDigits : readNumber? (Nat.toDigits 10 n) = some (.int n) := by
  have hsign : (Nat.toDigits 10 n).head? ≠ some '-' := fun h =>
    absurd (isDigit_toDigits n '-' (List.mem_of_mem_head? h)) (by decide)
  have hzero : ¬ ((Nat.toDigits 10 n).head? = some '0' ∧ Nat.toDigits 10 n ≠ ['0']) := fun h =>
    h.2 (toDigits_eq_zero_iff.2 (eq_zero_of_head?_toDigits h.1))
  simp [readNumber?, hsign, takeWhile_toDigits, dropWhile_toDigits, hzero, isTail, isExponent,
    digitsValue_toDigits]

theorem readNumber?_neg_toDigits :
    readNumber? ('-' :: Nat.toDigits 10 (n + 1)) = some (.int (Int.negSucc n)) := by
  have hzero : (Nat.toDigits 10 (n + 1)).head? ≠ some '0' := fun h =>
    n.succ_ne_zero (eq_zero_of_head?_toDigits h)
  have hne : Nat.toDigits 10 (n + 1) ≠ ['0'] := mt toDigits_eq_zero_iff.1 n.succ_ne_zero
  simp [readNumber?, takeWhile_toDigits, dropWhile_toDigits, hzero, hne, isTail, isExponent,
    digitsValue_toDigits, Int.negSucc_eq]

end ReadNumber

/-- **An integer that is written is read back.** -/
theorem readNumber?_toString (n : Int) : readNumber? (toString n).toList = some (.int n) := by
  cases n with
  | ofNat n => exact (toList_toString_natCast n).symm ▸ readNumber?_toDigits n
  | negSucc n => exact (toList_toString_negSucc n).symm ▸ readNumber?_neg_toDigits n

theorem isNumberChar_toString (n : Int) : ∀ c ∈ (toString n).toList, isNumberChar c = true := by
  have hdigits : ∀ n, ∀ c ∈ Nat.toDigits 10 n, isNumberChar c = true := fun n c hc => by
    simp [isNumberChar, isDigit_toDigits n c hc]
  cases n with
  | ofNat n => exact (toList_toString_natCast n).symm ▸ hdigits n
  | negSucc n =>
      rw [toList_toString_negSucc]
      exact List.forall_mem_cons.2 ⟨by decide, hdigits (n + 1)⟩

/-! ### One lexeme at a time -/

theorem lex_space {c : Char} (h : isSpace c = true) (cs : List Char) : lex (c :: cs) = lex cs := by
  rw [lex, if_pos h]
  · rintro rfl
    exact absurd h (by decide)
  all_goals
    rintro _ rfl
    exact absurd h (by decide)

theorem lex_mark (mark : Mark) (cs : List Char) :
    lex (mark.char :: cs) = (lex cs).map (.mark mark :: ·) := by
  have hspace : isSpace mark.char = false := by cases mark <;> rfl
  have hmark : Mark.ofChar? mark.char = some mark := by cases mark <;> rfl
  rw [lex, if_neg (Bool.eq_false_iff.1 hspace), hmark]
  all_goals cases mark <;> simp [Mark.char]

theorem lex_text (text : String) (rest : List Char) :
    lex ((Text.plain text).spelling ++ rest) =
      (lex rest).map (.scalar (.text (.plain text)) :: ·) := by
  rw [Text.spelling, List.cons_append, List.append_assoc, List.singleton_append, lex]
  split
  · next h =>
    rw [readPieces_quoted] at h
    cases h
    rw [ofPieces_map_char]
  · next h =>
    rw [readPieces_quoted] at h
    cases h

/-- A number does not go on into some characters. -/
def Stops (cs : List Char) : Prop := ∀ c ∈ cs.head?, isNumberChar c = false

@[simp] theorem stops_nil : Stops [] := nofun

@[simp] theorem stops_cons {c : Char} {cs : List Char} :
    Stops (c :: cs) ↔ isNumberChar c = false := by
  simp [Stops]

theorem Stops.takeWhile_eq_nil {cs : List Char} (h : Stops cs) :
    cs.takeWhile isNumberChar = [] := by
  cases cs with
  | nil => rfl
  | cons c cs => rw [List.takeWhile_cons_of_neg (Bool.eq_false_iff.1 (stops_cons.1 h))]

theorem Stops.dropWhile_eq_self {cs : List Char} (h : Stops cs) :
    cs.dropWhile isNumberChar = cs := by
  cases cs with
  | nil => rfl
  | cons c cs => rw [List.dropWhile_cons_of_neg (Bool.eq_false_iff.1 (stops_cons.1 h))]

/-- A character of a number starts nothing else. -/
theorem lex_of_isNumberChar {c : Char} (h : isNumberChar c = true) (cs : List Char) :
    lex (c :: cs) = (readNumber? (c :: cs.takeWhile isNumberChar)).bind fun number =>
      (lex (cs.dropWhile isNumberChar)).map (.scalar number :: ·) := by
  have hspace : isSpace c = false := by
    refine Bool.eq_false_iff.2 fun hspace => ?_
    simp only [isSpace, Bool.or_eq_true, beq_iff_eq] at hspace
    rcases hspace with ((rfl | rfl) | rfl) | rfl <;> exact absurd h (by decide)
  have hmark : Mark.ofChar? c = none := by
    unfold Mark.ofChar?
    split
    all_goals first | rfl | exact absurd h (by decide)
  rw [lex, if_neg (Bool.eq_false_iff.1 hspace), hmark]
  · simp only [h, if_true]
    cases readNumber? (c :: cs.takeWhile isNumberChar) <;> rfl
  · rintro rfl
    exact absurd h (by decide)
  all_goals
    rintro _ rfl
    exact absurd h (by decide)

theorem lex_int (n : Int) {rest : List Char} (h : Stops rest) :
    lex ((toString n).toList ++ rest) = (lex rest).map (.scalar (.int n) :: ·) := by
  have hread := readNumber?_toString n
  have hall := isNumberChar_toString n
  cases hcs : (toString n).toList with
  | nil =>
      rw [hcs] at hread
      cases hread
  | cons c cs =>
      rw [hcs] at hread hall
      obtain ⟨hc, hcs⟩ := List.forall_mem_cons.1 hall
      rw [List.cons_append, lex_of_isNumberChar hc, List.takeWhile_append_of_pos hcs,
        List.dropWhile_append_of_pos hcs, h.takeWhile_eq_nil, h.dropWhile_eq_self,
        List.append_nil, hread, Option.bind_some]

/-! ### Lexemes one after the other -/

/-- Every half of a character has its partner. -/
def Text.Plain : Text → Prop
  | plain _ => True
  | unpaired _ => False

/-- A scalar that is no number but an integer, and a text of whole characters. -/
def Scalar.Plain : Scalar → Prop
  | null | bool _ | int _ => True
  | real _ => False
  | text value => value.Plain

theorem Scalar.Plain.lex_eq {value : Scalar} (hvalue : value.Plain) {rest : List Char}
    (h : Stops rest) : lex (value.spelling ++ rest) = (lex rest).map (.scalar value :: ·) := by
  cases value with
  | null =>
      change lex ('n' :: 'u' :: 'l' :: 'l' :: rest) = _
      rw [lex]
  | bool value =>
      cases value with
      | true =>
          change lex ('t' :: 'r' :: 'u' :: 'e' :: rest) = _
          rw [lex]
      | false =>
          change lex ('f' :: 'a' :: 'l' :: 's' :: 'e' :: rest) = _
          rw [lex]
  | int value => exact lex_int value h
  | real spelling => exact hvalue.elim
  | text value =>
      cases value with
      | plain text => exact lex_text text rest
      | unpaired pieces => exact hvalue.elim

/-- Characters spell lexemes. -/
inductive Spells : List Char → List Lexeme → Prop where
  | nil : Spells [] []
  /-- a space in front of what is spelt -/
  | space {c : Char} {cs : List Char} {lexemes : List Lexeme} :
      isSpace c = true → Spells cs lexemes → Spells (c :: cs) lexemes
  /-- a mark -/
  | mark (mark : Mark) {cs : List Char} {lexemes : List Lexeme} :
      Spells cs lexemes → Spells (mark.char :: cs) (.mark mark :: lexemes)
  /-- a scalar, with no more digits behind it -/
  | scalar (value : Scalar) {cs : List Char} {lexemes : List Lexeme} :
      value.Plain → Stops cs → Spells cs lexemes →
      Spells (value.spelling ++ cs) (.scalar value :: lexemes)

/-- **Lexemes that are spelt are read back.** -/
theorem Spells.lex_eq {cs : List Char} {lexemes : List Lexeme} (h : Spells cs lexemes) :
    lex cs = some lexemes := by
  induction h with
  | nil => rw [lex]
  | space hspace _ ih => rw [lex_space hspace, ih]
  | mark mark _ ih => rw [lex_mark, ih]; rfl
  | scalar value hvalue hstops _ ih => rw [hvalue.lex_eq hstops, ih]; rfl

end ForumQuery.Json
