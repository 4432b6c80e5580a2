/-!
# Quoted strings

A JSON string between its quotes.  Writing escapes the quote, the backslash and the control
characters below the space, the common ones by a letter and the rest by four hexadecimal digits;
every other character stands for itself.  Reading knows these escapes, the escaped slash and
`\u` with any four digits, and refuses a control character that is not escaped.

Two `\u` escapes may name the halves of one character above U+FFFF.  A half without its partner is
no character, so the text of a string is `plain` only if every half has one.
-/

namespace ForumQuery.Json

/-- A part of a string: a character, or half of one that `\u` named. -/
inductive Piece where
  | char (c : Char)
  | half (code : Nat)
  deriving DecidableEq, Repr

/-- The text of a string. -/
inductive Text where
  | plain (text : String)
  /-- a half of some character lacks its partner -/
  | unpaired (pieces : List Piece)
  deriving DecidableEq, Repr

/-! ### Writing -/

/-- The last four hexadecimal digits of a number, in lower case. -/
def hexDigits (n : Nat) : List Char :=
  [n / 4096 % 16, n / 256 % 16, n / 16 % 16, n % 16].map Nat.digitChar

/-- How a character is written between quotes. -/
def escape (c : Char) : List Char :=
  if c = '"' then ['\\', '"']
  else if c = '\\' then ['\\', '\\']
  else if c = '\x08' then ['\\', 'b']
  else if c = '\x0c' then ['\\', 'f']
  else if c = '\n' then ['\\', 'n']
  else if c = '\r' then ['\\', 'r']
  else if c = '\t' then ['\\', 't']
  else if c.toNat < 0x20 then '\\' :: 'u' :: hexDigits c.toNat
  else [c]

/-- How a part of a string is written between quotes. -/
def Piece.spelling : Piece → List Char
  | char c => escape c
  | half code => '\\' :: 'u' :: hexDigits code

/-- How a text is written, quotes included. -/
def Text.spelling : Text → List Char
  | plain text => '"' :: (text.toList.flatMap escape ++ ['"'])
  | unpaired pieces => '"' :: (pieces.flatMap Piece.spelling ++ ['"'])

/-! ### Reading -/

/-- The value of a hexadecimal digit in either case. -/
def hexValue? (c : Char) : Option Nat :=
  if '0' ≤ c ∧ c ≤ '9' then some (c.toNat - '0'.toNat)
  else if 'a' ≤ c ∧ c ≤ 'f' then some (c.toNat - 'a'.toNat + 10)
  else if 'A' ≤ c ∧ c ≤ 'F' then some (c.toNat - 'A'.toNat + 10)
  else none

/-- The number of four hexadecimal digits. -/
def hexNumber? (a b c d : Char) : Option Nat := do
  return (← hexValue? a) * 4096 + (← hexValue? b) * 256 + (← hexValue? c) * 16 + (← hexValue? d)

/-- The part that `\u` with a number names. -/
def Piece.ofCode (code : Nat) : Piece :=
  if 0xD800 ≤ code ∧ code ≤ 0xDFFF then half code else char (Char.ofNat code)

/-- The character that a letter after a backslash names. -/
def unescape? : Char → Option Char
  | '"' => some '"'
  | '\\' => some '\\'
  | '/' => some '/'
  | 'b' => some '\x08'
  | 'f' => some '\x0c'
  | 'n' => some '\n'
  | 'r' => some '\r'
  | 't' => some '\t'
  | _ => none

/-- Reads up to the closing quote: the parts of the string, and what follows the quote. -/
def readPieces : List Char → Option (List Piece × List Char)
  | [] => none
  | '"' :: rest => some ([], rest)
  | '\\' :: 'u' :: a :: b :: c :: d :: rest => do
    let code ← hexNumber? a b c d
    let (pieces, rest) ← readPieces rest
    return (Piece.ofCode code :: pieces, rest)
  | '\\' :: letter :: rest => do
    let c ← unescape? letter
    let (pieces, rest) ← readPieces rest
    return (.char c :: pieces, rest)
  | c :: rest =>
    if c = '\\' ∨ c.toNat < 0x20 then none
    else do
      let (pieces, rest) ← readPieces rest
      return (.char c :: pieces, rest)

/-- The characters that some parts make up, if every half has its partner. -/
def characters? : List Piece → Option (List Char)
  | [] => some []
  | .char c :: rest => (characters? rest).map (c :: ·)
  | .half high :: .half low :: rest =>
    if high < 0xDC00 ∧ 0xDC00 ≤ low then
      (characters? rest).map (Char.ofNat (0x10000 + (high - 0xD800) * 0x400 + (low - 0xDC00)) :: ·)
    else none
  | .half _ :: _ => none

/-- The text that some parts make up. -/
def Text.ofPieces (pieces : List Piece) : Text :=
  match characters? pieces with
  | some cs => plain (String.ofList cs)
  | none => unpaired pieces

theorem length_of_readPieces {cs rest : List Char} {pieces : List Piece}
    (h : readPieces cs = some (pieces, rest)) : rest.length < cs.length := by
  fun_induction readPieces cs generalizing pieces rest with
  | case1 => simp at h
  | case2 => cases h; exact Nat.lt_succ_self _
  | case3 a b c d tail ih =>
    obtain ⟨code, _, h⟩ := Option.bind_eq_some_iff.1 h
    obtain ⟨⟨more, after⟩, htail, h⟩ := Option.bind_eq_some_iff.1 h
    cases h
    have := ih htail
    simp only [List.length_cons]
    omega
  | case4 letter tail _ ih =>
    obtain ⟨c, _, h⟩ := Option.bind_eq_some_iff.1 h
    obtain ⟨⟨more, after⟩, htail, h⟩ := Option.bind_eq_some_iff.1 h
    cases h
    have := ih htail
    simp only [List.length_cons]
    omega
  | case5 => simp at h
  | case6 c tail _ _ _ _ ih =>
    obtain ⟨⟨more, after⟩, htail, h⟩ := Option.bind_eq_some_iff.1 h
    cases h
    have := ih htail
    simp only [List.length_cons]
    omega

end ForumQuery.Json
