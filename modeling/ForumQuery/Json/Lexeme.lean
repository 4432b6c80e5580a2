import ForumQuery.Json.Basic
import ForumQuery.Text.Runs

/-!
# Lexemes

The marks and scalars that a JSON text is made of.  Between them there may be spaces, tabs and line
ends, and nothing else.  An integer has no zero in front, and minus zero is no integer.
-/

namespace ForumQuery.Json

/-- A mark of punctuation. -/
inductive Mark where
  | openArray
  | closeArray
  | openObject
  | closeObject
  | comma
  | colon
  deriving DecidableEq, Repr

/-- The character of a mark. -/
def Mark.char : Mark → Char
  | openArray => '['
  | closeArray => ']'
  | openObject => '\x7b'
  | closeObject => '\x7d'
  | comma => ','
  | colon => ':'

/-- The mark of a character. -/
def Mark.ofChar? : Char → Option Mark
  | '[' => some openArray
  | ']' => some closeArray
  | '\x7b' => some openObject
  | '\x7d' => some closeObject
  | ',' => some comma
  | ':' => some colon
  | _ => none

/-- A mark or a scalar. -/
inductive Lexeme where
  | mark (mark : Mark)
  | scalar (value : Scalar)
  deriving DecidableEq, Repr

/-- Whether a character may stand between lexemes. -/
def isSpace (c : Char) : Bool := c == ' ' || c == '\n' || c == '\t' || c == '\r'

/-! ### Numbers -/

/-- Whether a character may be part of a number. -/
def isNumberChar (c : Char) : Bool :=
  c.isDigit || c == '-' || c == '+' || c == '.' || c == 'e' || c == 'E'

/-- Whether some characters are digits, one at least. -/
def isDigits (cs : List Char) : Bool := !cs.isEmpty && cs.all Char.isDigit

/-- Whether some characters are nothing or an exponent. -/
def isExponent : List Char → Bool
  | [] => true
  | e :: cs =>
    (e == 'e' || e == 'E') &&
      match cs with
      | '+' :: digits => isDigits digits
      | '-' :: digits => isDigits digits
      | digits => isDigits digits

/-- Whether some characters are a fraction or an exponent or both or nothing. -/
def isTail : List Char → Bool
  | '.' :: cs => isDigits (cs.takeWhile Char.isDigit) && isExponent (cs.dropWhile Char.isDigit)
  | cs => isExponent cs

/-- The number that digits write. -/
def digitsValue (digits : List Char) : Nat :=
  digits.foldl (fun n c => 10 * n + (c.toNat - '0'.toNat)) 0

/-- Reads a whole number from some characters. -/
def readNumber? (cs : List Char) : Option Scalar :=
  let negative := cs.head? = some '-'
  let body := if negative then cs.tail else cs
  let digits := body.takeWhile Char.isDigit
  let tail := body.dropWhile Char.isDigit
  if digits = [] ∨ digits.head? = some '0' ∧ digits ≠ ['0'] ∨ isTail tail = false then none
  else if tail ≠ [] ∨ negative ∧ digits = ['0'] then some (.real cs)
  else some (.int (if negative then -(digitsValue digits : Int) else digitsValue digits))

/-! ### Texts -/

/-- Reads the lexemes of a text. -/
def lex : List Char → Option (List Lexeme)
  | [] => some []
  | '"' :: cs =>
    match _h : readPieces cs with
    | some (pieces, rest) => (lex rest).map (.scalar (.text (.ofPieces pieces)) :: ·)
    | none => none
  | 'n' :: 'u' :: 'l' :: 'l' :: cs => (lex cs).map (.scalar .null :: ·)
  | 't' :: 'r' :: 'u' :: 'e' :: cs => (lex cs).map (.scalar (.bool true) :: ·)
  | 'f' :: 'a' :: 'l' :: 's' :: 'e' :: cs => (lex cs).map (.scalar (.bool false) :: ·)
  | c :: cs =>
    if isSpace c then lex cs
    else
      match Mark.ofChar? c with
      | some mark => (lex cs).map (.mark mark :: ·)
      | none =>
        if isNumberChar c then
          match readNumber? (c :: cs.takeWhile isNumberChar) with
          | some number => (lex (cs.dropWhile isNumberChar)).map (.scalar number :: ·)
          | none => none
        else none
termination_by cs => cs.length
decreasing_by
  · exact Nat.lt_succ_of_lt (length_of_readPieces _h)
  all_goals simp only [List.length_cons]
  · omega
  · omega
  · omega
  · omega
  · omega
  · exact Nat.lt_succ_of_le (ForumQuery.Text.length_dropWhile_le _ _)

end ForumQuery.Json
