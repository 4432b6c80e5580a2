import ForumQuery.Query.Chunk
import ForumQuery.Text.Word

/-!
# Tokens of a query

A token is a chunk of the form `key:value`, maybe with a flag `-` or `=` in front.  The key is what
stands before the first colon and holds word characters only; the value is all that follows that
colon, more colons included.  Neither is empty.  A chunk of any other form is passed over, so a
misspelt query never fails as a whole.

`Token.spelling` writes a token the way it is read.
-/

namespace ForumQuery.Query

open ForumQuery.Text

/-- The mark in front of a key. -/
inductive Flag where
  /-- `-key:value` -/
  | exclude
  /-- `=key:value` -/
  | strict
  deriving DecidableEq, Repr

namespace Flag

/-- The character that writes a flag. -/
def char : Flag → Char
  | exclude => '-'
  | strict => '='

/-- The flag that a character writes. -/
def ofChar? : Char → Option Flag
  | '-' => some exclude
  | '=' => some strict
  | _ => none

/-- Takes a flag off the front of some characters. -/
def split : List Char → Option Flag × List Char
  | [] => (none, [])
  | c :: cs =>
    match ofChar? c with
    | some flag => (some flag, cs)
    | none => (none, c :: cs)

end Flag

/-- A clause as it is written, with the byte offset at which it starts. -/
structure Token where
  flag : Option Flag
  key : String
  value : String
  position : Nat
  deriving DecidableEq, Repr

namespace Token

/-- The characters of a token: its flag, its key, a colon and its value. -/
def spelling (token : Token) : List Char :=
  (token.flag.map Flag.char).toList ++ token.key.toList ++ ':' :: token.value.toList

/-- Reads a chunk as a token. -/
def ofChunk? (chunk : Chunk) : Option Token :=
  let (flag, body) := Flag.split chunk.text
  let key := body.takeWhile (· ≠ ':')
  match body.dropWhile (· ≠ ':') with
  | [] => none
  | _ :: value =>
    if key ≠ [] ∧ key.all isWordChar ∧ value ≠ [] then
      some ⟨flag, String.ofList key, String.ofList value, chunk.position⟩
    else none

/-- The tokens of a query, in the order in which they stand. -/
def scan (query : String) : List Token := (chunks 0 query.toList).filterMap ofChunk?

end Token

end ForumQuery.Query
