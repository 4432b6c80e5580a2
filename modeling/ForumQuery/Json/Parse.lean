import ForumQuery.Json.Lexeme

/-!
# Reading JSON

Lexemes are taken one by one, with a stack of the arrays and objects that are still open.  A text is
a value if its lexemes lead from the state that wants a value to one value and nothing open.  Depth
is no obstacle, and neither a repeated field name nor an unpaired half of a character is refused.
-/

namespace ForumQuery.Json

/-- An array or object that is still open, with what it has so far, the latest first. -/
inductive Frame where
  | items (done : List Json)
  /-- the value of the field `name` comes next -/
  | fields (done : List (Text × Json)) (name : Text)

/-- What may come next, with the open frames, the innermost first. -/
inductive State where
  /-- a value -/
  | value (frames : List Frame)
  /-- the first item of an array, or its end -/
  | firstItem (frames : List Frame)
  /-- the first field of an object, or its end -/
  | firstField (frames : List Frame)
  /-- a further field of an object -/
  | field (done : List (Text × Json)) (frames : List Frame)
  /-- the colon after the name of a field -/
  | colon (done : List (Text × Json)) (name : Text) (frames : List Frame)
  /-- what follows a value -/
  | after (value : Json) (frames : List Frame)

namespace State

/-- Takes the first lexeme of a value. -/
def takeValue (frames : List Frame) : Lexeme → Option State
  | .scalar found => some (after (.scalar found) frames)
  | .mark .openArray => some (firstItem frames)
  | .mark .openObject => some (firstField frames)
  | _ => none

/-- Takes a lexeme. -/
def take : State → Lexeme → Option State
  | value frames, lexeme => takeValue frames lexeme
  | firstItem frames, .mark .closeArray => some (after (.array []) frames)
  | firstItem frames, lexeme => takeValue (.items [] :: frames) lexeme
  | firstField frames, .mark .closeObject => some (after (.object []) frames)
  | firstField frames, .scalar (.text name) => some (colon [] name frames)
  | field done frames, .scalar (.text name) => some (colon done name frames)
  | colon done name frames, .mark .colon => some (value (.fields done name :: frames))
  | after item (.items done :: frames), .mark .comma =>
    some (value (.items (item :: done) :: frames))
  | after item (.items done :: frames), .mark .closeArray =>
    some (after (.array (item :: done).reverse) frames)
  | after item (.fields done name :: frames), .mark .comma =>
    some (field ((name, item) :: done) frames)
  | after item (.fields done name :: frames), .mark .closeObject =>
    some (after (.object ((name, item) :: done).reverse) frames)
  | _, _ => none

/-- Takes lexemes one after the other. -/
def takeAll : State → List Lexeme → Option State
  | state, [] => some state
  | state, lexeme :: rest => do takeAll (← state.take lexeme) rest

end State

/-- The value that some lexemes make up. -/
def ofLexemes? (lexemes : List Lexeme) : Option Json :=
  match State.takeAll (.value []) lexemes with
  | some (.after value []) => some value
  | _ => none

/-- Reads a text. -/
def parse? (text : String) : Option Json := do ofLexemes? (← lex text.toList)

end ForumQuery.Json
