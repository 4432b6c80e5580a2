import ForumQuery.Json.Quoted

/-!
# JSON values

A value of the data format: a scalar, an array, or an object, whose fields keep their order and may
repeat a name.  The only numbers with a meaning here are integers; a number that is written with a
fraction or an exponent, and minus zero, is kept as it is written.

A value has two printed forms, one without any blank (`render`) and one with a line for each item,
indented by two spaces for each level (`pretty`).
-/

namespace ForumQuery

namespace Json

/-- A value without parts. -/
inductive Scalar where
  | null
  | bool (value : Bool)
  | int (value : Int)
  /-- a number that is not written as an integer -/
  | real (spelling : List Char)
  | text (value : Text)
  deriving DecidableEq, Repr

/-- How a scalar is written. -/
def Scalar.spelling : Scalar → List Char
  | null => "null".toList
  | bool true => "true".toList
  | bool false => "false".toList
  | int value => (toString value).toList
  | real spelling => spelling
  | text value => value.spelling

end Json

open Json in
/-- A value of the data format. -/
inductive Json where
  | scalar (value : Scalar)
  | array (items : List Json)
  | object (fields : List (Text × Json))
  deriving Repr

namespace Json

/-! ### Making values -/

/-- The value of no value. -/
def null : Json := scalar .null

/-- The value of a truth value. -/
def bool (value : Bool) : Json := scalar (.bool value)

/-- The value of an integer. -/
def int (value : Int) : Json := scalar (.int value)

/-- The value of a text. -/
def string (value : String) : Json := scalar (.text (.plain value))

/-- The object of some named values. -/
def record (fields : List (String × Json)) : Json :=
  object (fields.map fun field => (.plain field.1, field.2))

/-! ### Printing -/

mutual

/-- How a value is written without blanks. -/
def render : Json → List Char
  | scalar value => value.spelling
  | array items => '[' :: (renderItems items ++ [']'])
  | object fields => '\x7b' :: (renderFields fields ++ ['\x7d'])

/-- The items of an array, with commas between them. -/
def renderItems : List Json → List Char
  | [] => []
  | [item] => render item
  | item :: rest => render item ++ ',' :: renderItems rest

/-- The fields of an object, with commas between them. -/
def renderFields : List (Text × Json) → List Char
  | [] => []
  | [(name, value)] => name.spelling ++ ':' :: render value
  | (name, value) :: rest => name.spelling ++ ':' :: (render value ++ ',' :: renderFields rest)

end

/-- A new line at a depth. -/
def newline (depth : Nat) : List Char := '\n' :: List.replicate (2 * depth) ' '

mutual

/-- How a value at a depth is written with a line for each item. -/
def prettyAt (depth : Nat) : Json → List Char
  | scalar value => value.spelling
  | array [] => ['[', ']']
  | array (item :: rest) =>
    '[' :: (newline (depth + 1) ++ prettyAt (depth + 1) item ++ prettyItems (depth + 1) rest
      ++ newline depth ++ [']'])
  | object [] => ['\x7b', '\x7d']
  | object ((name, value) :: rest) =>
    '\x7b' :: (newline (depth + 1) ++ name.spelling ++ ':' :: ' ' :: prettyAt (depth + 1) value
      ++ prettyFields (depth + 1) rest ++ newline depth ++ ['\x7d'])

/-- The items after the first, each on a line of its own. -/
def prettyItems (depth : Nat) : List Json → List Char
  | [] => []
  | item :: rest => ',' :: (newline depth ++ prettyAt depth item ++ prettyItems depth rest)

/-- The fields after the first, each on a line of its own. -/
def prettyFields (depth : Nat) : List (Text × Json) → List Char
  | [] => []
  | (name, value) :: rest =>
    ',' :: (newline depth ++ name.spelling ++ ':' :: ' ' :: prettyAt depth value
      ++ prettyFields depth rest)

end

/-- How a value is written with a line for each item. -/
def pretty (value : Json) : String := String.ofList (prettyAt 0 value)

/-- How a value is written without blanks. -/
def compact (value : Json) : String := String.ofList (render value)

end Json

end ForumQuery
