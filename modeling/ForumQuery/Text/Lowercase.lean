import ForumQuery.Text.Casing

/-!
# Lower case

`lowercase` puts a whole text into lower case.  Every character maps on its own, one of them
(`İ`) to two characters, except the capital sigma, whose form depends on where it stands: it is
`ς` at the end of a word and `σ` elsewhere.  It ends a word when the nearest character before it
has a case and the nearest one after it has none, looking past case-ignorable characters on both
sides.
-/

namespace ForumQuery.Text

/-- The lower case form of a character that is not a capital sigma. -/
def lowerChar (c : Char) : List Char :=
  if c = '\u0130' then ['i', '\u0307'] else [Char.ofNat (shiftCase caseRuns c.toNat)]

/-- Whether the first character that is not case-ignorable has a case. -/
def facesCased (cs : List Char) : Bool :=
  match cs.dropWhile isCaseIgnorable with
  | [] => false
  | c :: _ => isCased c

/-- The lower case form of the characters `after`, where `before` are the ones already passed,
the nearest first. -/
def lowerFrom (before : List Char) : (after : List Char) → List Char
  | [] => []
  | c :: rest =>
    (if c = 'Σ' then [if facesCased before && !facesCased rest then 'ς' else 'σ']
      else lowerChar c) ++ lowerFrom (c :: before) rest

/-- A text in lower case. -/
def lowercase (text : String) : String := String.ofList (lowerFrom [] text.toList)

end ForumQuery.Text
