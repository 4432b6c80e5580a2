/-!
# Value lists

A value may be a list of items written with one separator, `a,b,c` or `a+b+c`.  The first separator
that occurs is the separator of the whole list; one more of them may stand after the last item.
Which separators are permitted and which characters an item may hold depends on the clause, so
both are parameters.  A permitted separator is never part of an item, even where the alphabet has
it; a separator that is not permitted is a character like any other.

A list is read in one pass, with a `ValueList.Reading` of what has been seen so far;
`ValueList.spelling` writes a list the way it is read.
-/

namespace ForumQuery.Query

/-- What stands between the items of a list. -/
inductive Separator where
  | comma
  | plus
  deriving DecidableEq, Repr

namespace Separator

/-- The character that writes a separator. -/
def char : Separator → Char
  | comma => ','
  | plus => '+'

/-- The permitted separator that a character writes. -/
def ofChar? (permitted : List Separator) (c : Char) : Option Separator :=
  permitted.find? (·.char = c)

end Separator

/-- The items of a list; a lone item may stand without a separator. -/
structure ValueList where
  items : List String
  separator : Option Separator
  deriving DecidableEq, Repr

namespace ValueList

/-- The characters of a list, without a separator after the last item. -/
def spelling (list : ValueList) : List Char :=
  match list.separator with
  | none => (list.items.map String.toList).flatten
  | some s => List.intercalate [s.char] (list.items.map String.toList)

/-- What has been read of a list. -/
structure Reading where
  /-- the separator, once one has occurred -/
  separator : Option Separator := none
  /-- the items that a separator ended -/
  items : List String := []
  /-- the characters behind the last separator -/
  item : List Char := []

namespace Reading

/-- Reads one more character. -/
def step? (permitted : List Separator) (alphabet : Char → Bool) (reading : Reading) (c : Char) :
    Option Reading :=
  match Separator.ofChar? permitted c with
  | some found =>
    if reading.separator.any (· ≠ found) then none
    else if reading.item = [] then none
    else some ⟨some found, reading.items ++ [String.ofList reading.item], []⟩
  | none => if alphabet c then some { reading with item := reading.item ++ [c] } else none

/-- The list, when there are no more characters. -/
def list? (reading : Reading) : Option ValueList :=
  let items :=
    if reading.item = [] then reading.items else reading.items ++ [String.ofList reading.item]
  if items = [] then none else some ⟨items, reading.separator⟩

end Reading

/-- Reads a list. -/
def parse? (permitted : List Separator) (alphabet : Char → Bool) (raw : String) :
    Option ValueList := do
  (← raw.toList.foldlM (Reading.step? permitted alphabet) {}).list?

end ValueList

end ForumQuery.Query
