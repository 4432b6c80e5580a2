import ForumQuery.Sql.Syntax

/-!
# Fragments

A piece of a statement's text together with the values for its placeholders, in the order in which
the placeholders stand.  Fragments are put together end to end, text and values alike, so the two
stay in step.
-/

namespace ForumQuery.Sql

/-- A piece of text and the values for its placeholders. -/
structure Fragment where
  text : String
  params : List Param := []
  deriving DecidableEq, Repr

namespace Fragment

/-- One fragment after the other. -/
def append (first second : Fragment) : Fragment :=
  ⟨first.text ++ second.text, first.params ++ second.params⟩

instance : Append Fragment := ⟨append⟩

/-- Text without placeholders. -/
def plain (text : String) : Fragment := ⟨text, []⟩

/-- A placeholder for a value. -/
def placeholder (param : Param) : Fragment := ⟨"?", [param]⟩

/-- Fragments one after the other. -/
def concat : List Fragment → Fragment
  | [] => plain ""
  | first :: rest => first ++ concat rest

/-- Fragments one after the other, with a text between each two. -/
def separated (between : String) : List Fragment → Fragment
  | [] => plain ""
  | first :: rest => first ++ concat (rest.map (plain between ++ ·))

@[simp] theorem text_append (first second : Fragment) :
    (first ++ second).text = first.text ++ second.text := rfl

@[simp] theorem params_append (first second : Fragment) :
    (first ++ second).params = first.params ++ second.params := rfl

end Fragment

end ForumQuery.Sql
