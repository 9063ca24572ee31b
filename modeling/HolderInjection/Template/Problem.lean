/-!
# Problems of a template

The ways a template can be malformed, and the ways its values can fail it. The wording is in one
place.
-/

namespace HolderInjection.Template

/-- The two kinds of tags in a template. -/
inductive TagKind where
  /-- A tag that is replaced by a value. -/
  | insertion
  /-- A tag that opens, divides or closes a block. -/
  | block
  deriving DecidableEq, Repr

/-- What is wrong with a template or with the values it is given. -/
inductive Problem where
  | unclosedTag (kind : TagKind)
  | emptyTag (kind : TagKind)
  | invalidInsertion (expression : String)
  | invalidCondition (expression : String)
  /-- A loop is not made of an item and the list it runs over. -/
  | invalidLoop (tag : String)
  | unknownTag (tag : String)
  /-- A block is divided or closed that is not the innermost open one. -/
  | unexpectedTag (tag : String)
  | unclosedChoice
  | unclosedLoop
  /-- A value is needed that is not given. -/
  | missing (name : String)
  | notIterable (name : String)
  deriving DecidableEq, Repr

namespace Problem

def message : Problem → String
  | unclosedTag .insertion => "Unclosed variable tag."
  | unclosedTag .block => "Unclosed block tag."
  | emptyTag .insertion => "Variable tag cannot be empty."
  | emptyTag .block => "Block tag cannot be empty."
  | invalidInsertion expression => s!"Unsupported variable expression '{expression}'."
  | invalidCondition expression => s!"Unsupported if condition '{expression}'."
  | invalidLoop tag => s!"Unsupported for loop '{tag}'."
  | unknownTag tag => s!"Unsupported template tag '{tag}'."
  | unexpectedTag tag => s!"Unexpected block tag '{tag}'."
  | unclosedChoice => "Unclosed if block: missing endif."
  | unclosedLoop => "Unclosed for block: missing endfor."
  | missing name => s!"Missing template variable '{name}'."
  | notIterable name => s!"Template variable '{name}' is not iterable."

end Problem

end HolderInjection.Template
