import HolderInjection.TypeExpr.Parser

/-!
# Keys of type signatures

Signatures of one type share a key, however they are spelled: the canonical text of the type. Text
that is no type is its own key, blanks at the ends aside. The erased name is cut out of the text
without reading it as a type.
-/

namespace HolderInjection.TypeExpr

/-- The key under which a signature is looked up. -/
def key (signature : String) : String :=
  match parse signature with
  | .ok type => type.render
  | .error _ => String.ofList (Text.trim signature.toList)

/-- Removes one question mark at the end of a text. -/
def dropQuestionMark (text : List Char) : List Char :=
  if text.getLast? = some '?' then text.dropLast else text

/-- The last segment of the name in front of the type arguments. -/
def erasedName (signature : String) : String :=
  let name := Text.trim ((Text.trim signature.toList).takeWhile (· != '<'))
  String.ofList (Name.lastSegment (dropQuestionMark name))

end HolderInjection.TypeExpr
