import HolderInjection.TypeExpr.Nesting

/-!
# Problems of a type signature

Every way a signature can miss the grammar, with the part of the text that shows it. The wording
is in one place.
-/

namespace HolderInjection.TypeExpr

/-- The first violation of the grammar found in a type signature. -/
inductive Problem where
  | empty
  /-- A type is marked as suspending, but is no function. -/
  | suspendsNothing (text : String)
  /-- What stands before the arrow is not one pair of parentheses. -/
  | bareParams (params : String)
  /-- Nothing stands after the arrow. -/
  | noResult (text : String)
  /-- Something other than a question mark follows a parenthesized type. -/
  | afterParenthesis (remainder : String)
  /-- The name before the type arguments is not a qualified name. -/
  | invalidBase (base : String)
  /-- Something other than a question mark follows the type arguments. -/
  | afterArguments (suffix : String)
  | noArguments (base : String)
  | invalidName (text : String)
  /-- A nullable type is marked nullable again. -/
  | markedTwice (text : String)
  /-- A bracket closes that is not the innermost open one. -/
  | unbalanced (closing : Bracket) (text : String)
  /-- A given bracket is never closed. -/
  | unclosed (opening : Bracket) (text : String)
  /-- Some bracket in a list of types is never closed. -/
  | unclosedInList (text : String)
  deriving DecidableEq, Repr

namespace Problem

def message : Problem → String
  | empty => "type signature is empty"
  | suspendsNothing text => s!"'suspend' requires a function type, got '{text}'"
  | bareParams params => s!"function parameters must be parenthesized, got '{params}'"
  | noResult text => s!"function type '{text}' has no return type"
  | afterParenthesis remainder => s!"unexpected text '{remainder}' after parenthesized type"
  | invalidBase base => s!"invalid generic base type '{base}'"
  | afterArguments suffix => s!"unexpected text '{suffix}' after type arguments"
  | noArguments base => s!"generic type '{base}' has no type arguments"
  | invalidName text => s!"invalid type name '{text}'"
  | markedTwice text => s!"repeated nullable marker in '{text}'"
  | unbalanced closing text => s!"unbalanced '{closing.closing}' in '{text}'"
  | unclosed opening text => s!"unclosed '{opening.opening}' in '{text}'"
  | unclosedInList text => s!"unclosed brackets in '{text}'"

/-- The problem of a text in which the bracket that closes `bracket` was looked for. -/
def ofBracket (bracket : Bracket) (text : List Lexeme) : Lexeme.Imbalance → Problem
  | .unexpected closing => unbalanced closing (Lexeme.spell text)
  | .unclosed => unclosed bracket (Lexeme.spell text)

/-- The problem of a text that was cut at its commas. -/
def ofList (text : List Lexeme) : Lexeme.Imbalance → Problem
  | .unexpected closing => unbalanced closing (Lexeme.spell text)
  | .unclosed => unclosedInList (Lexeme.spell text)

end Problem

end HolderInjection.TypeExpr
