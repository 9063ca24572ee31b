import HolderInjection.Text.Blank

/-!
# Lexemes of a type signature

A type signature is read as a list of lexemes: brackets, commas, arrows and plain characters. An
arrow is one lexeme, so that its `>` never closes a bracket. Spelling the lexemes of a text gives
the text back.
-/

namespace HolderInjection

/-- The two kinds of brackets in a type signature. -/
inductive Bracket where
  /-- Parentheses, around parameters or a whole type. -/
  | round
  /-- Angle brackets, around type arguments. -/
  | angle
  deriving DecidableEq, Repr

namespace Bracket

/-- The character that opens a bracket. -/
def opening : Bracket → Char
  | round => '('
  | angle => '<'

/-- The character that closes a bracket. -/
def closing : Bracket → Char
  | round => ')'
  | angle => '>'

end Bracket

/-- A lexeme of a type signature. -/
inductive Lexeme where
  /-- The two characters between parameters and result. -/
  | arrow
  | opener (bracket : Bracket)
  | closer (bracket : Bracket)
  /-- The separator of parameters and arguments. -/
  | comma
  /-- Any other character. -/
  | plain (char : Char)
  deriving DecidableEq, Repr

namespace Lexeme

/-- The lexeme of a character that does not belong to an arrow. -/
def ofChar (c : Char) : Lexeme :=
  if c = '(' then opener .round
  else if c = ')' then closer .round
  else if c = '<' then opener .angle
  else if c = '>' then closer .angle
  else if c = ',' then comma
  else plain c

/-- The lexemes of a text. -/
def ofText : List Char → List Lexeme
  | [] => []
  | '-' :: '>' :: text => arrow :: ofText text
  | c :: text => ofChar c :: ofText text

def chars : Lexeme → List Char
  | arrow => ['-', '>']
  | opener bracket => [bracket.opening]
  | closer bracket => [bracket.closing]
  | comma => [',']
  | plain c => [c]

def text (lexemes : List Lexeme) : List Char :=
  lexemes.flatMap chars

/-- The text of a list of lexemes, as a string. -/
def spell (lexemes : List Lexeme) : String :=
  String.ofList (text lexemes)

theorem chars_ofChar (c : Char) : (ofChar c).chars = [c] := by
  unfold ofChar
  repeat' split
  all_goals simp_all [chars, Bracket.opening, Bracket.closing]

/-- Spelling the lexemes of a text gives the text back. -/
theorem text_ofText (cs : List Char) : text (ofText cs) = cs := by
  fun_induction ofText cs with
  | case1 => rfl
  | case2 cs ih => simpa [text, chars] using ih
  | case3 c cs _ ih =>
    rw [text, List.flatMap_cons, chars_ofChar, List.singleton_append]
    exact congrArg _ ih

def isBlank : Lexeme → Bool
  | plain c => Text.isBlankChar c
  | _ => false

/-- Removes the blanks at both ends of a signature. -/
def trim (lexemes : List Lexeme) : List Lexeme :=
  Text.trimWhile isBlank lexemes

/-- Whether a lexeme contains the character that closes type arguments; an arrow does. -/
def hasClosingAngle : Lexeme → Bool
  | arrow | closer .angle => true
  | _ => false

theorem length_trim_le (lexemes : List Lexeme) : (trim lexemes).length ≤ lexemes.length :=
  Text.length_trimWhile_le isBlank lexemes

end Lexeme

end HolderInjection
