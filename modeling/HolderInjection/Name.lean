import HolderInjection.Text.DecimalDigit
import HolderInjection.Text.Letter
import HolderInjection.Text.Split

/-!
# Names

Class names are identifiers, type names are identifiers joined by dots, and package names are
dotted too but stricter: a segment starts with a letter and holds no dollar sign. Letters and
digits are those of any script. A module is named after its class without the conventional ending.
-/

namespace HolderInjection.Name

open Text

/-- Whether a character may start an identifier. -/
def isIdentifierStart (c : Char) : Bool :=
  isLetter c || c == '_'

/-- Whether a character may stand in a segment of a package name. -/
def isPackagePart (c : Char) : Bool :=
  isLetter c || isDecimalDigit c || c == '_'

/-- Whether a character may stand in an identifier. -/
def isIdentifierPart (c : Char) : Bool :=
  isPackagePart c || c == '$'

/-- Whether a text is an identifier. -/
def isIdentifier : List Char → Bool
  | [] => false
  | c :: text => isIdentifierStart c && text.all isIdentifierPart

def isPackageSegment : List Char → Bool
  | [] => false
  | c :: text => isLetter c && text.all isPackagePart

/-- The segments of a dotted name. -/
def segments (name : List Char) : List (List Char) :=
  pieces (· == '.') name

/-- Whether every segment of a dotted name is an identifier. -/
def isQualified (name : List Char) : Bool :=
  (segments name).all isIdentifier

/-- Whether every segment of a dotted name is a segment of a package name. -/
def isPackage (name : List Char) : Bool :=
  (segments name).all isPackageSegment

/-- The last segment of a dotted name: what follows its last dot, or all of it. -/
def lastSegment (name : List Char) : List Char :=
  (name.reverse.takeWhile (· != '.')).reverse

def simple (name : String) : String :=
  String.ofList (lastSegment name.toList)

/-- Whether a name is missing: empty or blank throughout. -/
def isMissing (name : String) : Bool :=
  isBlank name.toList

/-- The name of a class within its package; a missing package leaves the class name alone. -/
def qualify (package className : String) : String :=
  if isMissing package then className else package ++ "." ++ className

/-- What every module name ends with. -/
def moduleEnding : String :=
  "Module"

/-- Removes one occurrence of a non-empty ending. -/
def dropEnding (ending name : String) : String :=
  if ending.toList ≠ [] ∧ ending.toList.isSuffixOf name.toList then
    String.ofList (name.toList.take (name.toList.length - ending.toList.length))
  else name

/-- The module that registers a class: the class name without one conventional ending. -/
def moduleFor (className conventionalEnding : String) : String :=
  if isMissing className then moduleEnding
  else dropEnding conventionalEnding className ++ moduleEnding

/-- The fragment that stands for one character of a free text in an identifier. -/
def sanitizeChar (c : Char) : Char :=
  if c.isAlphanum then c.toLower else '_'

/-- Turns free text into a lower-case ASCII fragment of an identifier: every other character
becomes an underscore, and so does a leading digit. -/
def sanitize : List Char → List Char
  | [] => []
  | c :: text => (if c.isDigit then '_' else sanitizeChar c) :: text.map sanitizeChar

end HolderInjection.Name
