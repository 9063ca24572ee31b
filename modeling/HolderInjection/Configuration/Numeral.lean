import HolderInjection.Text.Blank
import HolderInjection.Text.Split

/-!
# Numerals

A numeral is a sign, if any, and digits. Leading zeros do not count, nor do underscores behind
them, and a minus sign may also stand where they end. Single underscores may group the digits that
count, and a fraction of zeros changes nothing. White space around a numeral is ignored, but the
information separators are not white space here.
-/

namespace HolderInjection.Numeral

/-- Whether a character may stand around a numeral. -/
def isSpace (c : Char) : Bool :=
  Text.isBlankChar c && !(0x1C ≤ c.toNat && c.toNat ≤ 0x1F)

/-- What is left of a text when zeros and underscores in front are passed over, of which `last` is
the latest. It is kept if the text ends there or goes on with a fraction. -/
def significant (last : Char) : List Char → List Char
  | [] => [last]
  | c :: text =>
    if c = '0' ∨ c = '_' then significant c text
    else if c = '.' then last :: c :: text
    else c :: text

/-- The text of an unsigned numeral, which starts with a digit, without its leading zeros. -/
def withoutLeadingZeros? : List Char → Option (List Char)
  | [] => none
  | c :: text =>
    if c = '0' then some (significant c text)
    else if c.isDigit then some (c :: text)
    else none

/-- A text without its fraction, if that is one zero or more. -/
def withoutFraction (text : List Char) : List Char :=
  match text.dropWhile (· != '.') with
  | '.' :: '0' :: zeros => if zeros.all (· == '0') then text.takeWhile (· != '.') else text
  | _ => text

/-- A text without its underscores, each of which stands between two other characters. -/
def ungrouped? (text : List Char) : Option (List Char) :=
  let groups := Text.pieces (· == '_') text
  if groups.any List.isEmpty then none else some groups.flatten

/-- What decides the value of an unsigned numeral: its digits, and the minus sign that may stand in
front of them. -/
def core? (text : List Char) : Option (List Char) :=
  (withoutLeadingZeros? text).bind fun text => ungrouped? (withoutFraction text)

def addDigit (value : Nat) (digit : Char) : Nat :=
  10 * value + (digit.toNat - '0'.toNat)

/-- The number of some digits, of which the first counts: it is no zero unless it stands alone. -/
def natural? (text : List Char) : Option Nat :=
  if text = ['0'] then some 0
  else if text ≠ [] ∧ text.head? ≠ some '0' ∧ text.all Char.isDigit then
    some (text.foldl addDigit 0)
  else none

/-- The number of some digits with a minus sign in front, if it is negative. -/
def signed? : List Char → Option Int
  | '-' :: text => (natural? text).map fun value => -value
  | text => (natural? text).map fun value => value

def integer? (text : List Char) : Option Int :=
  match Text.trimWhile isSpace text with
  | '-' :: text => ((core? text).bind natural?).map fun value => -value
  | '+' :: text => (core? text).bind signed?
  | text => (core? text).bind signed?

end HolderInjection.Numeral
