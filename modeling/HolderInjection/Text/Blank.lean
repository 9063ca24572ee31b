import HolderInjection.Text.Ranges

/-!
# Blank text

Blank characters are the ASCII controls that end or indent a line, the four information
separators and the spaces of the Unicode standard. A zero-width space, a word joiner and a byte
order mark are not blank. Trimming removes blanks at both ends and nothing else.
-/

namespace HolderInjection.Text

/-- The blank characters, as ascending ranges of code points. -/
def blankRanges : List (Nat × Nat) :=
  [(0x9, 0xD), (0x1C, 0x20), (0x85, 0x85), (0xA0, 0xA0), (0x1680, 0x1680), (0x2000, 0x200A),
    (0x2028, 0x2029), (0x202F, 0x202F), (0x205F, 0x205F), (0x3000, 0x3000)]

def isBlankChar (c : Char) : Bool :=
  inRanges c.toNat blankRanges

def isBlank (text : List Char) : Bool :=
  text.all isBlankChar

/-- Removes the items at the end of a list that satisfy `p`. -/
def dropEndWhile {α : Type} (p : α → Bool) (items : List α) : List α :=
  (items.reverse.dropWhile p).reverse

/-- Removes the items at both ends of a list that satisfy `p`. -/
def trimWhile {α : Type} (p : α → Bool) (items : List α) : List α :=
  dropEndWhile p (items.dropWhile p)

/-- The text without the blanks at its two ends. -/
def trim (text : List Char) : List Char :=
  trimWhile isBlankChar text

/-- Removing items at the end keeps a leading part of the list. -/
theorem dropEndWhile_isPrefix {α : Type} (p : α → Bool) (items : List α) :
    dropEndWhile p items <+: items := by
  have h := List.reverse_prefix.mpr (List.dropWhile_suffix (l := items.reverse) p)
  rwa [List.reverse_reverse] at h

/-- Trimming keeps a contiguous part of the list. -/
theorem trimWhile_isInfix {α : Type} (p : α → Bool) (items : List α) :
    trimWhile p items <:+: items :=
  (dropEndWhile_isPrefix p _).isInfix.trans (List.dropWhile_suffix p).isInfix

theorem length_trimWhile_le {α : Type} (p : α → Bool) (items : List α) :
    (trimWhile p items).length ≤ items.length :=
  (trimWhile_isInfix p items).length_le

end HolderInjection.Text
