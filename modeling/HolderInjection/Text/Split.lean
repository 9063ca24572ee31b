import HolderInjection.Text.Blank

/-!
# Splitting text

A text is cut at every separator into pieces, so that there is always one piece more than there
are separators. Words are the non-empty pieces between blanks.
-/

namespace HolderInjection.Text

/-- The pieces of a text between the characters that satisfy `isSeparator`. -/
def pieces (isSeparator : Char → Bool) : List Char → List (List Char)
  | [] => [[]]
  | c :: text =>
    if isSeparator c then [] :: pieces isSeparator text
    else (pieces isSeparator text).modifyHead (c :: ·)

/-- The words of a text: its stretches without blanks. -/
def words (text : List Char) : List (List Char) :=
  (pieces isBlankChar text).filter (!·.isEmpty)

end HolderInjection.Text
