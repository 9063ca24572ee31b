import HolderInjection.Text.Blank

/-!
# Lines

A line ends after a line feed, a carriage return, both in that order, or one of the other
characters that separate lines: vertical tab, form feed, the file, group and record separators,
next line, and the line and paragraph separators. Lines keep their terminators, so joining them
gives the text back.
-/

namespace HolderInjection.Text

/-- The characters that end a line, as ascending ranges of code points. -/
def lineEndRanges : List (Nat × Nat) :=
  [(0xA, 0xD), (0x1C, 0x1E), (0x85, 0x85), (0x2028, 0x2029)]

def isLineEnd (c : Char) : Bool :=
  inRanges c.toNat lineEndRanges

/-- Puts a character in front of the first line. -/
def consFirst (c : Char) : List (List Char) → List (List Char)
  | [] => [[c]]
  | line :: rest => (c :: line) :: rest

/-- The lines of a text with their terminators. -/
def lines : List Char → List (List Char)
  | [] => []
  | '\r' :: '\n' :: text => ['\r', '\n'] :: lines text
  | c :: text => if isLineEnd c then [c] :: lines text else consFirst c (lines text)

/-- Joining the lines of a text gives the text back. -/
theorem flatten_lines (text : List Char) : (lines text).flatten = text := by
  have consFirst_flatten (c : Char) (rest : List (List Char)) :
      (consFirst c rest).flatten = c :: rest.flatten := by
    cases rest <;> simp [consFirst]
  fun_induction lines text with
  | case1 => rfl
  | case2 text ih => simp [ih]
  | case3 c text _ _ ih => simp [ih]
  | case4 c text _ _ ih => rw [consFirst_flatten, ih]

/-- The first line of a text stays a line if other text is put behind it, as long as the break after
it is not made longer. -/
theorem lines_eq_cons_append {text line other : List Char} {rest : List (List Char)}
    (h : lines text = line :: rest) (hlast : rest = [] → other = [])
    (hbreak : other.head? = some '\n' → rest.flatten.head? = some '\n') :
    lines (line ++ other) = line :: lines other := by
  fun_induction lines text generalizing line with
  | case1 => cases h
  | case2 text ih =>
    cases h
    rfl
  | case3 c text hpair hend =>
    cases h
    rw [flatten_lines] at hbreak
    have hother (tail : List Char) (hc : c = '\r') : other ≠ '\n' :: tail := by
      rintro rfl
      obtain ⟨tail, htext⟩ := List.head?_eq_some_iff.mp (hbreak rfl)
      exact hpair tail hc htext
    rw [List.singleton_append, lines.eq_3 c other hother, if_pos hend]
  | case4 c text hpair hend ih =>
    have hcons (tail : List Char) : lines (c :: tail) = consFirst c (lines tail) := by
      rw [lines.eq_3 c tail fun _ hc => absurd (hc ▸ rfl) hend, if_neg hend]
    cases hlines : lines text with
    | nil =>
      rw [hlines] at h
      cases h
      rw [hlast rfl, List.append_nil, hcons]
      rfl
    | cons first others =>
      rw [hlines] at h
      cases h
      rw [List.cons_append, hcons, ih hlines]
      rfl

/-- What follows the first line of a text has the other lines. -/
theorem lines_flatten_tail {text line : List Char} {rest : List (List Char)}
    (h : lines text = line :: rest) : lines rest.flatten = rest := by
  fun_induction lines text generalizing line with
  | case1 => cases h
  | case2 text | case3 c text =>
    cases h
    rw [flatten_lines]
  | case4 c text hpair hend ih =>
    cases hlines : lines text with
    | nil =>
      rw [hlines] at h
      cases h
      rfl
    | cons first others =>
      rw [hlines] at h
      cases h
      exact ih hlines

/-- Characters that end no line stay in front of the first line. -/
theorem lines_append_of_inline {front text line : List Char} {rest : List (List Char)}
    (hfront : front.any isLineEnd = false) (h : lines text = line :: rest) :
    lines (front ++ text) = (front ++ line) :: rest := by
  induction front with
  | nil => exact h
  | cons c front ih =>
    obtain ⟨hc, hrest⟩ := Bool.or_eq_false_iff.mp hfront
    have hreturn (tail : List Char) (hr : c = '\r') : front ++ text ≠ '\n' :: tail := by
      rw [hr] at hc
      cases hc
    rw [List.cons_append, lines.eq_3 c _ hreturn, hc, ih hrest]
    rfl

/-- Puts `margin` in front of every line that is not blank. -/
def indentWith (margin : List Char) (text : List Char) : List Char :=
  (lines text).flatMap fun line => if isBlank line then line else margin ++ line

/-- The margin of one level of nesting. -/
def margin : String :=
  "    "

/-- A block of text one level deeper: every line that is not blank moves right by one margin. -/
def indent (block : String) : String :=
  String.ofList (indentWith margin.toList block.toList)

/-- A line feed stands first when the lines of a text have moved to the right only if it did so
before. -/
theorem head_of_head_indentWith {margin text : List Char} (hmargin : margin.head? = some ' ')
    (h : (indentWith margin text).head? = some '\n') : text.head? = some '\n' := by
  rw [indentWith] at h
  rw [← flatten_lines text]
  generalize lines text = texts at h ⊢
  induction texts with
  | nil => cases h
  | cons line rest ih =>
    cases line with
    | nil => exact ih h
    | cons c line =>
      obtain ⟨tail, rfl⟩ := List.head?_eq_some_iff.mp hmargin
      rw [List.flatMap_cons] at h
      split at h
      · exact h
      · cases h

/-- The lines of a block one level deeper are its lines, of which those that are not blank have four
spaces in front of them. -/
theorem lines_indent (block : String) :
    lines (indent block).toList =
      (lines block.toList).map fun line =>
        if isBlank line then line else [' ', ' ', ' ', ' '] ++ line := by
  rw [indent, String.toList_ofList]
  change lines (indentWith [' ', ' ', ' ', ' '] _) = _
  generalize block.toList = text
  -- The induction is on the lines: what follows the first line is a text with one line less.
  induction hlines : lines text generalizing text with
  | nil => rw [indentWith, hlines]; rfl
  | cons line rest ih =>
    have hrest := lines_flatten_tail hlines
    have hindent := ih rest.flatten hrest
    have htail : indentWith [' ', ' ', ' ', ' '] rest.flatten = rest.flatMap fun line =>
        if isBlank line then line else [' ', ' ', ' ', ' '] ++ line := by
      rw [indentWith, hrest]
    have hsplit : indentWith [' ', ' ', ' ', ' '] text =
        (if isBlank line then line else [' ', ' ', ' ', ' '] ++ line) ++
          indentWith [' ', ' ', ' ', ' '] rest.flatten := by
      rw [htail, indentWith, hlines, List.flatMap_cons]
    have hlast (hnil : rest = []) : indentWith [' ', ' ', ' ', ' '] rest.flatten = [] := by
      rw [htail, hnil, List.flatMap_nil]
    have hstay := lines_eq_cons_append hlines hlast
      (head_of_head_indentWith (by decide))
    rw [hsplit, List.map_cons, ← hindent]
    split
    · exact hstay
    · rw [List.append_assoc]
      exact lines_append_of_inline (by decide) hstay

end HolderInjection.Text
