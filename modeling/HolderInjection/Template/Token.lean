import HolderInjection.Template.Problem
import HolderInjection.Text.Blank

/-!
# Tokens of a template

A template is cut from left to right into text, insertion tags and block tags. A tag ends at the
first closing delimiter of its own kind. Block tags can take the blanks around them along, so that
they can stand on lines of their own without leaving empty lines behind.
-/

namespace HolderInjection.Template

/-- A token of a template; tags hold their expression without the blanks around it. -/
inductive Token where
  | text (chars : List Char)
  | insertion (expression : List Char)
  | block (expression : List Char)
  deriving DecidableEq, Repr

/-- What block tags do to the blanks around them. -/
structure Spacing where
  /-- Whether a line feed right after a block tag is dropped. -/
  trimAfterBlocks : Bool := true
  /-- Whether blanks between the start of a line and a block tag are dropped. -/
  trimBeforeBlocks : Bool := true
  deriving DecidableEq, Repr

/-- The tag of a kind that holds an expression. -/
def TagKind.token : TagKind → List Char → Token
  | insertion => .insertion
  | block => .block

/-- The second of the two characters that open a tag; the first is a brace. -/
def TagKind.openingMark : TagKind → Char
  | insertion => '{'
  | block => '%'

/-- The first of the two characters that close a tag; the second is a brace. -/
def TagKind.closingMark : TagKind → Char
  | insertion => '}'
  | block => '%'

/-- Cuts a text at the first delimiter that opens a tag, of whatever kind. -/
def cutAtOpening? : List Char → Option (List Char × TagKind × List Char)
  | [] => none
  | '{' :: '{' :: rest => some ([], .insertion, rest)
  | '{' :: '%' :: rest => some ([], .block, rest)
  | c :: rest => (cutAtOpening? rest).map fun (before, cut) => (c :: before, cut)

/-- Cuts a text at the first two characters `mark` and a closing brace. -/
def cutAtClosing? (mark : Char) : List Char → Option (List Char × List Char)
  | [] => none
  | c :: rest =>
    if c = mark ∧ rest.head? = some '}' then some ([], rest.tail)
    else (cutAtClosing? mark rest).map fun (inside, after) => (c :: inside, after)

/-- What follows the last line feed of a text. -/
def lastLine (text : List Char) : List Char :=
  (text.reverse.takeWhile (· != '\n')).reverse

/-- Drops the last line of a text if it is blank. The line is known to start within the text, or
else `atLineStart` tells whether it starts with the text. -/
def dropBlankLine (atLineStart : Bool) (text : List Char) : List Char :=
  let line := lastLine text
  if Text.isBlank line && (atLineStart || text.contains '\n') then
    text.take (text.length - line.length)
  else text

/-- The text in front of a tag that is kept. -/
def keptBefore (spacing : Spacing) (kind : TagKind) (atLineStart : Bool) (before : List Char) :
    List Char :=
  if kind = .block ∧ spacing.trimBeforeBlocks then dropBlankLine atLineStart before else before

/-- The text behind a tag that is kept, and whether a line feed was dropped in front of it. -/
def keptAfter (spacing : Spacing) (kind : TagKind) : List Char → List Char × Bool
  | '\n' :: rest =>
    if kind = .block ∧ spacing.trimAfterBlocks then (rest, true) else ('\n' :: rest, false)
  | after => (after, false)

/-- A text token, unless there is no text. -/
def textToken (chars : List Char) : List Token :=
  if chars = [] then [] else [.text chars]

/-- A cut at an opening delimiter loses the delimiter only. -/
theorem eq_of_cutAtOpening? {source before rest : List Char} {kind : TagKind}
    (h : cutAtOpening? source = some (before, kind, rest)) :
    source = before ++ '{' :: kind.openingMark :: rest := by
  fun_induction cutAtOpening? source generalizing before with
  | case1 => cases h
  | case2 => cases h; rfl
  | case3 => cases h; rfl
  | case4 c source _ _ ih =>
    obtain ⟨⟨b, cut⟩, hcut, he⟩ := Option.map_eq_some_iff.mp h
    cases he
    rw [ih hcut, List.cons_append]

/-- A cut at a closing delimiter loses the delimiter only. -/
theorem eq_of_cutAtClosing? {mark : Char} {rest inside after : List Char}
    (h : cutAtClosing? mark rest = some (inside, after)) :
    rest = inside ++ mark :: '}' :: after := by
  fun_induction cutAtClosing? mark rest generalizing inside with
  | case1 => cases h
  | case2 c rest hmark =>
    obtain ⟨rfl, hbrace⟩ := hmark
    obtain ⟨tail, rfl⟩ := List.head?_eq_some_iff.mp hbrace
    cases h
    rfl
  | case3 c rest _ ih =>
    obtain ⟨⟨i, a⟩, hcut, he⟩ := Option.map_eq_some_iff.mp h
    cases he
    rw [ih hcut, List.cons_append]

theorem length_keptAfter_le (spacing : Spacing) (kind : TagKind) (after : List Char) :
    (keptAfter spacing kind after).1.length ≤ after.length := by
  unfold keptAfter
  split
  · split <;> simp
  · exact Nat.le_refl _

/-- The tokens of a template; `atLineStart` tells whether it begins at the start of a line. -/
def tokensFrom (spacing : Spacing) (atLineStart : Bool) (source : List Char) :
    Except Problem (List Token) :=
  match _hopen : cutAtOpening? source with
  | none => .ok (textToken source)
  | some (before, kind, rest) =>
    match _hclose : cutAtClosing? kind.closingMark rest with
    | none => .error (.unclosedTag kind)
    | some (inside, after) =>
      let expression := Text.trim inside
      if expression = [] then .error (.emptyTag kind)
      else
        let kept := keptAfter spacing kind after
        match tokensFrom spacing kept.2 kept.1 with
        | .error problem => .error problem
        | .ok tokens =>
          .ok (textToken (keptBefore spacing kind atLineStart before) ++
            kind.token expression :: tokens)
termination_by source.length
decreasing_by
  have hopen := congrArg List.length (eq_of_cutAtOpening? _hopen)
  have hclose := congrArg List.length (eq_of_cutAtClosing? _hclose)
  have hkept := length_keptAfter_le spacing kind after
  simp only [List.length_append, List.length_cons] at hopen hclose
  omega

def tokens (spacing : Spacing) (source : List Char) : Except Problem (List Token) :=
  tokensFrom spacing true source

end HolderInjection.Template
