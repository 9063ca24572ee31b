import HolderInjection.Template.Token
import HolderInjection.Template.Tree
import HolderInjection.Text.Split

/-!
# Reading templates

The tokens are taken one by one. Blocks that are still open lie on a stack, the innermost on top,
each with the sequence it interrupts. A token either extends the sequence at hand, opens a block,
or divides or closes the innermost one.
-/

namespace HolderInjection.Template

/-- Whether a character may start the name of a value. -/
def isNameStart (c : Char) : Bool :=
  c.isAlpha || c == '_'

/-- Whether a character may stand in the name of a value. -/
def isNamePart (c : Char) : Bool :=
  c.isAlphanum || c == '_'

/-- Whether a text is the name of a value: an ASCII identifier. -/
def isName : List Char → Bool
  | [] => false
  | c :: rest => isNameStart c && rest.all isNamePart

/-- What a block tag says. -/
inductive Directive where
  | choice (condition : String)
  | otherwise
  | endChoice
  | loop (item items : String)
  | endLoop
  deriving DecidableEq, Repr

namespace Directive

/-- The word that opens a choice, with the space that ends it. -/
def choiceWord : List Char :=
  "if ".toList

/-- The word that opens a loop, with the space that ends it. -/
def loopWord : List Char :=
  "for ".toList

/-- The names of a loop: the item, the word `in`, and the list, with which the tag ends. -/
def loopNames? (tag : List Char) : Option (List Char × List Char) :=
  match Text.words tag with
  | [_, item, word, items] =>
    if word = "in".toList ∧ isName item ∧ isName items ∧ items.isSuffixOf tag then
      some (item, items)
    else none
  | _ => none

def read (tag : List Char) : Except Problem Directive :=
  if tag = "else".toList then .ok otherwise
  else if tag = "endif".toList then .ok endChoice
  else if tag = "endfor".toList then .ok endLoop
  else if choiceWord.isPrefixOf tag then
    let condition := Text.trim (tag.drop choiceWord.length)
    if isName condition then .ok (choice (String.ofList condition))
    else .error (.invalidCondition (String.ofList condition))
  else if loopWord.isPrefixOf tag then
    match loopNames? tag with
    | some (item, items) => .ok (loop (String.ofList item) (String.ofList items))
    | none => .error (.invalidLoop (String.ofList tag))
  else .error (.unknownTag (String.ofList tag))

end Directive

/-- A block that is still open, with the sequence it interrupts. -/
inductive OpenBlock where
  | choice (condition : String) (outer : Tree)
  /-- The other side of a choice, with the first. -/
  | otherwise (condition : String) (yes outer : Tree)
  | loop (item items : String) (outer : Tree)
  deriving DecidableEq, Repr

/-- A template that is read up to some token: the open blocks and the sequence at hand. -/
structure Progress where
  /-- The open blocks, the innermost first. -/
  blocks : List OpenBlock := []
  current : Tree := .done
  deriving DecidableEq, Repr

namespace Progress

/-- Extends the sequence at hand. -/
def extend (progress : Progress) (part : Tree) : Progress :=
  { progress with current := progress.current ++ part }

def push (progress : Progress) (block : OpenBlock) : Progress :=
  ⟨block :: progress.blocks, .done⟩

/-- Follows a directive; `tag` is its text. -/
def follow (progress : Progress) (tag : List Char) : Directive → Except Problem Progress
  | .choice condition => .ok (progress.push (.choice condition progress.current))
  | .loop item items => .ok (progress.push (.loop item items progress.current))
  | .otherwise =>
    match progress.blocks with
    | .choice condition outer :: blocks =>
      .ok ⟨.otherwise condition progress.current outer :: blocks, .done⟩
    | _ => .error (.unexpectedTag (String.ofList tag))
  | .endChoice =>
    match progress.blocks with
    | .choice condition outer :: blocks =>
      .ok ⟨blocks, outer ++ Tree.choice condition progress.current .done .done⟩
    | .otherwise condition yes outer :: blocks =>
      .ok ⟨blocks, outer ++ Tree.choice condition yes progress.current .done⟩
    | _ => .error (.unexpectedTag (String.ofList tag))
  | .endLoop =>
    match progress.blocks with
    | .loop item items outer :: blocks =>
      .ok ⟨blocks, outer ++ Tree.loop item items progress.current .done⟩
    | _ => .error (.unexpectedTag (String.ofList tag))

def step (progress : Progress) : Token → Except Problem Progress
  | .text chars => .ok (progress.extend (.text (String.ofList chars) .done))
  | .insertion expression =>
    if isName expression then .ok (progress.extend (.insertion (String.ofList expression) .done))
    else .error (.invalidInsertion (String.ofList expression))
  | .block tag => do progress.follow tag (← Directive.read tag)

/-- The tree of a template that is read to its end. No block may be open. -/
def finish (progress : Progress) : Except Problem Tree :=
  match progress.blocks with
  | [] => .ok progress.current
  | .loop .. :: _ => .error .unclosedLoop
  | _ :: _ => .error .unclosedChoice

end Progress

def Tree.ofTokens (tokens : List Token) : Except Problem Tree := do
  (← tokens.foldlM Progress.step {}).finish

def compile (spacing : Spacing) (source : String) : Except Problem Tree := do
  Tree.ofTokens (← tokens spacing source.toList)

end HolderInjection.Template
