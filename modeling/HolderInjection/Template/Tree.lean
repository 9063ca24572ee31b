/-!
# Template trees

A template is a sequence of parts: text, values to be filled in, choices between two sequences and
loops over one. Every part holds what follows it, so that a tree and a sequence are one type.
-/

namespace HolderInjection.Template

/-- A template as a sequence of parts. -/
inductive Tree where
  | done
  | text (content : String) (next : Tree)
  | insertion (name : String) (next : Tree)
  /-- One of two sequences, by the value of a name. -/
  | choice (condition : String) (yes no next : Tree)
  /-- A sequence for every item of a list, to which it gives a name. -/
  | loop (item items : String) (body next : Tree)
  deriving DecidableEq, Repr

namespace Tree

/-- A sequence followed by another. -/
def append : Tree → Tree → Tree
  | done, rest => rest
  | text content next, rest => text content (next.append rest)
  | insertion name next, rest => insertion name (next.append rest)
  | choice condition yes no next, rest => choice condition yes no (next.append rest)
  | loop item items body next, rest => loop item items body (next.append rest)

instance : Append Tree := ⟨append⟩

theorem append_done (tree : Tree) : tree ++ done = tree := by
  induction tree with
  | done => rfl
  | text content next ih => exact congrArg (text content) ih
  | insertion name next ih => exact congrArg (insertion name) ih
  | choice condition yes no next _ _ ih => exact congrArg (choice condition yes no) ih
  | loop item items body next _ ih => exact congrArg (loop item items body) ih

theorem append_assoc (first second third : Tree) :
    first ++ second ++ third = first ++ (second ++ third) := by
  induction first with
  | done => rfl
  | text content next ih => exact congrArg (text content) ih
  | insertion name next ih => exact congrArg (insertion name) ih
  | choice condition yes no next _ _ ih => exact congrArg (choice condition yes no) ih
  | loop item items body next _ ih => exact congrArg (loop item items body) ih

end Tree

end HolderInjection.Template
