import HolderInjection.Template.Render

/-!
# Filling in the parts of a template

What a template is filled in with is put together from its parts: each part comes to a text or to a
problem, and so does what follows it, in the same context.
-/

namespace HolderInjection.Template

open Fillable (print isTruthy items?)

variable {V : Type}

/-- The text of one part and then that of another. -/
def printBoth (first second : Except Problem String) : Except Problem String := do
  return (← first) ++ (← second)

/-- The text of one part for every value. -/
def printEach (work : V → Except Problem String) (values : List V) : Except Problem String := do
  return String.join (← values.mapM work)

/-- The text of one part for every item of a value that is called `items`. -/
def printItems [Fillable V] (items : String) (work : V → Except Problem String) (value : V) :
    Except Problem String :=
  match items? value with
  | some values => printEach work values
  | none => .error (.notIterable items)

theorem printBoth_empty (result : Except Problem String) : printBoth (.ok "") result = result := by
  cases result with
  | error problem => rfl
  | ok text => exact congrArg Except.ok String.empty_append

theorem printBoth_assoc (first second third : Except Problem String) :
    printBoth (printBoth first second) third = printBoth first (printBoth second third) := by
  cases first with
  | error problem => rfl
  | ok front =>
    cases second with
    | error problem => rfl
    | ok middle =>
      cases third with
      | error problem => rfl
      | ok back => exact congrArg Except.ok String.append_assoc

theorem printEach_cons (work : V → Except Problem String) (value : V) (values : List V) :
    printEach work (value :: values) = printBoth (work value) (printEach work values) := by
  simp only [printEach, printBoth, List.mapM_cons, bind_assoc, pure_bind, String.join_cons]

namespace Tree

variable [Fillable V] (context : Context V)

theorem render_text_eq (content : String) (next : Tree) :
    (text content next).render context = printBoth (.ok content) (next.render context) :=
  rfl

theorem render_insertion_eq (name : String) (next : Tree) :
    (insertion name next).render context =
      printBoth ((context.find name).map print) (next.render context) := by
  rw [render]
  cases context.find name <;> rfl

theorem render_choice_eq (condition : String) (yes no next : Tree) :
    (choice condition yes no next).render context =
      printBoth (context.find condition >>= fun value =>
          if isTruthy value then yes.render context else no.render context)
        (next.render context) := by
  rw [render]
  cases context.find condition with
  | error problem => rfl
  | ok value => cases htruthy : isTruthy value <;> simp [printBoth, htruthy, bind, Except.bind]

theorem render_loop_eq (item items : String) (body next : Tree) :
    (loop item items body next).render context =
      printBoth (context.find items >>=
          printItems items fun value => body.render ((item, value) :: context))
        (next.render context) := by
  rw [render]
  cases context.find items with
  | error problem => rfl
  | ok value =>
    change (match items? value with | some _ => _ | none => _) = printBoth (printItems _ _ value) _
    rw [printItems]
    cases items? value with
    | some values =>
      change _ = printBoth (printEach _ values) _
      simp only [printEach, printBoth, bind_assoc, pure_bind]
    | none => rfl

/-- A sequence is filled in as its beginning and its end are, each in the same context. -/
theorem render_append (tree rest : Tree) :
    (tree ++ rest).render context = printBoth (tree.render context) (rest.render context) := by
  induction tree with
  | done => exact (printBoth_empty _).symm
  | text content next ih =>
    change (text content (next ++ rest)).render context = _
    rw [render_text_eq, render_text_eq, ih, printBoth_assoc]
  | insertion name next ih =>
    change (insertion name (next ++ rest)).render context = _
    rw [render_insertion_eq, render_insertion_eq, ih, printBoth_assoc]
  | choice condition yes no next _ _ ih =>
    change (choice condition yes no (next ++ rest)).render context = _
    rw [render_choice_eq, render_choice_eq, ih, printBoth_assoc]
  | loop item items body next _ ih =>
    change (loop item items body (next ++ rest)).render context = _
    rw [render_loop_eq, render_loop_eq, ih, printBoth_assoc]

end Tree

end HolderInjection.Template
