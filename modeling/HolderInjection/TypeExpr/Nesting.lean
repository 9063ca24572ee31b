import HolderInjection.TypeExpr.Lexeme

/-!
# Nesting of brackets

A signature is cut where no bracket is open: at the commas between parameters or arguments, at
the arrow of a function, and at the bracket that closes a given one. A cut loses nothing but the
lexeme it is made at.
-/

namespace HolderInjection.Lexeme

/-- How the brackets of a text fail to nest. -/
inductive Imbalance where
  /-- A bracket closes that is not the innermost open one. -/
  | unexpected (closing : Bracket)
  /-- The text ends while a bracket is open. -/
  | unclosed
  deriving DecidableEq, Repr

/-- Puts a lexeme in front of the first of two parts. -/
def consPart {β : Type} (lexeme : Lexeme) (parts : List Lexeme × β) : List Lexeme × β :=
  (lexeme :: parts.1, parts.2)

/-- Cuts a text at the bracket that closes the outermost of the open brackets. The innermost open
bracket is given apart from those around it. -/
def cutAtClose (innermost : Bracket) (outer : List Bracket) :
    List Lexeme → Except Imbalance (List Lexeme × List Lexeme)
  | [] => .error .unclosed
  | opener bracket :: rest =>
    (cutAtClose bracket (innermost :: outer) rest).map (consPart (opener bracket))
  | closer bracket :: rest =>
    if bracket = innermost then
      match outer with
      | [] => .ok ([], rest)
      | next :: outer => (cutAtClose next outer rest).map (consPart (closer bracket))
    else .error (.unexpected bracket)
  | lexeme :: rest => (cutAtClose innermost outer rest).map (consPart lexeme)

/-- Cuts a text at every comma that stands outside the brackets; `stack` holds the open brackets,
the innermost first. -/
def cutAtCommas (stack : List Bracket) : List Lexeme → Except Imbalance (List (List Lexeme))
  | [] => if stack.isEmpty then .ok [[]] else .error .unclosed
  | opener bracket :: rest =>
    (cutAtCommas (bracket :: stack) rest).map (List.modifyHead (opener bracket :: ·))
  | closer bracket :: rest =>
    match stack with
    | [] => .error (.unexpected bracket)
    | innermost :: stack =>
      if bracket = innermost then
        (cutAtCommas stack rest).map (List.modifyHead (closer bracket :: ·))
      else .error (.unexpected bracket)
  | comma :: rest =>
    if stack.isEmpty then (cutAtCommas [] rest).map ([] :: ·)
    else (cutAtCommas stack rest).map (List.modifyHead (comma :: ·))
  | lexeme :: rest => (cutAtCommas stack rest).map (List.modifyHead (lexeme :: ·))

/-- Cuts a text at the first arrow at depth zero. The depth counts opening brackets less closing
ones, of whatever kind, and may become negative. -/
def cutAtArrow? (depth : Int) : List Lexeme → Option (List Lexeme × List Lexeme)
  | [] => none
  | arrow :: rest =>
    if depth = 0 then some ([], rest) else (cutAtArrow? depth rest).map (consPart arrow)
  | opener bracket :: rest => (cutAtArrow? (depth + 1) rest).map (consPart (opener bracket))
  | closer bracket :: rest => (cutAtArrow? (depth - 1) rest).map (consPart (closer bracket))
  | lexeme :: rest => (cutAtArrow? depth rest).map (consPart lexeme)

/-- Cuts a text at the first bracket that opens type arguments. -/
def cutAtAngle? : List Lexeme → Option (List Lexeme × List Lexeme)
  | [] => none
  | opener .angle :: rest => some ([], rest)
  | lexeme :: rest => (cutAtAngle? rest).map (consPart lexeme)

theorem map_eq_ok {ε α β : Type} {r : Except ε α} {f : α → β} {b : β}
    (h : r.map f = .ok b) : ∃ a, r = .ok a ∧ f a = b := by
  cases r with
  | error e => simp [Except.map] at h
  | ok a => exact ⟨a, rfl, by simpa [Except.map] using h⟩

/-- A cut at a closing bracket loses that bracket only, which closes the outermost open one. -/
theorem eq_of_cutAtClose {innermost : Bracket} {outer : List Bracket}
    {lexemes inside after : List Lexeme}
    (h : cutAtClose innermost outer lexemes = .ok (inside, after)) :
    lexemes = inside ++ closer (outer.getLastD innermost) :: after := by
  fun_induction cutAtClose innermost outer lexemes generalizing inside with
  | case1 => simp at h
  | case2 innermost outer bracket rest ih =>
    obtain ⟨⟨i, a⟩, hr, he⟩ := map_eq_ok h
    cases he
    have hrest := ih hr
    rw [List.getLastD_cons] at hrest
    rw [hrest, List.cons_append]
  | case3 bracket rest => cases h; rfl
  | case4 bracket rest next outer ih =>
    obtain ⟨⟨i, a⟩, hr, he⟩ := map_eq_ok h
    cases he
    rw [List.getLastD_cons, ih hr, List.cons_append]
  | case5 => simp at h
  | case6 innermost outer lexeme rest _ _ ih =>
    obtain ⟨⟨i, a⟩, hr, he⟩ := map_eq_ok h
    cases he
    simpa using ih hr

/-- A cut at an arrow loses that arrow only. -/
theorem eq_of_cutAtArrow? {depth : Int} {lexemes before after : List Lexeme}
    (h : cutAtArrow? depth lexemes = some (before, after)) :
    lexemes = before ++ arrow :: after := by
  fun_induction cutAtArrow? depth lexemes generalizing before with
  | case1 => simp at h
  | case2 rest => cases h; rfl
  | case3 depth rest _ ih | case4 depth bracket rest ih | case5 depth bracket rest ih
  | case6 depth lexeme rest _ _ _ ih =>
    obtain ⟨⟨b, a⟩, hr, he⟩ := Option.map_eq_some_iff.mp h
    cases he
    simpa using ih hr

/-- A cut before type arguments loses the opening bracket only. -/
theorem eq_of_cutAtAngle? {lexemes before after : List Lexeme}
    (h : cutAtAngle? lexemes = some (before, after)) :
    lexemes = before ++ opener .angle :: after := by
  fun_induction cutAtAngle? lexemes generalizing before with
  | case1 => simp at h
  | case2 rest => cases h; rfl
  | case3 lexeme rest _ ih =>
    obtain ⟨⟨b, a⟩, hr, he⟩ := Option.map_eq_some_iff.mp h
    cases he
    simpa using ih hr

private theorem length_modifyHead_cons_le {s : Lexeme} {parts : List (List Lexeme)} {n : Nat}
    (h : ∀ part ∈ parts, part.length ≤ n) :
    ∀ part ∈ parts.modifyHead (s :: ·), part.length ≤ n + 1 := by
  cases parts with
  | nil => simp
  | cons p ps =>
    simp only [List.modifyHead_cons, List.mem_cons, forall_eq_or_imp, List.length_cons] at h ⊢
    exact ⟨by omega, fun part hp => Nat.le_succ_of_le (h.2 part hp)⟩

/-- No part between commas is longer than the text. -/
theorem length_le_of_cutAtCommas {stack : List Bracket} {lexemes : List Lexeme}
    {parts : List (List Lexeme)} (h : cutAtCommas stack lexemes = .ok parts) :
    ∀ part ∈ parts, part.length ≤ lexemes.length := by
  fun_induction cutAtCommas stack lexemes generalizing parts with
  | case1 => cases h; simp
  | case2 => simp at h
  | case3 stack bracket rest ih | case5 bracket rest stack ih
  | case8 stack rest _ ih | case9 stack lexeme rest _ _ _ ih =>
    obtain ⟨ps, hr, he⟩ := map_eq_ok h
    subst he
    simpa using length_modifyHead_cons_le (ih hr)
  | case4 => simp at h
  | case6 => simp at h
  | case7 stack rest _ ih =>
    obtain ⟨ps, hr, he⟩ := map_eq_ok h
    subst he
    simp only [List.mem_cons, forall_eq_or_imp, List.length_nil, Nat.zero_le, List.length_cons,
      true_and]
    exact fun part hp => Nat.le_succ_of_le (ih hr part hp)

end HolderInjection.Lexeme
