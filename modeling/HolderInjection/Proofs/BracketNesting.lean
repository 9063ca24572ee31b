import HolderInjection.Proofs.TrimmedText
import HolderInjection.TypeExpr.Nesting
import Mathlib.Data.List.ModifyLast

/-!
# Balanced brackets

`openAfter` runs over a text with the stack of open brackets. A text is balanced if it leaves an
empty stack as it is; the cuts of a signature pass over balanced text, and stop only at a lexeme
that stands outside all brackets.
-/

namespace HolderInjection.Lexeme

/-- The open brackets after a text, the innermost first, unless a bracket closes that is not the
innermost open one. -/
def openAfter (stack : List Bracket) : List Lexeme → Option (List Bracket)
  | [] => some stack
  | opener bracket :: rest => openAfter (bracket :: stack) rest
  | closer bracket :: rest =>
    match stack with
    | [] => none
    | innermost :: outer => if bracket = innermost then openAfter outer rest else none
  | _ :: rest => openAfter stack rest

/-- Every bracket of the text is closed in it, by a bracket of its kind. -/
def Balanced (lexemes : List Lexeme) : Prop :=
  openAfter [] lexemes = some []

/-- No occurrence of a lexeme in the text stands where no bracket is open. -/
def Guarded (lexeme : Lexeme) (stack : List Bracket) (lexemes : List Lexeme) : Prop :=
  ∀ front rest, lexemes = front ++ lexeme :: rest → openAfter stack front ≠ some []

/-- Whether a lexeme is neither an opening nor a closing bracket. -/
def isAtom : Lexeme → Bool
  | opener _ | closer _ => false
  | _ => true

theorem isAtom_of_ne {x : Lexeme} (hopen : ∀ bracket, x ≠ opener bracket)
    (hclose : ∀ bracket, x ≠ closer bracket) : isAtom x := by
  cases x with
  | opener bracket => exact absurd rfl (hopen bracket)
  | closer bracket => exact absurd rfl (hclose bracket)
  | arrow | comma | plain _ => rfl

theorem openAfter_atom_cons {x : Lexeme} (hx : isAtom x) (stack : List Bracket)
    (rest : List Lexeme) : openAfter stack (x :: rest) = openAfter stack rest := by
  cases x <;> simp [isAtom] at hx <;> rfl

theorem openAfter_append (stack : List Bracket) (front rest : List Lexeme) :
    openAfter stack (front ++ rest) =
      (openAfter stack front).bind fun inner => openAfter inner rest := by
  fun_induction openAfter stack front with
  | case1 => rfl
  | case2 stack bracket front ih => exact ih
  | case3 => rfl
  | case4 front innermost outer ih =>
    rw [List.cons_append, openAfter, if_pos rfl]
    exact ih
  | case5 bracket front innermost outer hne =>
    rw [List.cons_append, openAfter, if_neg hne]
    rfl
  | case6 stack x front hopen hclose ih =>
    rw [List.cons_append, openAfter_atom_cons (isAtom_of_ne hopen hclose), ih]

/-- Brackets around the open ones make no difference. -/
theorem openAfter_frame {stack inner : List Bracket} {lexemes : List Lexeme}
    (h : openAfter stack lexemes = some inner) (outer : List Bracket) :
    openAfter (stack ++ outer) lexemes = some (inner ++ outer) := by
  fun_induction openAfter stack lexemes with
  | case1 => cases h; rfl
  | case2 stack bracket rest ih => exact ih h
  | case3 => simp at h
  | case4 rest innermost stack ih =>
    rw [List.cons_append, openAfter, if_pos rfl]
    exact ih h
  | case5 => simp at h
  | case6 stack x rest hopen hclose ih =>
    rw [openAfter_atom_cons (isAtom_of_ne hopen hclose), ih h]

theorem openAfter_of_balanced {lexemes : List Lexeme} (h : Balanced lexemes)
    (stack : List Bracket) : openAfter stack lexemes = some stack :=
  openAfter_frame h stack

theorem Balanced.nil : Balanced [] := rfl

theorem Balanced.append {front rest : List Lexeme} (hfront : Balanced front)
    (hrest : Balanced rest) : Balanced (front ++ rest) := by
  unfold Balanced
  rw [openAfter_append, hfront, Option.bind_some, hrest]

theorem Balanced.cons {x : Lexeme} {rest : List Lexeme} (hx : isAtom x) (hrest : Balanced rest) :
    Balanced (x :: rest) := by
  unfold Balanced
  rw [openAfter_atom_cons hx, hrest]

theorem Balanced.enclose {inside rest : List Lexeme} (hinside : Balanced inside)
    (hrest : Balanced rest) (bracket : Bracket) :
    Balanced (opener bracket :: inside ++ closer bracket :: rest) := by
  unfold Balanced
  rw [List.cons_append, openAfter, openAfter_append, openAfter_of_balanced hinside,
    Option.bind_some, openAfter, if_pos rfl, hrest]

theorem Balanced.of_atoms {lexemes : List Lexeme} (h : ∀ x ∈ lexemes, isAtom x) :
    Balanced lexemes := by
  induction lexemes with
  | nil => rfl
  | cons x lexemes ih =>
    exact .cons (h x List.mem_cons_self) (ih fun y hy => h y (List.mem_cons_of_mem _ hy))

theorem isAtom_of_mem_map_plain {characters : List Char} :
    ∀ x ∈ characters.map plain, isAtom x := by
  intro x hx
  obtain ⟨c, -, rfl⟩ := List.mem_map.mp hx
  rfl

theorem Balanced.of_plain (characters : List Char) : Balanced (characters.map plain) :=
  .of_atoms isAtom_of_mem_map_plain

theorem Guarded.tail {x y : Lexeme} {stack next : List Bracket} {rest : List Lexeme}
    (h : Guarded y stack (x :: rest))
    (hstep : ∀ lexemes, openAfter stack (x :: lexemes) = openAfter next lexemes) :
    Guarded y next rest := by
  intro front after hsplit
  rw [← hstep]
  exact h (x :: front) after (by rw [hsplit, List.cons_append])

theorem Guarded.cons {x y : Lexeme} {stack next : List Bracket} {rest : List Lexeme}
    (hy : y = x → stack ≠ [])
    (hstep : ∀ lexemes, openAfter stack (y :: lexemes) = openAfter next lexemes)
    (hrest : Guarded x next rest) : Guarded x stack (y :: rest) := by
  intro front after hsplit
  cases front with
  | nil =>
    cases hsplit
    intro hempty
    exact hy rfl (Option.some.inj hempty)
  | cons z front =>
    cases hsplit
    rw [hstep]
    exact hrest front after rfl

theorem Guarded.stack_ne_nil {x : Lexeme} {stack : List Bracket} {rest : List Lexeme}
    (h : Guarded x stack (x :: rest)) : stack ≠ [] := by
  rintro rfl
  exact h [] rest rfl rfl

theorem Guarded.append {x : Lexeme} {stack inner : List Bracket} {front rest : List Lexeme}
    (hfront : Guarded x stack front) (hinner : openAfter stack front = some inner)
    (hrest : Guarded x inner rest) : Guarded x stack (front ++ rest) := by
  intro before after hsplit
  rcases List.append_eq_append_iff.mp hsplit with
    ⟨middle, hbefore, hmiddle⟩ | ⟨middle, hbefore, hmiddle⟩
  · rw [hbefore, openAfter_append, hinner, Option.bind_some]
    exact hrest middle after hmiddle
  · cases middle with
    | nil =>
      rw [List.append_nil] at hbefore
      rw [← hbefore, hinner]
      intro hempty
      cases hempty
      exact hrest [] after hmiddle.symm rfl
    | cons y middle =>
      cases hmiddle
      exact hfront before middle hbefore

theorem Guarded.of_not_mem {x : Lexeme} {stack : List Bracket} {lexemes : List Lexeme}
    (h : x ∉ lexemes) : Guarded x stack lexemes := by
  rintro front rest rfl
  exact absurd (List.mem_append_right _ List.mem_cons_self) h

theorem Guarded.nil {x : Lexeme} {stack : List Bracket} : Guarded x stack [] :=
  .of_not_mem List.not_mem_nil

/-- Inside a bracket everything balanced is guarded. -/
theorem Guarded.of_balanced {x : Lexeme} {lexemes : List Lexeme} (h : Balanced lexemes)
    {stack : List Bracket} (hstack : stack ≠ []) : Guarded x stack lexemes := by
  rintro front rest rfl
  unfold Balanced at h
  rw [openAfter_append] at h
  obtain ⟨inner, hinner, -⟩ := Option.bind_eq_some_iff.mp h
  rw [show stack = [] ++ stack from rfl, openAfter_frame hinner stack]
  intro hempty
  have hnil := List.append_eq_nil_iff.mp (Option.some.inj hempty)
  exact hstack hnil.2

theorem Guarded.enclose {x : Lexeme} {inside rest : List Lexeme} (hx : isAtom x)
    (hinside : Balanced inside) (hrest : Guarded x [] rest) (bracket : Bracket) :
    Guarded x [] (opener bracket :: inside ++ closer bracket :: rest) := by
  have hopen : Guarded x [] [opener bracket] := by
    apply Guarded.of_not_mem
    rw [List.mem_singleton]
    rintro rfl
    cases hx
  have hclose : Guarded x [bracket] [closer bracket] := by
    apply Guarded.of_not_mem
    rw [List.mem_singleton]
    rintro rfl
    cases hx
  have hafter : Guarded x [bracket] (closer bracket :: rest) :=
    hclose.append (by rw [openAfter, if_pos rfl, openAfter]) hrest
  have hbody : Guarded x [bracket] (inside ++ closer bracket :: rest) :=
    (Guarded.of_balanced hinside (by simp)).append (openAfter_of_balanced hinside _) hafter
  exact hopen.append rfl hbody

/-- A cut at a closing bracket goes on behind text that leaves the outer brackets alone. -/
theorem cutAtClose_append {front rest : List Lexeme} {stack inner base : List Bracket}
    (hinner : openAfter stack front = some inner) (hbase : base ≠ [])
    {innermost last : Bracket} {outer others : List Bracket}
    (hstack : stack ++ base = innermost :: outer) (hlast : inner ++ base = last :: others) :
    cutAtClose innermost outer (front ++ rest) =
      (cutAtClose last others rest).map fun cut => (front ++ cut.1, cut.2) := by
  -- While the front is passed, `stack ++ base` is open: the cut cannot fall before `rest`.
  induction front generalizing stack innermost outer with
  | nil =>
    cases hinner
    rw [hstack] at hlast
    cases hlast
    rw [List.nil_append]
    cases cutAtClose last others rest <;> rfl
  | cons x front ih =>
    have hcons (next : List Bracket) (hnext : openAfter next front = some inner)
        {top : Bracket} {below : List Bracket} (htop : next ++ base = top :: below) :
        (cutAtClose top below (front ++ rest)).map (consPart x) =
          (cutAtClose last others rest).map fun cut => (x :: front ++ cut.1, cut.2) := by
      rw [ih hnext htop]
      cases cutAtClose last others rest <;> rfl
    cases x with
    | opener bracket =>
      rw [List.cons_append, cutAtClose]
      exact hcons (bracket :: stack) hinner (by rw [List.cons_append, hstack])
    | closer bracket =>
      cases stack with
      | nil => simp [openAfter] at hinner
      | cons top below =>
        rw [openAfter] at hinner
        split at hinner
        · rename_i htop
          obtain ⟨next, others', hnext⟩ :=
            List.exists_cons_of_ne_nil (List.append_ne_nil_of_right_ne_nil below hbase)
          rw [List.cons_append, hnext] at hstack
          cases hstack
          rw [List.cons_append, cutAtClose, if_pos htop]
          exact hcons below hinner hnext
        · cases hinner
    | arrow | comma | plain _ =>
      rw [List.cons_append, cutAtClose]
      · exact hcons stack hinner hstack
      all_goals simp

/-- The cut at a closing bracket is made behind the balanced text that the bracket encloses. -/
theorem cutAtClose_of_balanced {inside : List Lexeme} (h : Balanced inside) (bracket : Bracket)
    (rest : List Lexeme) :
    cutAtClose bracket [] (inside ++ closer bracket :: rest) = .ok (inside, rest) := by
  rw [cutAtClose_append h (List.cons_ne_nil bracket []) rfl rfl, cutAtClose, if_pos rfl]
  simp [Except.map]

theorem cutAtCommas_append {front : List Lexeme} {stack inner : List Bracket}
    (hinner : openAfter stack front = some inner) (hcomma : Guarded comma stack front)
    (rest : List Lexeme) :
    cutAtCommas stack (front ++ rest) =
      (cutAtCommas inner rest).map (List.modifyHead (front ++ ·)) := by
  induction front generalizing stack with
  | nil =>
    cases hinner
    rw [List.nil_append]
    cases cutAtCommas inner rest with
    | error problem => rfl
    | ok parts => cases parts <;> rfl
  | cons x front ih =>
    have hcons (next : List Bracket)
        (hstep : ∀ lexemes, openAfter stack (x :: lexemes) = openAfter next lexemes) :
        (cutAtCommas next (front ++ rest)).map (List.modifyHead (x :: ·)) =
          (cutAtCommas inner rest).map (List.modifyHead (x :: front ++ ·)) := by
      rw [ih (by rwa [← hstep]) (hcomma.tail hstep)]
      cases cutAtCommas inner rest with
      | error problem => rfl
      | ok parts => cases parts <;> rfl
    cases x with
    | opener bracket =>
      rw [List.cons_append, cutAtCommas]
      exact hcons (bracket :: stack) fun _ => rfl
    | closer bracket =>
      cases stack with
      | nil => simp [openAfter] at hinner
      | cons top below =>
        rw [openAfter] at hinner
        split at hinner
        · rename_i htop
          rw [List.cons_append, cutAtCommas, if_pos htop]
          exact hcons below fun lexemes => by rw [openAfter, if_pos htop]
        · cases hinner
    | comma =>
      rw [List.cons_append, cutAtCommas, if_neg (by simpa using hcomma.stack_ne_nil)]
      exact hcons stack fun _ => rfl
    | arrow | plain _ =>
      rw [List.cons_append, cutAtCommas]
      · exact hcons stack fun _ => rfl
      all_goals simp

/-- Balanced items without commas of their own are found again in their list. -/
theorem cutAtCommas_intercalate {items : List (List Lexeme)} (hne : items ≠ [])
    (hitems : ∀ item ∈ items, Balanced item ∧ Guarded comma [] item) :
    cutAtCommas [] ([comma].intercalate items) = .ok items := by
  induction items with
  | nil => exact absurd rfl hne
  | cons item items ih =>
    obtain ⟨hbalanced, hcomma⟩ := hitems item List.mem_cons_self
    cases items with
    | nil =>
      have h := cutAtCommas_append hbalanced hcomma []
      rw [List.append_nil] at h
      rw [List.intercalate_singleton, h]
      simp [cutAtCommas, Except.map]
    | cons next items =>
      have hrest := ih (by simp) fun other hother => hitems other (List.mem_cons_of_mem _ hother)
      rw [List.intercalate_cons_cons, List.append_assoc, cutAtCommas_append hbalanced hcomma,
        List.singleton_append, cutAtCommas, if_pos List.isEmpty_nil, hrest]
      simp [Except.map]

/-- A cut at the commas loses nothing but the commas. -/
theorem intercalate_of_cutAtCommas {stack : List Bracket} {lexemes : List Lexeme}
    {parts : List (List Lexeme)} (h : cutAtCommas stack lexemes = .ok parts) :
    parts ≠ [] ∧ [comma].intercalate parts = lexemes := by
  have hcons {x : Lexeme} {rest : List Lexeme} {parts : List (List Lexeme)}
      (hparts : parts ≠ [] ∧ [comma].intercalate parts = rest) :
      parts.modifyHead (x :: ·) ≠ [] ∧
        [comma].intercalate (parts.modifyHead (x :: ·)) = x :: rest := by
    obtain ⟨hne, rfl⟩ := hparts
    obtain ⟨first, others, rfl⟩ := List.exists_cons_of_ne_nil hne
    refine ⟨by simp, ?_⟩
    cases others with
    | nil => simp [List.intercalate_singleton]
    | cons second others => simp [List.intercalate_cons_cons]
  fun_induction cutAtCommas stack lexemes generalizing parts with
  | case1 => cases h; simp [List.intercalate_singleton]
  | case2 => simp at h
  | case3 stack bracket rest ih | case5 bracket rest stack ih
  | case8 stack rest _ ih | case9 stack lexeme rest _ _ _ ih =>
    obtain ⟨inner, hinner, rfl⟩ := map_eq_ok h
    exact hcons (ih hinner)
  | case4 => simp at h
  | case6 => simp at h
  | case7 stack rest _ ih =>
    obtain ⟨inner, hinner, rfl⟩ := map_eq_ok h
    obtain ⟨hne, hrest⟩ := ih hinner
    obtain ⟨first, others, rfl⟩ := List.exists_cons_of_ne_nil hne
    refine ⟨by simp, ?_⟩
    rw [List.intercalate_cons_cons, hrest]
    rfl

theorem modifyLast_cons {α : Type} (f : α → α) (first : α) {rest : List α} (h : rest ≠ []) :
    (first :: rest).modifyLast f = first :: rest.modifyLast f :=
  List.modifyLast_append_of_right_ne_nil f [first] rest h

theorem modifyHead_modifyLast_comm {α : Type} {f g : α → α} (h : ∀ x, f (g x) = g (f x))
    (items : List α) : (items.modifyLast g).modifyHead f = (items.modifyHead f).modifyLast g := by
  cases items with
  | nil => rfl
  | cons first rest =>
    cases rest with
    | nil => exact congrArg (fun x => [x]) (h first)
    | cons second rest =>
      have hne : second :: rest ≠ [] := List.cons_ne_nil second rest
      rw [modifyLast_cons g first hne, List.modifyHead_cons, List.modifyHead_cons,
        modifyLast_cons g (f first) hne]

/-- Plain text at the end belongs to the last part. -/
theorem cutAtCommas_append_plain (stack : List Bracket) (lexemes : List Lexeme)
    (tail : List Char) :
    cutAtCommas stack (lexemes ++ tail.map plain) =
      (cutAtCommas stack lexemes).map (List.modifyLast (· ++ tail.map plain)) := by
  have hcons (x : Lexeme) (r : Except Imbalance (List (List Lexeme))) :
      (r.map (List.modifyLast (· ++ tail.map plain))).map (List.modifyHead (x :: ·)) =
        (r.map (List.modifyHead (x :: ·))).map (List.modifyLast (· ++ tail.map plain)) := by
    cases r with
    | error problem => rfl
    | ok parts =>
      simp only [Except.map]
      rw [modifyHead_modifyLast_comm]
      exact fun _ => rfl
  have hplain (stack : List Bracket) := cutAtCommas_append
    (openAfter_of_balanced (.of_plain tail) stack) (Guarded.of_not_mem (x := comma) (by simp)) []
  simp only [List.append_nil] at hplain
  -- Only the last part grows, so each step of the cut commutes with the change.
  fun_induction cutAtCommas stack lexemes with
  | case1 stack hempty =>
    rw [List.isEmpty_iff.mp hempty, List.nil_append, hplain, cutAtCommas, if_pos List.isEmpty_nil]
    simp [Except.map, List.modifyLast, List.modifyLast.go]
  | case2 stack hempty =>
    rw [List.nil_append, hplain, cutAtCommas, if_neg hempty]
    rfl
  | case3 stack bracket rest ih =>
    rw [List.cons_append, cutAtCommas, ih, hcons]
  | case4 bracket rest => rfl
  | case5 rest innermost stack ih =>
    rw [List.cons_append, cutAtCommas, if_pos rfl, ih, hcons]
  | case6 bracket rest innermost stack hne =>
    rw [List.cons_append, cutAtCommas, if_neg hne]
    rfl
  | case7 stack rest hempty ih =>
    rw [List.cons_append, cutAtCommas, if_pos hempty, ih]
    cases hrest : cutAtCommas [] rest with
    | error problem => rfl
    | ok parts =>
      simp only [Except.map]
      rw [modifyLast_cons _ _ (intercalate_of_cutAtCommas hrest).1]
  | case8 stack rest hempty ih =>
    rw [List.cons_append, cutAtCommas, if_neg hempty, ih, hcons]
  | case9 stack x rest hopen hclose hcomma ih =>
    rw [List.cons_append, cutAtCommas, ih, hcons]
    all_goals assumption

theorem exists_map_plain {lexemes : List Lexeme} (h : ∀ x ∈ lexemes, isBlank x) :
    ∃ characters : List Char, lexemes = characters.map plain := by
  induction lexemes with
  | nil => exact ⟨[], rfl⟩
  | cons x lexemes ih =>
    obtain ⟨characters, hrest⟩ := ih fun y hy => h y (List.mem_cons_of_mem _ hy)
    have hx := h x List.mem_cons_self
    cases x with
    | plain c => exact ⟨c :: characters, by rw [hrest, List.map_cons]⟩
    | _ => cases hx

theorem map_modifyHead {α β : Type} {f : α → α} {g : α → β} (h : ∀ x, g (f x) = g x)
    (items : List α) : (items.modifyHead f).map g = items.map g := by
  cases items with
  | nil => rfl
  | cons first rest => rw [List.modifyHead_cons, List.map_cons, List.map_cons, h]

theorem map_modifyLast {α β : Type} {f : α → α} {g : α → β} (h : ∀ x, g (f x) = g x)
    (items : List α) : (items.modifyLast f).map g = items.map g := by
  rcases List.eq_nil_or_concat items with rfl | ⟨front, last, rfl⟩
  · rfl
  · rw [List.concat_eq_append, List.modifyLast_concat, List.map_append, List.map_append,
      List.map_singleton, List.map_singleton, h]

/-- Blanks at the ends of a text belong to its first and last parts. -/
theorem map_trim_cutAtCommas_trim (lexemes : List Lexeme) :
    (cutAtCommas [] (trim lexemes)).map (List.map trim) =
      (cutAtCommas [] lexemes).map (List.map trim) := by
  obtain ⟨front, tail, hsplit, hfront, htail⟩ := exists_trim lexemes
  generalize trim lexemes = core at hsplit ⊢
  obtain ⟨characters, rfl⟩ := exists_map_plain htail
  have hbalanced : Balanced front := by
    obtain ⟨frontCharacters, rfl⟩ := exists_map_plain hfront
    exact .of_plain frontCharacters
  have hguarded : Guarded comma [] front := by
    apply Guarded.of_not_mem
    intro hcomma
    exact absurd (hfront comma hcomma) (by decide)
  rw [hsplit, List.append_assoc, cutAtCommas_append hbalanced hguarded, cutAtCommas_append_plain]
  cases cutAtCommas [] core with
  | error imbalance => rfl
  | ok parts =>
    simp only [Except.map]
    rw [map_modifyHead, map_modifyLast]
    · intro part
      have hpad : trim ([] ++ part ++ characters.map plain) = trim part :=
        trim_pad (by simp) htail
      exact hpad
    · intro part
      have hpad : trim (front ++ part ++ []) = trim part := trim_pad hfront (by simp)
      rwa [List.append_nil] at hpad

theorem cutAtArrow?_append {front : List Lexeme} {stack inner : List Bracket}
    (hinner : openAfter stack front = some inner) (harrow : Guarded arrow stack front)
    (rest : List Lexeme) :
    cutAtArrow? stack.length (front ++ rest) =
      (cutAtArrow? inner.length rest).map fun cut => (front ++ cut.1, cut.2) := by
  induction front generalizing stack with
  | nil =>
    cases hinner
    rw [List.nil_append]
    cases cutAtArrow? inner.length rest <;> rfl
  | cons x front ih =>
    have hcons (next : List Bracket)
        (hstep : ∀ lexemes, openAfter stack (x :: lexemes) = openAfter next lexemes) :
        (cutAtArrow? next.length (front ++ rest)).map (consPart x) =
          (cutAtArrow? inner.length rest).map fun cut => (x :: front ++ cut.1, cut.2) := by
      rw [ih (by rwa [← hstep]) (harrow.tail hstep)]
      cases cutAtArrow? inner.length rest <;> rfl
    cases x with
    | opener bracket =>
      rw [List.cons_append, cutAtArrow?]
      exact hcons (bracket :: stack) fun _ => rfl
    | closer bracket =>
      cases stack with
      | nil => simp [openAfter] at hinner
      | cons top below =>
        rw [openAfter] at hinner
        split at hinner
        · rename_i htop
          have hdepth : ((top :: below).length : Int) - 1 = below.length := by
            rw [List.length_cons]
            omega
          rw [List.cons_append, cutAtArrow?, hdepth]
          exact hcons below fun lexemes => by rw [openAfter, if_pos htop]
        · cases hinner
    | arrow =>
      have hdepth : (stack.length : Int) ≠ 0 := by
        have hpos := List.length_pos_iff.mpr harrow.stack_ne_nil
        omega
      rw [List.cons_append, cutAtArrow?, if_neg hdepth]
      exact hcons stack fun _ => rfl
    | comma | plain _ =>
      rw [List.cons_append, cutAtArrow?]
      · exact hcons stack fun _ => rfl
      all_goals simp

end HolderInjection.Lexeme
