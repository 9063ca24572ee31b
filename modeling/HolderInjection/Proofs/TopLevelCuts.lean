import HolderInjection.Proofs.SignatureCuts
import Mathlib.Data.List.Induction

/-!
# Cuts outside all brackets

A signature is cut by three scans, at commas, at an arrow and at a closing bracket, and each keeps
its own account of the open brackets. The cut at the commas succeeds exactly on the texts whose
brackets nest. On these all three take the same places to be outside the brackets.
-/

namespace HolderInjection

namespace Lexeme

open TypeExpr
open Shape (listItems)

/-- The texts in which every bracket is closed by one of its kind. -/
inductive Nested : List Lexeme → Prop where
  | nil : Nested []
  | atom {x : Lexeme} {rest : List Lexeme} (hx : isAtom x) (hrest : Nested rest) :
      Nested (x :: rest)
  | enclose (bracket : Bracket) {inside rest : List Lexeme} (hinside : Nested inside)
      (hrest : Nested rest) : Nested (opener bracket :: inside ++ closer bracket :: rest)

/-- An open bracket that is no longer open at the end of a text is closed in it, behind balanced
text. -/
theorem exists_close {bracket : Bracket} {stack final : List Bracket} {lexemes : List Lexeme}
    (h : openAfter (bracket :: stack) lexemes = some final) (hfinal : final.length ≤ stack.length) :
    ∃ inside after, lexemes = inside ++ closer bracket :: after ∧ Balanced inside ∧
      openAfter stack after = some final := by
  -- A bracket inside is closed first, and what follows it is shorter.
  induction hlength : lexemes.length using Nat.strongRecOn generalizing bracket stack lexemes with
  | ind length ih =>
    cases lexemes with
    | nil =>
      cases h
      rw [List.length_cons] at hfinal
      omega
    | cons x rest =>
      rw [List.length_cons] at hlength
      cases x with
      | opener inner =>
        have hinner : openAfter (inner :: bracket :: stack) rest = some final := h
        obtain ⟨first, after, rfl, hfirst, hafter⟩ :=
          ih rest.length (by omega) hinner (by rw [List.length_cons]; omega) rfl
        rw [List.length_append, List.length_cons] at hlength
        obtain ⟨second, last, rfl, hsecond, hlast⟩ :=
          ih after.length (by omega) hafter hfinal rfl
        refine ⟨opener inner :: first ++ closer inner :: second, last, ?_, ?_, hlast⟩
        · simp
        · exact hfirst.enclose hsecond inner
      | closer other =>
        rw [openAfter] at h
        split at h
        · rename_i hsame
          exact ⟨[], rest, by rw [hsame, List.nil_append], .nil, h⟩
        · cases h
      | arrow | comma | plain _ =>
        rw [openAfter_atom_cons rfl] at h
        obtain ⟨inside, after, rfl, hinside, hafter⟩ := ih rest.length (by omega) h hfinal rfl
        exact ⟨_ :: inside, after, rfl, hinside.cons rfl, hafter⟩

theorem Nested.balanced {lexemes : List Lexeme} (h : Nested lexemes) : Balanced lexemes := by
  induction h with
  | nil => exact .nil
  | atom hx _ ih => exact ih.cons hx
  | enclose bracket _ _ hinside hrest => exact hinside.enclose hrest bracket

theorem Balanced.nested {lexemes : List Lexeme} (h : Balanced lexemes) : Nested lexemes := by
  induction hlength : lexemes.length using Nat.strongRecOn generalizing lexemes with
  | ind length ih =>
    cases lexemes with
    | nil => exact .nil
    | cons x rest =>
      rw [List.length_cons] at hlength
      cases x with
      | opener bracket =>
        obtain ⟨inside, after, rfl, hinside, hafter⟩ := exists_close h (Nat.le_refl 0)
        rw [List.length_append, List.length_cons] at hlength
        exact .enclose bracket (ih inside.length (by omega) hinside rfl)
          (ih after.length (by omega) hafter rfl)
      | closer bracket => cases h
      | arrow | comma | plain _ =>
        exact .atom rfl (ih rest.length (by omega) ((openAfter_atom_cons rfl _ _).symm.trans h) rfl)

theorem exists_cutAtCommas {stack : List Bracket} {lexemes : List Lexeme}
    (h : openAfter stack lexemes = some []) : ∃ pieces, cutAtCommas stack lexemes = .ok pieces := by
  have hmap {β γ : Type} {r : Except Imbalance β} (f : β → γ) (hr : ∃ b, r = .ok b) :
      ∃ c, r.map f = .ok c := by
    obtain ⟨b, rfl⟩ := hr
    exact ⟨f b, rfl⟩
  fun_induction cutAtCommas stack lexemes with
  | case1 => exact ⟨_, rfl⟩
  | case2 stack hopen =>
    cases h
    exact absurd List.isEmpty_nil hopen
  | case3 stack bracket rest ih => exact hmap _ (ih h)
  | case4 => cases h
  | case5 rest innermost stack ih =>
    rw [openAfter, if_pos rfl] at h
    exact hmap _ (ih h)
  | case6 bracket rest innermost stack hne =>
    rw [openAfter, if_neg hne] at h
    cases h
  | case7 stack rest hempty ih =>
    cases List.isEmpty_iff.mp hempty
    exact hmap _ (ih h)
  | case8 stack rest _ ih => exact hmap _ (ih h)
  | case9 stack x rest hopen hclose _ ih =>
    rw [openAfter_atom_cons (isAtom_of_ne hopen hclose)] at h
    exact hmap _ (ih h)

/-- A text that closes the brackets that are open before it and has no comma outside of them. -/
structure Piece (stack : List Bracket) (lexemes : List Lexeme) : Prop where
  closed : openAfter stack lexemes = some []
  guarded : Guarded comma stack lexemes

/-- The pieces between commas, of which the first closes the brackets that are open before it. -/
def Pieces (stack : List Bracket) : List (List Lexeme) → Prop
  | [] => False
  | first :: others => Piece stack first ∧ ∀ piece ∈ others, Piece [] piece

theorem Pieces.modifyHead {x : Lexeme} {stack next : List Bracket} {pieces : List (List Lexeme)}
    (hx : x = comma → stack ≠ [])
    (hstep : ∀ lexemes, openAfter stack (x :: lexemes) = openAfter next lexemes)
    (h : Pieces next pieces) : Pieces stack (pieces.modifyHead (x :: ·)) := by
  cases pieces with
  | nil => exact h
  | cons first others =>
    obtain ⟨hfirst, hothers⟩ := h
    exact ⟨⟨(hstep first).trans hfirst.closed, .cons hx hstep hfirst.guarded⟩, hothers⟩

theorem Pieces.forall_mem {pieces : List (List Lexeme)} (h : Pieces [] pieces) :
    ∀ piece ∈ pieces, Piece [] piece := by
  cases pieces with
  | nil => nofun
  | cons first others => exact List.forall_mem_cons.mpr h

/-- A cut at the commas leaves no comma outside the brackets of a piece. -/
theorem pieces_of_cutAtCommas {stack : List Bracket} {lexemes : List Lexeme}
    {pieces : List (List Lexeme)} (h : cutAtCommas stack lexemes = .ok pieces) :
    Pieces stack pieces := by
  fun_induction cutAtCommas stack lexemes generalizing pieces with
  | case1 stack hempty =>
    cases h
    rw [List.isEmpty_iff.mp hempty]
    exact ⟨⟨rfl, .nil⟩, List.forall_mem_nil _⟩
  | case2 => cases h
  | case3 stack bracket rest ih =>
    obtain ⟨rests, hrests, rfl⟩ := map_eq_ok h
    exact (ih hrests).modifyHead (fun hx => by cases hx) fun _ => rfl
  | case4 => cases h
  | case5 rest innermost stack ih =>
    obtain ⟨rests, hrests, rfl⟩ := map_eq_ok h
    exact (ih hrests).modifyHead (fun hx => by cases hx) fun _ => by rw [openAfter, if_pos rfl]
  | case6 => cases h
  | case7 stack rest hempty ih =>
    obtain ⟨rests, hrests, rfl⟩ := map_eq_ok h
    rw [List.isEmpty_iff.mp hempty]
    exact ⟨⟨rfl, .nil⟩, (ih hrests).forall_mem⟩
  | case8 stack rest hopen ih =>
    obtain ⟨rests, hrests, rfl⟩ := map_eq_ok h
    exact (ih hrests).modifyHead (fun _ hnil => hopen (List.isEmpty_iff.mpr hnil)) fun _ => rfl
  | case9 stack x rest hopen hclose hcomma ih =>
    obtain ⟨rests, hrests, rfl⟩ := map_eq_ok h
    exact (ih hrests).modifyHead (fun hx => absurd hx hcomma)
      (openAfter_atom_cons (isAtom_of_ne hopen hclose) stack)

theorem Piece.trim {lexemes : List Lexeme} (h : Piece [] lexemes) : Piece [] (trim lexemes) := by
  obtain ⟨front, tail, hsplit, hfront, htail⟩ := exists_trim lexemes
  generalize Lexeme.trim lexemes = core at hsplit ⊢
  have hopen : openAfter [] front = some [] := Shape.balanced_of_blank hfront
  obtain ⟨hclosed, hguarded⟩ := h
  rw [hsplit, List.append_assoc] at hclosed hguarded
  rw [openAfter_append, hopen, Option.bind_some, openAfter_append] at hclosed
  obtain ⟨inner, hinner, hrest⟩ := Option.bind_eq_some_iff.mp hclosed
  rw [openAfter_of_balanced (Shape.balanced_of_blank htail)] at hrest
  cases hrest
  refine ⟨hinner, fun before after hcore => ?_⟩
  have hbefore := hguarded (front ++ before) (after ++ tail) (by rw [hcore]; simp)
  rwa [openAfter_append, hopen, Option.bind_some] at hbefore

/-- A lexeme stands somewhere outside all brackets for a first time, or nowhere. -/
theorem guarded_or_exists_first (x : Lexeme) (lexemes : List Lexeme) :
    Guarded x [] lexemes ∨
      ∃ front rest, lexemes = front ++ x :: rest ∧ Balanced front ∧ Guarded x [] front := by
  induction lexemes using List.reverseRecOn with
  | nil => exact .inl .nil
  | append_singleton lexemes y ih =>
    rcases ih with hguarded | ⟨front, rest, rfl, hbalanced, hguarded⟩
    · by_cases hlast : y = x ∧ Balanced lexemes
      · obtain ⟨rfl, hbalanced⟩ := hlast
        exact .inr ⟨lexemes, [], rfl, hbalanced, hguarded⟩
      · left
        intro front rest hsplit
        rcases List.eq_nil_or_concat rest with rfl | ⟨rest, z, rfl⟩
        · obtain ⟨rfl, hlexeme⟩ := List.append_inj' hsplit rfl
          exact fun hempty => hlast ⟨List.singleton_inj.mp hlexeme, hempty⟩
        · rw [List.concat_eq_append, ← List.cons_append, ← List.append_assoc] at hsplit
          exact hguarded front rest (List.append_inj' hsplit rfl).1
    · exact .inr ⟨front, rest ++ [y], by simp, hbalanced, hguarded⟩

/-- No place outside all brackets stands before the first one. -/
theorem Guarded.isPrefix {x : Lexeme} {front rest before after : List Lexeme}
    (hfront : Guarded x [] front) (hsplit : front ++ x :: rest = before ++ x :: after)
    (hbefore : Balanced before) : front <+: before := by
  rcases List.append_eq_append_iff.mp hsplit with ⟨middle, rfl, -⟩ | ⟨middle, rfl, hmiddle⟩
  · exact List.prefix_append front middle
  · cases middle with
    | nil => exact ⟨[], by rw [List.append_nil, List.append_nil]⟩
    | cons y middle =>
      cases hmiddle
      exact absurd hbefore (hfront before middle rfl)

theorem closed_of_cutAtCommas {lexemes : List Lexeme} {pieces : List (List Lexeme)}
    (h : cutAtCommas [] lexemes = .ok pieces) : Balanced lexemes := by
  rw [← (intercalate_of_cutAtCommas h).2]
  exact .intercalate fun piece hmem => ((pieces_of_cutAtCommas h).forall_mem piece hmem).closed

/-- The commas between pieces are the commas outside all brackets. -/
theorem comma_outside_iff {lexemes : List Lexeme} {pieces : List (List Lexeme)}
    (h : cutAtCommas [] lexemes = .ok pieces) (front rest : List Lexeme) :
    (lexemes = front ++ comma :: rest ∧ Balanced front) ↔
      ∃ before after, before ≠ [] ∧ after ≠ [] ∧ pieces = before ++ after ∧
        [comma].intercalate before = front ∧ [comma].intercalate after = rest := by
  obtain ⟨hne, hjoined⟩ := intercalate_of_cutAtCommas h
  have hpieces := (pieces_of_cutAtCommas h).forall_mem
  constructor
  · rintro ⟨hsplit, hfront⟩
    have hrest : Balanced rest := by
      have hwhole : openAfter [] lexemes = some [] := closed_of_cutAtCommas h
      rwa [hsplit, openAfter_append, hfront, Option.bind_some, openAfter_atom_cons rfl] at hwhole
    obtain ⟨before, hbefore⟩ := exists_cutAtCommas hfront
    obtain ⟨after, hafter⟩ := exists_cutAtCommas hrest
    obtain ⟨hbeforeNe, hbeforeJoined⟩ := intercalate_of_cutAtCommas hbefore
    obtain ⟨hafterNe, hafterJoined⟩ := intercalate_of_cutAtCommas hafter
    refine ⟨before, after, hbeforeNe, hafterNe, ?_, hbeforeJoined, hafterJoined⟩
    -- Both sides of the comma are cut as they are in the whole text.
    have hjoin : [comma].intercalate (before ++ after) = lexemes := by
      rw [Text.intercalate_append _ hbeforeNe hafterNe, hbeforeJoined, hafterJoined, hsplit]
      simp
    have hcut : cutAtCommas [] lexemes = .ok (before ++ after) := by
      rw [← hjoin]
      refine cutAtCommas_intercalate (List.append_ne_nil_of_left_ne_nil hbeforeNe after) ?_
      intro piece hpiece
      have hmem : Piece [] piece := by
        rcases List.mem_append.mp hpiece with hmem | hmem
        · exact (pieces_of_cutAtCommas hbefore).forall_mem piece hmem
        · exact (pieces_of_cutAtCommas hafter).forall_mem piece hmem
      exact ⟨hmem.closed, hmem.guarded⟩
    exact Except.ok.inj (h.symm.trans hcut)
  · rintro ⟨before, after, hbefore, hafter, rfl, rfl, rfl⟩
    refine ⟨?_, .intercalate fun piece hmem => (hpieces piece (List.mem_append_left _ hmem)).closed⟩
    rw [← hjoined, Text.intercalate_append _ hbefore hafter]
    simp

/-- Whether a token of a text stands outside all brackets, between `front` and `rest`. -/
def Outside (token : Lexeme) (characters front rest : List Char) : Prop :=
  characters = front ++ token.chars ++ rest ∧ Balanced (ofText front)

theorem Outside.ofText_eq {token : Lexeme} (htoken : token = arrow ∨ token = comma)
    {characters front rest : List Char} (h : Outside token characters front rest) :
    ofText characters = ofText front ++ token :: ofText rest := by
  rw [h.1, List.append_assoc]
  rcases htoken with rfl | rfl
  · exact ofText_append_cons front (by decide) _
  · rw [chars, List.singleton_append, ofText_append_cons front (by decide),
      ofText_cons (.inl (by decide))]
    rfl

theorem Guarded.not_outside {token : Lexeme} (htoken : token = arrow ∨ token = comma)
    {characters : List Char} (h : Guarded token [] (ofText characters)) (front rest : List Char) :
    ¬Outside token characters front rest :=
  fun houtside => h (ofText front) (ofText rest) (houtside.ofText_eq htoken) houtside.2

/-- Whether the pieces of a text are what stands between those of its commas that are outside all
brackets. -/
structure CutOutside (characters : List Char) (pieces : List (List Char)) : Prop where
  ne_nil : pieces ≠ []
  joined : [','].intercalate pieces = characters
  commas : ∀ front rest, Outside comma characters front rest ↔
    ∃ before after, before ≠ [] ∧ after ≠ [] ∧ pieces = before ++ after ∧
      [','].intercalate before = front ∧ [','].intercalate after = rest

/-- Whether the bracket between `inside` and `after` closes one that stands in front of a text. -/
structure ClosesAfter (bracket : Bracket) (characters inside after : List Char) : Prop where
  split : characters = inside ++ bracket.closing :: after
  /-- The bracket does not belong to an arrow. -/
  whole : ofText characters = ofText inside ++ closer bracket :: ofText after
  nested : Nested (ofText inside)

/-- What the cuts of a text agree on if a cut at its commas gives the items. -/
structure CutsAgree (characters : List Char) (items : List (List Lexeme)) : Prop where
  nested : Nested (ofText characters)
  pieces : ∃ pieces, CutOutside characters pieces ∧
    items = pieces.map fun piece => ofText (Text.trim piece)
  items : ∀ item ∈ items, Nested item ∧ ∀ front rest, ¬Outside comma (text item) front rest
  /-- The first arrow outside all brackets is found, if there is one. -/
  arrow : match cutAtArrow? 0 (ofText characters) with
    | some (before, after) => Outside arrow characters (text before) (text after) ∧
      ∀ front rest, Outside arrow characters front rest →
        (text before).length ≤ front.length
    | none => ∀ front rest, ¬Outside arrow characters front rest
  close : ∀ bracket front rest, characters = front ++ bracket.opening :: rest →
    ∃ inside after, ClosesAfter bracket rest inside after ∧
      cutAtClose bracket [] (ofText rest) = .ok (ofText inside, ofText after)

theorem cutOutside_of_cutAtCommas {characters : List Char} {pieces : List (List Lexeme)}
    (h : cutAtCommas [] (ofText characters) = .ok pieces) :
    CutOutside characters (pieces.map text) where
  ne_nil := by
    rw [Ne, List.map_eq_nil_iff]
    exact (intercalate_of_cutAtCommas h).1
  joined := by
    rw [← text_intercalate, (intercalate_of_cutAtCommas h).2, text_ofText]
  commas := by
    intro front rest
    constructor
    · intro houtside
      obtain ⟨before, after, hbefore, hafter, rfl, hfrontJoined, hrestJoined⟩ :=
        (comma_outside_iff h (ofText front) (ofText rest)).mp
          ⟨houtside.ofText_eq (.inr rfl), houtside.2⟩
      refine ⟨before.map text, after.map text, ?_, ?_, List.map_append, ?_, ?_⟩
      · simpa using hbefore
      · simpa using hafter
      · rw [← text_intercalate, hfrontJoined, text_ofText]
      · rw [← text_intercalate, hrestJoined, text_ofText]
    · rintro ⟨fronts, rests, hfronts, hrests, hsplit, rfl, rfl⟩
      obtain ⟨before, after, rfl, rfl, rfl⟩ := List.map_eq_append_iff.mp hsplit
      obtain ⟨hlexemes, hbalanced⟩ := (comma_outside_iff h _ _).mpr
        ⟨before, after, by simpa using hfronts, by simpa using hrests, rfl, rfl, rfl⟩
      obtain ⟨front, rest, rfl, hfront, hrest⟩ := exists_texts hlexemes
      rw [← text_intercalate, ← text_intercalate, hfront, hrest, text_ofText, text_ofText]
      exact ⟨rfl, hfront ▸ hbalanced⟩

theorem cutAtArrow?_first {characters : List Char} (h : Balanced (ofText characters)) :
    match cutAtArrow? 0 (ofText characters) with
    | some (before, after) => Outside arrow characters (text before) (text after) ∧
      ∀ front rest, Outside arrow characters front rest →
        (text before).length ≤ front.length
    | none => ∀ front rest, ¬Outside arrow characters front rest := by
  rcases guarded_or_exists_first arrow (ofText characters) with
    hguarded | ⟨before, after, hsplit, hbefore, hfirst⟩
  · rw [Shape.cutAtArrow?_eq_none h hguarded]
    exact hguarded.not_outside (.inl rfl)
  · have hcut : cutAtArrow? 0 (ofText characters) = some (before, after) := by
      have hpassed := cutAtArrow?_append hbefore hfirst (arrow :: after)
      rw [← hsplit] at hpassed
      simpa [cutAtArrow?] using hpassed
    obtain ⟨front, rest, hcharacters, rfl, rfl⟩ := exists_texts hsplit
    rw [hcut]
    simp only [text_ofText]
    refine ⟨⟨hcharacters, hbefore⟩, ?_⟩
    intro otherFront otherRest hother
    obtain ⟨middle, hmiddle⟩ :=
      hfirst.isPrefix (hsplit.symm.trans (hother.ofText_eq (.inl rfl))) hother.2
    have hlonger := congrArg text hmiddle
    rw [text_append, text_ofText, text_ofText] at hlonger
    rw [← hlonger, List.length_append]
    exact Nat.le_add_right _ _

theorem cutAtClose_closes {front rest : List Char} {bracket : Bracket}
    (h : Balanced (ofText (front ++ bracket.opening :: rest))) :
    ∃ inside after, ClosesAfter bracket rest inside after ∧
      cutAtClose bracket [] (ofText rest) = .ok (ofText inside, ofText after) := by
  have hopening : bracket.opening ≠ '>' ∧ bracket.opening ≠ '-' ∧
      ofChar bracket.opening = opener bracket := by
    cases bracket <;> decide
  obtain ⟨hangle, hdash, hchar⟩ := hopening
  unfold Balanced at h
  rw [ofText_append_cons front hangle, ofText_cons (.inl hdash), hchar, openAfter_append] at h
  obtain ⟨stack, -, hrest⟩ := Option.bind_eq_some_iff.mp h
  obtain ⟨inside, after, hsplit, hinside, -⟩ := exists_close hrest (Nat.zero_le _)
  obtain ⟨insideText, afterText, rfl, rfl, rfl⟩ := exists_texts hsplit
  refine ⟨insideText, afterText, ⟨by simp [chars], hsplit, hinside.nested⟩, ?_⟩
  rw [hsplit, cutAtClose_of_balanced hinside]

/-- A cut at the commas succeeds exactly on the texts whose brackets nest. The items are what stands
between the commas outside all brackets, blanks at their ends aside. The cut at an arrow, which
counts brackets without regard to their kinds, stops at the first arrow outside all of them, and
the cut at a closing bracket stops at the one that closes the bracket before it. -/
theorem cuts_agree (characters : List Char) :
    ((∃ items, listItems (ofText characters) = .ok items) ↔ Nested (ofText characters)) ∧
      ∀ items, listItems (ofText characters) = .ok items → CutsAgree characters items := by
  have hitems {items : List (List Lexeme)} : listItems (ofText characters) = .ok items ↔
      ∃ pieces, cutAtCommas [] (ofText characters) = .ok pieces ∧ items = pieces.map trim := by
    unfold listItems
    cases cutAtCommas [] (ofText characters) with
    | error imbalance => simp
    | ok pieces => simp [eq_comm]
  simp only [hitems]
  refine ⟨⟨?_, ?_⟩, ?_⟩
  · rintro ⟨items, pieces, hpieces, rfl⟩
    exact (closed_of_cutAtCommas hpieces).nested
  · intro hnested
    obtain ⟨pieces, hpieces⟩ := exists_cutAtCommas hnested.balanced
    exact ⟨pieces.map trim, pieces, hpieces, rfl⟩
  · rintro items ⟨pieces, hpieces, rfl⟩
    have hclosed := closed_of_cutAtCommas hpieces
    have hcanonical (piece : List Lexeme) (hmem : piece ∈ pieces) : Canonical (trim piece) := by
      have hinfix := Text.isInfix_intercalate [comma] hmem
      rw [(intercalate_of_cutAtCommas hpieces).2] at hinfix
      have hcharacters := canonical_ofText characters
      exact hcharacters.of_infix ((Text.trimWhile_isInfix _ piece).trans hinfix)
    refine ⟨hclosed.nested, ⟨_, cutOutside_of_cutAtCommas hpieces, ?_⟩, ?_,
      cutAtArrow?_first hclosed, ?_⟩
    · rw [List.map_map]
      refine List.map_congr_left fun piece hmem => ?_
      rw [Function.comp_apply, ← text_trim]
      exact (hcanonical piece hmem).symm
    · intro item hitem
      obtain ⟨piece, hmem, rfl⟩ := List.mem_map.mp hitem
      have hpiece := ((pieces_of_cutAtCommas hpieces).forall_mem piece hmem).trim
      refine ⟨Balanced.nested hpiece.closed, Guarded.not_outside (.inr rfl) ?_⟩
      rw [hcanonical piece hmem]
      exact hpiece.guarded
    · rintro bracket front rest rfl
      exact cutAtClose_closes hclosed

theorem cuts_agree_listener :
    listItems (ofText "Map<Key, (Int) -> Unit>, () -> Key".toList) =
        .ok [ofText "Map<Key, (Int) -> Unit>".toList, ofText "() -> Key".toList] ∧
      CutsAgree "Map<Key, (Int) -> Unit>, () -> Key".toList
        [ofText "Map<Key, (Int) -> Unit>".toList, ofText "() -> Key".toList] :=
  ⟨by decide, (cuts_agree _).2 _ (by decide)⟩

end Lexeme

end HolderInjection
