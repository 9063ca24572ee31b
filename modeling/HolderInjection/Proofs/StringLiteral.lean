import HolderInjection.Name
import HolderInjection.Text.Line
import Mathlib.Data.List.Infix

/-!
# String literals

In a literal of the generated language, a dollar sign before a name or a brace stands for a value.
A text without quotes, backslashes and line ends in which no dollar sign opens a brace or a quoted
name cannot end a literal, and a literal shows it as it is if it refers to no value either.
-/

namespace HolderInjection.Literal

/-- A character of a literal, which is shown, or else is part of something whose value is. -/
inductive Glyph where
  | shown (c : Char)
  | hidden (c : Char)
  deriving DecidableEq, Repr

def Glyph.char : Glyph → Char
  | shown c | hidden c => c

/-- Where in a literal a reader is: in its text, or after a dollar sign in a name or within a number
of braces. -/
inductive Place where
  | text
  | reference
  | expression (depth : Nat)
  deriving DecidableEq, Repr

def backtick : Char :=
  Char.ofNat 0x60

def dollar (next : Option Char) : Option (Glyph × Place) :=
  if next.any Name.isIdentifierStart then some (.hidden '$', .reference)
  else if next = some '{' then some (.hidden '$', .expression 0)
  -- a name in backticks may hold almost anything, and is not read
  else if next = some backtick then none
  else some (.shown '$', .text)

def outside (c : Char) (next : Option Char) : Option (Glyph × Place) :=
  -- what a backslash makes of the characters after it is not read either
  if c = '\\' ∨ Text.isLineEnd c then none
  else if c = '$' then dollar next
  else some (.shown c, .text)

/-- The quotes of literals, characters and names, and what a comment starts with. -/
def isUnread (c : Char) : Bool :=
  [0x22, 0x27, 0x60, 0x2F].contains c.toNat

def within (depth : Nat) (c : Char) : Option (Glyph × Place) :=
  if isUnread c then none
  else if c = '{' then some (.hidden c, .expression (depth + 1))
  else if c = '}' then some (.hidden c, if depth ≤ 1 then .text else .expression (depth - 1))
  else some (.hidden c, .expression depth)

/-- What a character is that does not end the literal, and where it leads. -/
def step (place : Place) (c : Char) (next : Option Char) : Option (Glyph × Place) :=
  match place with
  | .text => outside c next
  | .reference => if Name.isPackagePart c then some (.hidden c, .reference) else outside c next
  | .expression depth => within depth c

def Place.isOutside : Place → Bool
  | text | reference => true
  | expression _ => false

def put (glyphs : List Glyph) (read : Option (List Glyph × List Char)) :
    Option (List Glyph × List Char) :=
  read.map fun (more, after) => (glyphs ++ more, after)

/-- Reads a literal up to its closing quote, and returns what comes after that. -/
def read : Place → List Char → Option (List Glyph × List Char)
  | _, [] => none
  | place, c :: text =>
    if c = '"' ∧ place.isOutside then some ([], text)
    else
      match step place c text.head? with
      | none => none
      | some (glyph, next) => put [glyph] (read next text)

/-- A text that cannot end a literal around it. -/
structure IsClosed (text : List Char) : Prop where
  quote : '"' ∉ text
  escape : '\\' ∉ text
  line : ∀ c ∈ text, ¬Text.isLineEnd c
  brace : ¬['$', '{'] <:+: text
  backtick : ¬['$', backtick] <:+: text

/-- A text that stands for itself in a literal around it. -/
structure IsPlain (text : List Char) : Prop extends IsClosed text where
  reference : ∀ c, ['$', c] <:+: text → ¬Name.isIdentifierStart c

theorem IsClosed.tail {c : Char} {text : List Char} (h : IsClosed (c :: text)) :
    IsClosed text where
  quote hmem := h.quote (List.mem_cons_of_mem c hmem)
  escape hmem := h.escape (List.mem_cons_of_mem c hmem)
  line d hmem := h.line d (List.mem_cons_of_mem c hmem)
  brace hpair := h.brace (List.infix_cons hpair)
  backtick hpair := h.backtick (List.infix_cons hpair)

theorem IsPlain.tail {c : Char} {text : List Char} (h : IsPlain (c :: text)) : IsPlain text where
  toIsClosed := h.toIsClosed.tail
  reference d hpair := h.reference d (List.infix_cons hpair)

/-- What may follow a closed text, so that a dollar sign at its end opens nothing. -/
def stops (next : Option Char) : Bool :=
  next.all fun c => !(Name.isPackagePart c || c == '{' || c == backtick)

theorem stops_iff {next : Option Char} :
    stops next ↔ ∀ c ∈ next, ¬Name.isPackagePart c ∧ c ≠ '{' ∧ c ≠ backtick := by
  simp only [stops, Option.all_eq_true, Bool.not_eq_true', Bool.or_eq_false_iff,
    beq_eq_false_iff_ne, ne_eq, and_assoc, Bool.not_eq_true]
  rfl

theorem not_isIdentifierStart_of_stops {next : Option Char} (h : stops next) :
    ∀ c ∈ next, ¬Name.isIdentifierStart c := by
  intro c hc hstart
  refine (stops_iff.mp h c hc).1 ?_
  unfold Name.isIdentifierStart at hstart
  unfold Name.isPackagePart
  rcases Bool.or_eq_true_iff.mp hstart with hletter | hmark
  · simp [hletter]
  · simp [hmark]

/-- A step outside all braces stays there, unless it ends the literal or opens something. In the text
a character stands for itself unless it starts a reference. -/
theorem exists_step {place : Place} (hplace : place.isOutside) {c : Char} (hescape : c ≠ '\\')
    (hline : ¬Text.isLineEnd c) {next : Option Char}
    (hnext : c = '$' → next ≠ some '{' ∧ next ≠ some backtick) :
    ∃ glyph after, step place c next = some (glyph, after) ∧ glyph.char = c ∧ after.isOutside ∧
      (place = .text → (glyph = .shown c ↔ (c = '$' → ¬next.any Name.isIdentifierStart)) ∧
        (glyph = .shown c → after = .text)) := by
  have houtside : ∃ glyph after, outside c next = some (glyph, after) ∧ glyph.char = c ∧
      after.isOutside ∧ (glyph = .shown c ↔ (c = '$' → ¬next.any Name.isIdentifierStart)) ∧
      (glyph = .shown c → after = .text) := by
    unfold outside
    rw [if_neg (not_or.mpr ⟨hescape, hline⟩)]
    by_cases hdollar : c = '$'
    · subst hdollar
      obtain ⟨hbrace, hbacktick⟩ := hnext rfl
      rw [if_pos rfl, dollar]
      by_cases hstart : next.any Name.isIdentifierStart
      · rw [if_pos hstart]
        exact ⟨_, _, rfl, rfl, rfl, iff_of_false nofun fun h => h rfl hstart, nofun⟩
      · rw [if_neg hstart, if_neg hbrace, if_neg hbacktick]
        exact ⟨_, _, rfl, rfl, rfl, iff_of_true rfl fun _ => hstart, fun _ => rfl⟩
    · rw [if_neg hdollar]
      exact ⟨_, _, rfl, rfl, rfl, iff_of_true rfl fun h => absurd h hdollar, fun _ => rfl⟩
  obtain ⟨glyph, after, hstep, hchar, hafter, hshown⟩ := houtside
  cases place with
  | text => exact ⟨glyph, after, hstep, hchar, hafter, fun _ => hshown⟩
  | reference =>
    by_cases hpart : Name.isPackagePart c
    · exact ⟨.hidden c, .reference, if_pos hpart, rfl, rfl, nofun⟩
    · exact ⟨glyph, after, (if_neg hpart).trans hstep, hchar, hafter, nofun⟩
  | expression depth => cases hplace

/-- A reference ends at what cannot continue a name. -/
theorem read_eq_of_stops {rest : List Char} (hrest : stops rest.head?) {place : Place}
    (hplace : place.isOutside) : read place rest = read .text rest := by
  cases place with
  | text => rfl
  | expression depth => cases hplace
  | reference =>
    cases rest with
    | nil => rfl
    | cons c rest =>
      have hstep : step .reference c rest.head? = step .text c rest.head? :=
        if_neg (stops_iff.mp hrest c rfl).1
      rw [read, read, hstep]
      rfl

theorem put_nil (read : Option (List Glyph × List Char)) : put [] read = read := by
  cases read <;> rfl

theorem put_put (glyphs others : List Glyph) (read : Option (List Glyph × List Char)) :
    put glyphs (put others read) = put (glyphs ++ others) read := by
  cases read with
  | none => rfl
  | some result => exact congrArg (fun glyphs => some (glyphs, _)) (List.append_assoc ..).symm

theorem read_cons {place after : Place} {c : Char} {text : List Char} {glyph : Glyph}
    (hquote : c ≠ '"') (hstep : step place c text.head? = some (glyph, after)) :
    read place (c :: text) = put [glyph] (read after text) := by
  rw [read, if_neg (fun h => hquote h.1), hstep]

theorem isInfix_of_head {c d : Char} {text : List Char} {next : Option Char}
    (h : d ∈ text.head?.or next) : [c, d] <:+: c :: text ∨ text = [] ∧ d ∈ next := by
  cases text with
  | nil => exact .inr ⟨rfl, h⟩
  | cons e text =>
    obtain rfl : e = d := Option.some.inj h
    exact .inl (List.prefix_append [c, e] text).isInfix

theorem isPlain_nil : IsPlain [] := by
  have hnone {c d : Char} : ¬[c, d] <:+: [] := fun h => List.cons_ne_nil _ _ (List.infix_nil.mp h)
  exact ⟨⟨nofun, nofun, nofun, hnone, hnone⟩, fun _ h => absurd h hnone⟩

theorem isPlain_cons_iff {c : Char} {text : List Char} (h : IsClosed (c :: text)) :
    IsPlain (c :: text) ↔
      (c = '$' → ¬text.head?.any Name.isIdentifierStart) ∧ IsPlain text := by
  constructor
  · refine fun hplain => ⟨fun hc hstart => ?_, hplain.tail⟩
    obtain ⟨d, hd, hstart⟩ := (Option.any_eq_true _ _).mp hstart
    subst hc
    rcases @isInfix_of_head '$' d text none (by rwa [Option.or_none]) with hpair | ⟨-, hmem⟩
    · exact hplain.reference d hpair hstart
    · cases hmem
  · rintro ⟨hhead, hplain⟩
    refine ⟨h, fun d hpair hstart => ?_⟩
    rcases List.infix_cons_iff.mp hpair with hfront | hpair
    · obtain ⟨rfl, rest, rfl⟩ := List.cons_prefix_cons.mp hfront
      exact hhead rfl hstart
    · exact hplain.reference d hpair hstart

/-- A closed text is read through, and as it is exactly if it is plain. -/
theorem read_closed {text : List Char} (h : IsClosed text) {next : Option Char}
    (hnext : stops next) {place : Place} (hplace : place.isOutside) :
    ∃ glyphs, glyphs.map Glyph.char = text ∧
      (place = .text → (glyphs = text.map .shown ↔ IsPlain text)) ∧
      ∀ rest, rest.head? = next → read place (text ++ rest) = put glyphs (read .text rest) := by
  -- a reference may be open where the rest of the text starts, so all such places are carried along
  induction text generalizing place with
  | nil =>
    refine ⟨[], rfl, fun _ => iff_of_true rfl isPlain_nil, fun rest hrest => ?_⟩
    rw [List.nil_append, read_eq_of_stops (hrest ▸ hnext) hplace, put_nil]
  | cons c text ih =>
    have hquote : c ≠ '"' := fun hc => h.quote (hc ▸ List.mem_cons_self)
    have hescape : c ≠ '\\' := fun hc => h.escape (hc ▸ List.mem_cons_self)
    have hopen (hc : c = '$') :
        text.head?.or next ≠ some '{' ∧ text.head?.or next ≠ some backtick := by
      subst hc
      refine ⟨fun hbrace => ?_, fun htick => ?_⟩
      · rcases isInfix_of_head hbrace with hpair | ⟨-, hmem⟩
        · exact h.brace hpair
        · exact (stops_iff.mp hnext _ hmem).2.1 rfl
      · rcases isInfix_of_head htick with hpair | ⟨-, hmem⟩
        · exact h.backtick hpair
        · exact (stops_iff.mp hnext _ hmem).2.2 rfl
    have hreference : (text.head?.or next).any Name.isIdentifierStart =
        text.head?.any Name.isIdentifierStart := by
      cases text with
      | nil =>
        rw [List.head?_nil, Option.none_or, Option.any_none, ← Bool.not_eq_true,
          Option.any_eq_true]
        rintro ⟨d, hd, hstart⟩
        exact not_isIdentifierStart_of_stops hnext d hd hstart
      | cons d text => rfl
    obtain ⟨glyph, after, hstep, hchar, hafter, htext⟩ :=
      exists_step hplace hescape (h.line c List.mem_cons_self) hopen
    obtain ⟨glyphs, hchars, hplain, hread⟩ := ih h.tail hafter
    refine ⟨glyph :: glyphs, by rw [List.map_cons, hchar, hchars], fun hplace => ?_,
      fun rest hrest => ?_⟩
    · obtain ⟨hshown, hstay⟩ := htext hplace
      rw [List.map_cons, List.cons.injEq, isPlain_cons_iff h, hshown, hreference]
      refine and_congr_right fun hhead => hplain (hstay (hshown.mpr ?_))
      rwa [hreference]
    · rw [← hrest, ← List.head?_append] at hstep
      rw [List.cons_append, read_cons hquote hstep, hread rest hrest, put_put]
      rfl

/-- Whether a character stands for itself in every literal, whatever comes after it. -/
def isQuiet (c : Char) : Bool :=
  !(c == '"' || c == '\\' || c == '$' || Text.isLineEnd c)

theorem isQuiet_iff {c : Char} :
    isQuiet c ↔ c ≠ '"' ∧ c ≠ '\\' ∧ c ≠ '$' ∧ ¬Text.isLineEnd c := by
  simp only [isQuiet, Bool.not_eq_true', Bool.or_eq_false_iff, beq_eq_false_iff_ne, ne_eq,
    and_assoc, Bool.not_eq_true]

theorem read_quiet {text : List Char} (h : text.all isQuiet) (rest : List Char) :
    read .text (text ++ rest) = put (text.map .shown) (read .text rest) := by
  induction text with
  | nil => exact (put_nil _).symm
  | cons c text ih =>
    rw [List.all_cons, Bool.and_eq_true] at h
    obtain ⟨hquote, hescape, hdollar, hline⟩ := isQuiet_iff.mp h.1
    have hstep : step .text c (text ++ rest).head? = some (.shown c, .text) := by
      rw [step, outside, if_neg (not_or.mpr ⟨hescape, hline⟩), if_neg hdollar]
    rw [List.cons_append, read_cons hquote hstep, ih h.2, put_put]
    rfl

/-- The characters of a text that stands for itself. -/
def shown (text : String) : List Glyph :=
  text.toList.map .shown

/-- From its opening quote, the literal with a content is read up to its own closing quote,
whatever follows that. -/
def Reads (content : String) (glyphs : List Glyph) : Prop :=
  ∀ rest, read .text (content.toList ++ '"' :: rest) = some (glyphs, rest)

/-- A literal around a closed text ends where it is meant to, and shows it exactly if it is plain. -/
theorem reads_around {front name back : String} {others : List Glyph}
    (hfront : front.toList.all isQuiet) (hname : IsClosed name.toList)
    (hnext : stops (back.toList.head?.or (some '"'))) (hback : Reads back others) :
    ∃ glyphs, glyphs.map Glyph.char = name.toList ∧
      (glyphs = shown name ↔ IsPlain name.toList) ∧
      Reads (front ++ name ++ back) (shown front ++ glyphs ++ others) := by
  obtain ⟨glyphs, hchars, hplain, hread⟩ := @read_closed _ hname _ hnext .text rfl
  refine ⟨glyphs, hchars, hplain rfl, fun rest => ?_⟩
  have hhead : (back.toList ++ '"' :: rest).head? = back.toList.head?.or (some '"') :=
    List.head?_append
  rw [String.toList_append, String.toList_append, List.append_assoc, List.append_assoc,
    read_quiet hfront, hread _ hhead, hback rest, put_put]
  rfl

end HolderInjection.Literal
