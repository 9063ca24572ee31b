import HolderInjection.Proofs.TrimmedText
import HolderInjection.Template.Parser

/-!
# The blanks that block tags take along

Where a template is cut does not depend on its spacing: it is the same stretches of text between
the same tags, and the same tag that is malformed. What the spacing decides is how much of a stretch
is kept. A line feed right after a block tag may go, and so may the blanks on the line of a block
tag, if the line starts within the stretch.
-/

namespace HolderInjection.Template

/-- Whether a token is a tag. -/
def Token.isTag : Token → Bool
  | .text _ => false
  | _ => true

/-- A template as stretches of text and the tags between them. -/
inductive Slices where
  | last (stretch : List Char)
  | tag (stretch : List Char) (kind : TagKind) (expression : List Char) (rest : Slices)

/-- What is dropped at the start of a stretch that follows a tag, or nothing: a line feed. -/
def droppedFront (spacing : Spacing) (before : Option TagKind) (stretch : List Char) : List Char :=
  if spacing.trimAfterBlocks ∧ before = some .block ∧ stretch.head? = some '\n' then ['\n'] else []

/-- What is dropped at the end of a stretch: its last line, if it is blank and a block tag is on the
same line. -/
def droppedBack (spacing : Spacing) (before after : Option TagKind) (stretch : List Char) :
    List Char :=
  if spacing.trimBeforeBlocks ∧ after = some .block ∧ Text.isBlank (lastLine stretch) ∧
      (before = none ∨ '\n' ∈ stretch) then
    lastLine stretch
  else []

/-- The middle of a stretch, between what is dropped. -/
def keptStretch (spacing : Spacing) (before after : Option TagKind) (stretch : List Char) :
    List Char :=
  let rest := stretch.drop (droppedFront spacing before stretch).length
  rest.take (rest.length - (droppedBack spacing before after stretch).length)

/-- The tokens of a template that is cut; `before` is the tag before the first stretch. -/
def Slices.tokens (spacing : Spacing) (before : Option TagKind) : Slices → List Token
  | last stretch => textToken (keptStretch spacing before none stretch)
  | tag stretch kind expression rest =>
    textToken (keptStretch spacing before (some kind) stretch) ++
      kind.token expression :: rest.tokens spacing (some kind)

theorem lastLine_suffix (text : List Char) : lastLine text <:+ text := by
  unfold lastLine
  rw [← List.reverse_prefix, List.reverse_reverse]
  exact List.takeWhile_prefix _

theorem lastLine_lineFeed_cons (text : List Char) : lastLine ('\n' :: text) = lastLine text := by
  unfold lastLine
  rw [List.reverse_cons, List.takeWhile_append]
  split
  · rename_i hall
    rw [(List.takeWhile_prefix _).eq_of_length hall]
    simp
  · rfl

/-! What is dropped stands at the ends of the stretch, and the ends do not overlap. -/

section

variable (spacing : Spacing) (before : Option TagKind) (stretch : List Char)

theorem droppedFront_cases :
    droppedFront spacing before stretch = [] ∨
      droppedFront spacing before stretch = ['\n'] ∧ ∃ rest, stretch = '\n' :: rest := by
  unfold droppedFront
  split
  · rename_i hfront
    exact .inr ⟨rfl, List.head?_eq_some_iff.mp hfront.2.2⟩
  · exact .inl rfl

theorem droppedFront_append_drop :
    droppedFront spacing before stretch ++
      stretch.drop (droppedFront spacing before stretch).length = stretch := by
  rcases droppedFront_cases spacing before stretch with hfront | ⟨hfront, rest, rfl⟩
  · rw [hfront]
    rfl
  · rw [hfront]
    rfl

/-- A line feed that is dropped leaves the last line as it is. -/
theorem lastLine_drop :
    lastLine (stretch.drop (droppedFront spacing before stretch).length) = lastLine stretch := by
  rcases droppedFront_cases spacing before stretch with hfront | ⟨hfront, rest, rfl⟩
  · rw [hfront]
    rfl
  · rw [hfront, lastLine_lineFeed_cons]
    rfl

theorem droppedBack_suffix (after : Option TagKind) :
    droppedBack spacing before after stretch <:+
      stretch.drop (droppedFront spacing before stretch).length := by
  unfold droppedBack
  split
  · rw [← lastLine_drop spacing before stretch]
    exact lastLine_suffix _
  · exact List.nil_suffix

/-- A stretch is what is kept of it between what is dropped. -/
theorem dropped_append_kept (after : Option TagKind) :
    droppedFront spacing before stretch ++ keptStretch spacing before after stretch ++
      droppedBack spacing before after stretch = stretch := by
  obtain ⟨kept, hkept⟩ := droppedBack_suffix spacing before stretch after
  have hmiddle : keptStretch spacing before after stretch = kept := by
    unfold keptStretch
    rw [← hkept]
    simp
  rw [hmiddle, List.append_assoc, hkept, droppedFront_append_drop]

/-- Nothing but blanks is dropped. -/
theorem isBlank_dropped (after : Option TagKind) :
    Text.isBlank (droppedFront spacing before stretch) ∧
      Text.isBlank (droppedBack spacing before after stretch) := by
  constructor
  · unfold droppedFront
    split <;> decide
  · unfold droppedBack
    split
    · rename_i hback
      exact hback.2.2.1
    · rfl

theorem keptStretch_plain (after : Option TagKind) :
    keptStretch ⟨false, false⟩ before after stretch = stretch := by
  simp [keptStretch, droppedFront, droppedBack]

end

/-! The tokens of a template, from its slices. -/

theorem keptAfter_eq (spacing : Spacing) (kind : TagKind) (after : List Char) :
    keptAfter spacing kind after =
      (after.drop (droppedFront spacing (some kind) after).length,
        decide (droppedFront spacing (some kind) after ≠ [])) := by
  unfold keptAfter
  split
  · rename_i rest
    by_cases hblock : kind = .block ∧ spacing.trimAfterBlocks
    · have hfront : droppedFront spacing (some kind) ('\n' :: rest) = ['\n'] :=
        if_pos ⟨hblock.2, congrArg some hblock.1, rfl⟩
      rw [if_pos hblock, hfront]
      rfl
    · have hfront : droppedFront spacing (some kind) ('\n' :: rest) = [] :=
        if_neg fun hfront => hblock ⟨Option.some.inj hfront.2.1, hfront.1⟩
      rw [if_neg hblock, hfront]
      rfl
  · rename_i hother
    rcases droppedFront_cases spacing (some kind) after with hfront | ⟨-, rest, rfl⟩
    · rw [hfront]
      rfl
    · exact absurd rfl (hother rest)

/-- The beginning of a stretch is the beginning of a line at the start of a template and behind a
line feed that was dropped. -/
def startsLine (spacing : Spacing) (before : Option TagKind) (stretch : List Char) : Bool :=
  before = none ∨ droppedFront spacing before stretch ≠ []

theorem startsLine_or_mem_iff (spacing : Spacing) (before : Option TagKind) (stretch : List Char) :
    (startsLine spacing before stretch ∨
        '\n' ∈ stretch.drop (droppedFront spacing before stretch).length) ↔
      before = none ∨ '\n' ∈ stretch := by
  rcases droppedFront_cases spacing before stretch with hfront | ⟨hfront, rest, rfl⟩
  · simp [startsLine, hfront]
  · simp [startsLine, hfront]

theorem keptBefore_eq (spacing : Spacing) (before : Option TagKind) (kind : TagKind)
    (stretch : List Char) :
    keptBefore spacing kind (startsLine spacing before stretch)
        (stretch.drop (droppedFront spacing before stretch).length) =
      keptStretch spacing before (some kind) stretch := by
  have hline := startsLine_or_mem_iff spacing before stretch
  unfold keptBefore keptStretch
  by_cases hback : spacing.trimBeforeBlocks ∧ some kind = some .block ∧
      Text.isBlank (lastLine stretch) ∧ (before = none ∨ '\n' ∈ stretch)
  · obtain ⟨htrim, hkind, hblank, hstart⟩ := hback
    have hdropped : droppedBack spacing before (some kind) stretch = lastLine stretch :=
      if_pos ⟨htrim, hkind, hblank, hstart⟩
    have hcond := hline.mpr hstart
    rw [if_pos ⟨Option.some.inj hkind, htrim⟩, hdropped, dropBlankLine, lastLine_drop]
    simp [hblank, hcond]
  · have hdropped : droppedBack spacing before (some kind) stretch = [] := if_neg hback
    rw [hdropped]
    dsimp only
    rw [List.length_nil, Nat.sub_zero, List.take_length]
    split
    · rename_i hblock
      rw [dropBlankLine, lastLine_drop]
      refine if_neg fun hcond => hback ?_
      rw [Bool.and_eq_true, Bool.or_eq_true, List.contains_iff_mem] at hcond
      exact ⟨hblock.2, congrArg some hblock.1, hcond.1, hline.mp hcond.2⟩
    · rfl

theorem cutAtOpening?_drop (spacing : Spacing) (before : Option TagKind) {source stretch : List Char}
    {kind : TagKind} {rest : List Char} (h : cutAtOpening? source = some (stretch, kind, rest)) :
    droppedFront spacing before source = droppedFront spacing before stretch ∧
      cutAtOpening? (source.drop (droppedFront spacing before source).length) =
        some (stretch.drop (droppedFront spacing before source).length, kind, rest) := by
  have hhead : source.head? = some '\n' ↔ stretch.head? = some '\n' := by
    rw [eq_of_cutAtOpening? h]
    cases stretch <;> simp
  have hfronts : droppedFront spacing before source = droppedFront spacing before stretch := by
    unfold droppedFront
    simp only [hhead]
  refine ⟨hfronts, ?_⟩
  rcases droppedFront_cases spacing before source with hfront | ⟨hfront, tail, rfl⟩
  · rw [hfront]
    exact h
  · rw [hfront]
    rw [cutAtOpening?] at h
    · obtain ⟨⟨cut, others⟩, hcut, heq⟩ := Option.map_eq_some_iff.mp h
      cases heq
      exact hcut
    · simp
    · simp

theorem cutAtOpening?_drop_none (spacing : Spacing) (before : Option TagKind) {source : List Char}
    (h : cutAtOpening? source = none) :
    cutAtOpening? (source.drop (droppedFront spacing before source).length) = none := by
  rcases droppedFront_cases spacing before source with hfront | ⟨hfront, rest, rfl⟩
  · rw [hfront]
    exact h
  · rw [hfront]
    simpa [cutAtOpening?] using h

section

variable {spacing : Spacing} {atLineStart : Bool} {source stretch rest inside after : List Char}
  {kind : TagKind}

theorem tokensFrom_of_none (h : cutAtOpening? source = none) :
    tokensFrom spacing atLineStart source = .ok (textToken source) := by
  rw [tokensFrom]
  split
  case h_1 => rfl
  case h_2 hopen =>
    rw [h] at hopen
    cases hopen

theorem tokensFrom_of_unclosed (hopen : cutAtOpening? source = some (stretch, kind, rest))
    (hclose : cutAtClosing? kind.closingMark rest = none) :
    tokensFrom spacing atLineStart source = .error (.unclosedTag kind) := by
  rw [tokensFrom]
  split
  case h_1 hnone =>
    rw [hopen] at hnone
    cases hnone
  case h_2 hcut =>
    rw [hopen] at hcut
    cases hcut
    split
    case h_1 => rfl
    case h_2 hclosed =>
      rw [hclose] at hclosed
      cases hclosed

theorem tokensFrom_of_tag (hopen : cutAtOpening? source = some (stretch, kind, rest))
    (hclose : cutAtClosing? kind.closingMark rest = some (inside, after)) :
    tokensFrom spacing atLineStart source =
      if Text.trim inside = [] then .error (.emptyTag kind)
      else (tokensFrom spacing (keptAfter spacing kind after).2 (keptAfter spacing kind after).1).map
        fun tokens => textToken (keptBefore spacing kind atLineStart stretch) ++
          kind.token (Text.trim inside) :: tokens := by
  rw [tokensFrom]
  split
  case h_1 hnone =>
    rw [hopen] at hnone
    cases hnone
  case h_2 hcut =>
    rw [hopen] at hcut
    cases hcut
    split
    case h_1 hunclosed =>
      rw [hclose] at hunclosed
      cases hunclosed
    case h_2 hclosed =>
      rw [hclose] at hclosed
      cases hclosed
      dsimp only
      split
      · rfl
      · cases tokensFrom spacing (keptAfter spacing kind after).2
          (keptAfter spacing kind after).1 <;> rfl

end

theorem keptStretch_last (spacing : Spacing) (before : Option TagKind) (stretch : List Char) :
    keptStretch spacing before none stretch =
      stretch.drop (droppedFront spacing before stretch).length := by
  have hback : droppedBack spacing before none stretch = [] := if_neg fun hback => nomatch hback.2.1
  rw [keptStretch, hback]
  exact List.take_length

/-- Whatever the spacing, a template is cut at the same places or is malformed in the same way. -/
theorem exists_slices (source : List Char) :
    ∃ slices : Except Problem Slices, ∀ spacing before,
      tokensFrom spacing (startsLine spacing before source)
          (source.drop (droppedFront spacing before source).length) =
        slices.map (·.tokens spacing before) := by
  -- The cut is that of the whole source; the tokens are those of what is left after the drop in
  -- front, which is cut at the same tag.
  induction hlength : source.length using Nat.strongRecOn generalizing source with
  | ind length ih =>
    cases hopen : cutAtOpening? source with
    | none =>
      refine ⟨.ok (.last source), fun spacing before => ?_⟩
      rw [tokensFrom_of_none (cutAtOpening?_drop_none spacing before hopen), ← keptStretch_last]
      rfl
    | some cut =>
      obtain ⟨stretch, kind, rest⟩ := cut
      cases hclose : cutAtClosing? kind.closingMark rest with
      | none =>
        refine ⟨.error (.unclosedTag kind), fun spacing before => ?_⟩
        exact tokensFrom_of_unclosed (cutAtOpening?_drop spacing before hopen).2 hclose
      | some cut =>
        obtain ⟨inside, after⟩ := cut
        by_cases hempty : Text.trim inside = []
        · refine ⟨.error (.emptyTag kind), fun spacing before => ?_⟩
          rw [tokensFrom_of_tag (cutAtOpening?_drop spacing before hopen).2 hclose, if_pos hempty]
          rfl
        · have hshorter : after.length < length := by
            have hsource := congrArg List.length (eq_of_cutAtOpening? hopen)
            have hrest := congrArg List.length (eq_of_cutAtClosing? hclose)
            simp only [List.length_append, List.length_cons] at hsource hrest
            omega
          obtain ⟨slices, hslices⟩ := ih after.length hshorter after rfl
          refine ⟨slices.map (.tag stretch kind (Text.trim inside)), fun spacing before => ?_⟩
          obtain ⟨hfront, hcut⟩ := cutAtOpening?_drop spacing before hopen
          have hline : startsLine spacing before source = startsLine spacing before stretch := by
            rw [startsLine, startsLine, hfront]
          have hafter : startsLine spacing (some kind) after =
              decide (droppedFront spacing (some kind) after ≠ []) := by
            simp [startsLine]
          rw [tokensFrom_of_tag hcut hclose, if_neg hempty, keptAfter_eq, ← hafter, hslices, hline,
            hfront, keptBefore_eq]
          cases slices <;> rfl

/-- At the start of a template nothing is dropped in front. -/
theorem exists_slices_tokens (source : List Char) :
    ∃ slices : Except Problem Slices, ∀ spacing,
      tokens spacing source = slices.map (·.tokens spacing none) := by
  obtain ⟨slices, hslices⟩ := exists_slices source
  refine ⟨slices, fun spacing => ?_⟩
  have hfront : droppedFront spacing none source = [] := if_neg fun hfront => nomatch hfront.2.1
  have hstart := hslices spacing none
  rw [hfront] at hstart
  rw [← hstart]
  rfl

end HolderInjection.Template
