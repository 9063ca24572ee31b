import HolderInjection.Proofs.TemplateSlices

/-!
# Where a template is cut

With a spacing that drops nothing, the tokens spell the template: put together in order, their texts
are the template again. Every tag is the first that opens in what is left, and ends at the first
delimiter that closes it. A template is malformed by the first tag that is not closed or is empty.
-/

namespace HolderInjection

theorem Text.trim_eq_nil_iff {text : List Char} : Text.trim text = [] ↔ Text.isBlank text := by
  constructor
  · intro h
    refine List.all_eq_true.mpr fun c hc => ?_
    by_contra hblank
    have hmem : c ∈ Text.trim text := mem_trimWhile hc hblank
    rw [h] at hmem
    cases hmem
  · intro h
    have hpad : trim (text ++ [] ++ []) = trim [] := trim_pad h rfl
    rw [List.append_nil, List.append_nil] at hpad
    exact hpad

namespace Template

/-- The delimiter that opens a tag. -/
def TagKind.opening (kind : TagKind) : List Char :=
  ['{', kind.openingMark]

/-- The delimiter that closes a tag. -/
def TagKind.closing (kind : TagKind) : List Char :=
  [kind.closingMark, '}']

/-- Whether a delimiter starts in a text. It may end in what follows the text. -/
def StartsIn (delimiter text rest : List Char) : Prop :=
  ∃ front back, text = front ++ back ∧ back ≠ [] ∧ delimiter <+: back ++ rest

/-- Tokens that spell a text, before the rest of a template. -/
inductive Spelled (rest : List Char) : List Token → List Char → Prop where
  | nil : Spelled rest [] []
  /-- Text stands between tags. No tag opens in it. -/
  | text {chars source : List Char} {tokens : List Token} (hchars : chars ≠ [])
      (htag : ∀ token ∈ tokens.head?, token.isTag)
      (hclear : ∀ kind : TagKind, ¬StartsIn kind.opening chars (source ++ rest))
      (h : Spelled rest tokens source) :
      Spelled rest (.text chars :: tokens) (chars ++ source)
  /-- A tag holds more than blanks. It does not close before its end. -/
  | tag {inside source : List Char} {tokens : List Token} (kind : TagKind)
      (hinside : Text.trim inside ≠ [])
      (hfirst : ¬StartsIn kind.closing inside (kind.closing ++ source ++ rest))
      (h : Spelled rest tokens source) :
      Spelled rest (kind.token (Text.trim inside) :: tokens)
        (kind.opening ++ inside ++ kind.closing ++ source)

/-- What is wrong with the tag of a kind, behind whose opening delimiter the rest stands. -/
inductive Faulty (kind : TagKind) (rest : List Char) : Problem → Prop where
  | unclosed (h : ¬StartsIn kind.closing rest []) : Faulty kind rest (.unclosedTag kind)
  | empty {inside after : List Char} (hrest : rest = inside ++ kind.closing ++ after)
      (hfirst : ¬StartsIn kind.closing inside (kind.closing ++ after))
      (hblank : Text.isBlank inside) : Faulty kind rest (.emptyTag kind)

/-! Both kinds of cuts are made at the first delimiter. -/

theorem not_startsIn_nil (delimiter rest : List Char) : ¬StartsIn delimiter [] rest := by
  rintro ⟨front, back, hsplit, hback, -⟩
  exact hback (List.append_eq_nil_iff.mp hsplit.symm).2

theorem startsIn_cons_iff {delimiter text rest : List Char} {c : Char} :
    StartsIn delimiter (c :: text) rest ↔
      delimiter <+: c :: (text ++ rest) ∨ StartsIn delimiter text rest := by
  constructor
  · rintro ⟨front, back, hsplit, hback, hstart⟩
    cases front with
    | nil =>
      rw [List.nil_append] at hsplit
      subst hsplit
      exact .inl hstart
    | cons d front =>
      obtain ⟨-, hsplit⟩ := List.cons_eq_cons.mp hsplit
      exact .inr ⟨front, back, hsplit, hback, hstart⟩
  · rintro (hstart | ⟨front, back, rfl, hback, hstart⟩)
    · exact ⟨[], c :: text, rfl, List.cons_ne_nil c text, hstart⟩
    · exact ⟨c :: front, back, rfl, hback, hstart⟩

/-- A text in which no tag opens is passed over, up to the tag behind it. -/
theorem cutAtOpening?_append {before : List Char} {kind : TagKind} {rest : List Char}
    (h : ∀ other : TagKind, ¬StartsIn other.opening before (kind.opening ++ rest)) :
    cutAtOpening? (before ++ (kind.opening ++ rest)) = some (before, kind, rest) := by
  induction before with
  | nil => cases kind <;> rfl
  | cons c before ih =>
    have hhead (other : TagKind) : ¬other.opening <+: c :: (before ++ (kind.opening ++ rest)) :=
      fun hstart => h other (startsIn_cons_iff.mpr (.inl hstart))
    have hrest := ih fun other hstarts => h other (startsIn_cons_iff.mpr (.inr hstarts))
    rw [List.cons_append, cutAtOpening?, hrest, Option.map_some]
    · rintro tail rfl htail
      exact hhead .insertion (by rw [htail]; exact ⟨tail, rfl⟩)
    · rintro tail rfl htail
      exact hhead .block (by rw [htail]; exact ⟨tail, rfl⟩)

theorem not_opening_isPrefix {c : Char} {source : List Char}
    (hinsertion : ∀ tail, c = '{' → source = '{' :: tail → False)
    (hblock : ∀ tail, c = '{' → source = '%' :: tail → False) (kind : TagKind) :
    ¬kind.opening <+: c :: source := by
  rintro ⟨tail, hstart⟩
  cases kind with
  | insertion =>
    cases hstart
    exact hinsertion tail rfl rfl
  | block =>
    cases hstart
    exact hblock tail rfl rfl

/-- A tag that is cut at is the first that opens. -/
theorem not_startsIn_of_cutAtOpening? {source before rest : List Char} {kind : TagKind}
    (h : cutAtOpening? source = some (before, kind, rest)) (other : TagKind) :
    ¬StartsIn other.opening before (kind.opening ++ rest) := by
  fun_induction cutAtOpening? source generalizing before with
  | case1 => cases h
  | case2 tail =>
    cases h
    exact not_startsIn_nil _ _
  | case3 tail =>
    cases h
    exact not_startsIn_nil _ _
  | case4 c source hinsertion hblock ih =>
    obtain ⟨⟨before, cut⟩, hcut, heq⟩ := Option.map_eq_some_iff.mp h
    cases heq
    rw [startsIn_cons_iff, not_or]
    refine ⟨?_, ih hcut⟩
    change ¬other.opening <+: c :: (before ++ '{' :: kind.openingMark :: rest)
    -- a delimiter in front may end in the tag that the cut is at, so the text is put back together
    rw [← eq_of_cutAtOpening? hcut]
    exact not_opening_isPrefix hinsertion hblock other

/-- A template that is not cut has no tag. -/
theorem cutAtOpening?_eq_none_iff {source : List Char} :
    cutAtOpening? source = none ↔ ∀ kind : TagKind, ¬StartsIn kind.opening source [] := by
  fun_induction cutAtOpening? source with
  | case1 => exact iff_of_true rfl fun kind => not_startsIn_nil _ _
  | case2 tail =>
    refine iff_of_false (Option.some_ne_none _) fun h => h .insertion ?_
    exact startsIn_cons_iff.mpr (.inl ⟨tail ++ [], rfl⟩)
  | case3 tail =>
    refine iff_of_false (Option.some_ne_none _) fun h => h .block ?_
    exact startsIn_cons_iff.mpr (.inl ⟨tail ++ [], rfl⟩)
  | case4 c source hinsertion hblock ih =>
    rw [Option.map_eq_none_iff, ih]
    refine forall_congr' fun kind => ?_
    rw [startsIn_cons_iff, not_or, List.append_nil]
    exact (and_iff_right (not_opening_isPrefix hinsertion hblock kind)).symm

theorem closing_prefix_cons_iff {kind : TagKind} {c : Char} {rest : List Char} :
    kind.closing <+: c :: rest ↔ c = kind.closingMark ∧ rest.head? = some '}' := by
  rw [TagKind.closing, List.cons_prefix_cons, eq_comm]
  refine and_congr_right fun _ => ?_
  cases rest with
  | nil => simp
  | cons d rest =>
    rw [List.cons_prefix_cons, List.head?_cons, Option.some_inj, eq_comm]
    exact and_iff_left List.nil_prefix

/-- A tag is cut at the first delimiter that closes it, and nowhere else. -/
theorem cutAtClosing?_eq_some_iff {kind : TagKind} {rest inside after : List Char} :
    cutAtClosing? kind.closingMark rest = some (inside, after) ↔
      rest = inside ++ (kind.closing ++ after) ∧
        ¬StartsIn kind.closing inside (kind.closing ++ after) := by
  constructor
  · intro h
    refine ⟨eq_of_cutAtClosing? h, ?_⟩
    fun_induction cutAtClosing? kind.closingMark rest generalizing inside with
    | case1 => cases h
    | case2 c rest hmark =>
      cases h
      exact not_startsIn_nil _ _
    | case3 c rest hmark ih =>
      obtain ⟨⟨inside, cut⟩, hcut, heq⟩ := Option.map_eq_some_iff.mp h
      cases heq
      rw [startsIn_cons_iff, not_or]
      refine ⟨fun hstart => hmark ?_, ih hcut⟩
      rw [eq_of_cutAtClosing? hcut]
      exact closing_prefix_cons_iff.mp hstart
  · rintro ⟨rfl, hfirst⟩
    induction inside with
    | nil =>
      change cutAtClosing? _ (kind.closingMark :: '}' :: after) = _
      rw [cutAtClosing?, if_pos ⟨rfl, rfl⟩]
      rfl
    | cons c inside ih =>
      rw [startsIn_cons_iff, not_or] at hfirst
      rw [List.cons_append, cutAtClosing?, if_neg (mt closing_prefix_cons_iff.mpr hfirst.1),
        ih hfirst.2]
      rfl

theorem cutAtClosing?_eq_none_iff {kind : TagKind} {rest : List Char} :
    cutAtClosing? kind.closingMark rest = none ↔ ¬StartsIn kind.closing rest [] := by
  fun_induction cutAtClosing? kind.closingMark rest with
  | case1 => exact iff_of_true rfl (not_startsIn_nil _ _)
  | case2 c rest hmark =>
    refine iff_of_false (Option.some_ne_none _) (not_not_intro (startsIn_cons_iff.mpr (.inl ?_)))
    rw [List.append_nil]
    exact closing_prefix_cons_iff.mpr hmark
  | case3 c rest hmark ih =>
    rw [Option.map_eq_none_iff, ih, startsIn_cons_iff, not_or, List.append_nil]
    exact (and_iff_right (mt closing_prefix_cons_iff.mp hmark)).symm

/-! Reading a template without dropping blanks, tag by tag. -/

/-- The spacing that drops nothing. -/
abbrev Spacing.plain : Spacing :=
  ⟨false, false⟩

section

variable {atLineStart : Bool} {stretch inside after rest : List Char} {kind : TagKind}

theorem tokensFrom_plain_tag (hfirst : ¬StartsIn kind.closing inside (kind.closing ++ after))
    (hopen : cutAtOpening? rest = some (stretch, kind, inside ++ (kind.closing ++ after))) :
    tokensFrom .plain atLineStart rest =
      if Text.trim inside = [] then .error (.emptyTag kind)
      else (tokensFrom .plain false after).map fun tokens =>
        textToken stretch ++ kind.token (Text.trim inside) :: tokens := by
  have hbefore : keptBefore .plain kind atLineStart stretch = stretch := by simp [keptBefore]
  have hafter : keptAfter .plain kind after = (after, false) := by
    unfold keptAfter
    split <;> simp
  rw [tokensFrom_of_tag hopen (cutAtClosing?_eq_some_iff.mpr ⟨rfl, hfirst⟩), hbefore, hafter]

theorem tokensFrom_of_faulty {problem : Problem} (h : Faulty kind rest problem) :
    tokensFrom .plain atLineStart (kind.opening ++ rest) = .error problem := by
  have hopen : cutAtOpening? (kind.opening ++ rest) = some ([], kind, rest) :=
    cutAtOpening?_append fun other => not_startsIn_nil _ _
  cases h with
  | unclosed hclose => exact tokensFrom_of_unclosed hopen (cutAtClosing?_eq_none_iff.mpr hclose)
  | empty hrest hfirst hblank =>
    rw [hrest, List.append_assoc] at hopen
    rw [hrest, List.append_assoc, tokensFrom_plain_tag hfirst hopen,
      if_pos (Text.trim_eq_nil_iff.mpr hblank)]

end

/-- Whether the rest of a template is at its end or at a tag. -/
def AtTag (rest : List Char) : Prop :=
  rest = [] ∨ ∃ (kind : TagKind) (behind : List Char), rest = kind.opening ++ behind

/-- Text in front of a tag is one token more. -/
theorem tokensFrom_text_append {chars rest : List Char} (hrest : AtTag rest)
    (hclear : ∀ kind : TagKind, ¬StartsIn kind.opening chars rest) (atLineStart other : Bool) :
    tokensFrom .plain atLineStart (chars ++ rest) =
      (tokensFrom .plain other rest).map (textToken chars ++ ·) := by
  rcases hrest with rfl | ⟨kind, behind, rfl⟩
  · have hnil : cutAtOpening? [] = none := rfl
    rw [List.append_nil, tokensFrom_of_none (cutAtOpening?_eq_none_iff.mpr hclear),
      tokensFrom_of_none hnil]
    exact congrArg Except.ok (List.append_nil _).symm
  · have hopen := cutAtOpening?_append hclear
    have hnext : cutAtOpening? (kind.opening ++ behind) = some ([], kind, behind) :=
      cutAtOpening?_append fun other => not_startsIn_nil _ _
    cases hclose : cutAtClosing? kind.closingMark behind with
    | none =>
      rw [tokensFrom_of_unclosed hopen hclose, tokensFrom_of_unclosed hnext hclose]
      rfl
    | some cut =>
      obtain ⟨hbehind, hfirst⟩ := cutAtClosing?_eq_some_iff.mp hclose
      rw [hbehind] at hopen hnext ⊢
      rw [tokensFrom_plain_tag hfirst hopen, tokensFrom_plain_tag hfirst hnext]
      split
      · rfl
      · cases tokensFrom .plain false cut.2 <;> rfl

namespace Spelled

variable {rest source : List Char} {tokens : List Token}

theorem atTag (h : Spelled rest tokens source) (hrest : AtTag rest)
    (htag : ∀ token ∈ tokens.head?, token.isTag) : AtTag (source ++ rest) := by
  cases h with
  | nil => exact hrest
  | text => cases htag _ rfl
  | tag kind => exact .inr ⟨kind, _, by simp only [List.append_assoc]; rfl⟩

/-- Tokens that spell a text are read from it, whatever is read behind it. -/
theorem tokensFrom_append (h : Spelled rest tokens source) (hrest : AtTag rest)
    (atLineStart other : Bool) :
    tokensFrom .plain atLineStart (source ++ rest) =
      (tokensFrom .plain other rest).map (tokens ++ ·) := by
  induction h generalizing atLineStart with
  | nil =>
    exact tokensFrom_text_append hrest (fun kind => not_startsIn_nil _ _) atLineStart other
  | text hchars htag hclear h ih =>
    rw [List.append_assoc, tokensFrom_text_append (h.atTag hrest htag) hclear _ false, ih,
      textToken, if_neg hchars]
    cases tokensFrom .plain other rest <;> rfl
  | @tag inside source tokens kind hinside hfirst h ih =>
    rw [List.append_assoc] at hfirst
    have hopen : cutAtOpening? (kind.opening ++ (inside ++ (kind.closing ++ (source ++ rest)))) =
        some ([], kind, inside ++ (kind.closing ++ (source ++ rest))) :=
      cutAtOpening?_append fun other => not_startsIn_nil _ _
    simp only [List.append_assoc]
    rw [tokensFrom_plain_tag hfirst hopen, if_neg hinside, ih]
    cases tokensFrom .plain other rest <;> rfl

/-- A stretch of text in which no tag opens is one token, or none. -/
theorem stretch {chars : List Char}
    (hclear : ∀ kind : TagKind, ¬StartsIn kind.opening chars rest) :
    Spelled rest (textToken chars) chars := by
  unfold textToken
  split
  · rename_i hchars
    rw [hchars]
    exact .nil
  · rename_i hchars
    have htext : Spelled rest [.text chars] (chars ++ []) :=
      .text hchars (by simp) hclear .nil
    rwa [List.append_nil] at htext

/-- A stretch of text and the tag behind it can be put in front. -/
theorem stretch_tag {stretch inside : List Char} {kind : TagKind}
    (h : Spelled rest tokens source) (hinside : Text.trim inside ≠ [])
    (hclear : ∀ other : TagKind, ¬StartsIn other.opening stretch
      (kind.opening ++ (inside ++ (kind.closing ++ (source ++ rest)))))
    (hfirst : ¬StartsIn kind.closing inside (kind.closing ++ (source ++ rest))) :
    Spelled rest (textToken stretch ++ kind.token (Text.trim inside) :: tokens)
      (stretch ++ (kind.opening ++ (inside ++ (kind.closing ++ source)))) := by
  have htag := Spelled.tag kind hinside (by rwa [List.append_assoc]) h
  simp only [List.append_assoc] at htag
  unfold textToken
  split
  · rename_i hstretch
    rw [hstretch]
    exact htag
  · rename_i hstretch
    refine Spelled.text hstretch ?_ (by simpa only [List.append_assoc] using hclear) htag
    intro token htoken
    cases htoken
    cases kind <;> rfl

end Spelled

/-- The first tag of a template that is faulty stands behind a part that is spelled by tokens. -/
def FirstFault (source : List Char) (problem : Problem) : Prop :=
  ∃ tokens front kind rest, source = front ++ kind.opening ++ rest ∧
    Spelled (kind.opening ++ rest) tokens front ∧ Faulty kind rest problem

theorem FirstFault.stretch_tag {stretch inside source : List Char} {kind : TagKind}
    {problem : Problem} (h : FirstFault source problem) (hinside : Text.trim inside ≠ [])
    (hclear : ∀ other : TagKind, ¬StartsIn other.opening stretch
      (kind.opening ++ (inside ++ (kind.closing ++ source))))
    (hfirst : ¬StartsIn kind.closing inside (kind.closing ++ source)) :
    FirstFault (stretch ++ (kind.opening ++ (inside ++ (kind.closing ++ source)))) problem := by
  obtain ⟨tokens, front, faulty, rest, rfl, hspelled, hfault⟩ := h
  rw [List.append_assoc] at hclear hfirst
  refine ⟨_, _, faulty, rest, ?_, hspelled.stretch_tag hinside hclear hfirst, hfault⟩
  simp only [List.append_assoc]

/-- A template is spelled by the tokens that are read, or is malformed as is found. -/
theorem spelled_or_firstFault (source : List Char) (atLineStart : Bool) :
    (∀ tokens, tokensFrom .plain atLineStart source = .ok tokens → Spelled [] tokens source) ∧
      ∀ problem, tokensFrom .plain atLineStart source = .error problem →
        FirstFault source problem := by
  -- the tokens are read as the text is cut, so the induction is on what is left behind a tag
  induction hlength : source.length using Nat.strongRecOn generalizing source atLineStart with
  | ind length ih =>
    cases hopen : cutAtOpening? source with
    | none =>
      rw [tokensFrom_of_none hopen]
      refine ⟨?_, nofun⟩
      rintro tokens ⟨⟩
      exact .stretch (cutAtOpening?_eq_none_iff.mp hopen)
    | some cut =>
      obtain ⟨stretch, kind, rest⟩ := cut
      have hclear := not_startsIn_of_cutAtOpening? hopen
      have hsource : source = stretch ++ (kind.opening ++ rest) := eq_of_cutAtOpening? hopen
      have hfault {problem : Problem} (h : Faulty kind rest problem) : FirstFault source problem :=
        ⟨_, stretch, kind, rest, by rw [hsource, List.append_assoc], .stretch hclear, h⟩
      cases hclose : cutAtClosing? kind.closingMark rest with
      | none =>
        rw [tokensFrom_of_unclosed hopen hclose]
        refine ⟨nofun, ?_⟩
        rintro problem ⟨⟩
        exact hfault (.unclosed (cutAtClosing?_eq_none_iff.mp hclose))
      | some cut =>
        obtain ⟨inside, after⟩ := cut
        obtain ⟨rfl, hfirst⟩ := cutAtClosing?_eq_some_iff.mp hclose
        rw [tokensFrom_plain_tag hfirst hopen]
        by_cases hinside : Text.trim inside = []
        · rw [if_pos hinside]
          refine ⟨nofun, ?_⟩
          rintro problem ⟨⟩
          exact hfault (.empty (List.append_assoc _ _ _).symm hfirst
            (Text.trim_eq_nil_iff.mp hinside))
        · have hshorter : after.length < length := by
            rw [← hlength, hsource]
            simp only [TagKind.opening, List.length_append, List.length_cons]
            omega
          obtain ⟨hspelled, hmalformed⟩ := ih after.length hshorter after false rfl
          rw [if_neg hinside, hsource]
          cases hafter : tokensFrom .plain false after with
          | error problem =>
            refine ⟨nofun, ?_⟩
            rintro problem ⟨⟩
            exact (hmalformed problem hafter).stretch_tag hinside hclear hfirst
          | ok tokens =>
            refine ⟨?_, nofun⟩
            rintro tokens ⟨⟩
            have hrest := hspelled _ hafter
            rw [← List.append_nil after] at hclear hfirst
            exact hrest.stretch_tag hinside hclear hfirst

/-- Without dropping blanks, the tokens that are read are those that spell the template, and the
problem that is found is the fault of the first tag that has one. -/
theorem tokens_plain_iff (source : List Char) :
    (∀ tokens, Template.tokens .plain source = .ok tokens ↔ Spelled [] tokens source) ∧
      ∀ problem, Template.tokens .plain source = .error problem ↔ FirstFault source problem := by
  obtain ⟨hspelled, hmalformed⟩ := spelled_or_firstFault source true
  refine ⟨fun tokens => ⟨hspelled tokens, fun h => ?_⟩,
    fun problem => ⟨hmalformed problem, fun h => ?_⟩⟩
  · have hread := h.tokensFrom_append (.inl rfl) true true
    have hnil : cutAtOpening? [] = none := rfl
    rw [List.append_nil, tokensFrom_of_none hnil] at hread
    exact hread.trans (congrArg Except.ok (List.append_nil tokens))
  · obtain ⟨tokens, front, kind, rest, rfl, hfront, hfault⟩ := h
    have hread := hfront.tokensFrom_append (.inr ⟨kind, rest, rfl⟩) true true
    rw [tokensFrom_of_faulty hfault, ← List.append_assoc] at hread
    exact hread

end Template

end HolderInjection
