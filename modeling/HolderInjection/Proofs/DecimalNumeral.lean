import HolderInjection.Configuration.Numeral
import HolderInjection.Proofs.TrimmedText

/-!
# Decimal numerals

The ordinary numerals, and the integers they are read as. In front of the digits that count there
may be zeros, underscores may group them, a point and zeros may follow, a sign may come first, and
white space may stand around it all. The decimal text of an integer is one of these numerals.
-/

namespace HolderInjection

namespace Text

theorem pieces_eq_splitOn (separator : Char) (text : List Char) :
    pieces (· == separator) text = text.splitOn separator := by
  induction text with
  | nil => rfl
  | cons c text ih => rw [pieces, List.splitOn_cons_eq_if_modifyHead, ih]

theorem mem_of_mem_intercalate {separator c : Char} {parts : List (List Char)}
    (h : c ∈ [separator].intercalate parts) : c = separator ∨ ∃ part ∈ parts, c ∈ part := by
  induction parts with
  | nil => cases h
  | cons part rest ih =>
    cases rest with
    | nil => exact .inr ⟨part, List.mem_cons_self, by simpa using h⟩
    | cons next rest =>
      rw [List.intercalate_cons_cons, List.mem_append, List.mem_append] at h
      obtain (hpart | hseparator) | hrest := h
      · exact .inr ⟨part, List.mem_cons_self, hpart⟩
      · exact .inl (List.mem_singleton.mp hseparator)
      · obtain rfl | ⟨other, hother, hmem⟩ := ih hrest
        · exact .inl rfl
        · exact .inr ⟨other, List.mem_cons_of_mem part hother, hmem⟩

end Text

namespace Numeral

theorem not_isSpace_of_isDigit {c : Char} (h : c.isDigit) : ¬isSpace c := by
  intro hspace
  obtain ⟨hlow, hhigh⟩ := Char.isDigit_iff_toNat.mp h
  obtain ⟨hblank, -⟩ := Bool.and_eq_true_iff.mp hspace
  obtain ⟨range, hrange, hfirst, hlast⟩ := Text.exists_range_of_inRanges hblank
  have hzero : '0'.toNat = 48 := rfl
  have hnine : '9'.toNat = 57 := rfl
  simp only [Text.blankRanges, List.mem_cons, List.not_mem_nil, or_false] at hrange
  obtain rfl | rfl | rfl | rfl | rfl | rfl | rfl | rfl | rfl | rfl := hrange <;>
    simp only at hfirst hlast <;> omega

/-- A point and so many zeros, or nothing if there are no zeros. -/
def fraction : Nat → List Char
  | 0 => []
  | decimals + 1 => '.' :: '0' :: List.replicate decimals '0'

theorem significant_replicate (zeros : Nat) (text : List Char) :
    significant '0' (List.replicate zeros '0' ++ text) = significant '0' text := by
  induction zeros with
  | zero => rfl
  | succ zeros ih =>
    rw [List.replicate_succ, List.cons_append, significant, if_pos (.inl rfl), ih]

theorem significant_fraction (decimals : Nat) :
    significant '0' (fraction decimals) = '0' :: fraction decimals := by
  cases decimals <;> rfl

theorem significant_digit {c : Char} (text : List Char) (hdigit : c.isDigit) (hzero : c ≠ '0') :
    significant '0' (c :: text) = c :: text := by
  have hunderscore : c ≠ '_' := by
    rintro rfl
    cases hdigit
  have hpoint : c ≠ '.' := by
    rintro rfl
    cases hdigit
  rw [significant, if_neg (by simp [hzero, hunderscore]), if_neg hpoint]

theorem head?_toDigits_ne_zero {n : Nat} (h : n ≠ 0) : (Nat.toDigits 10 n).head? ≠ some '0' := by
  induction n using Nat.strongRecOn with
  | ind n ih =>
    rw [Nat.toDigits_eq_if (by decide)]
    split
    · rename_i hlow
      rw [List.head?_cons, ne_eq, Option.some_inj]
      exact mt Nat.digitChar_eq_zero.mp h
    · rename_i hlow
      rw [List.head?_append_of_ne_nil _ Nat.toDigits_ne_nil]
      exact ih (n / 10) (by omega) (by omega)

/-- A numeral without a sign: zeros, the digits that count in groups between underscores, and a
fraction of zeros. -/
structure Magnitude where
  zeros : Nat
  groups : List (List Char)
  decimals : Nat
  groups_ne : groups ≠ []
  digits : ∀ group ∈ groups, group ≠ [] ∧ ∀ c ∈ group, c.isDigit
  /-- A zero comes first only if it is the only digit. -/
  leading : groups = [['0']] ∨ groups.flatten.head? ≠ some '0'

namespace Magnitude

variable (magnitude : Magnitude)

/-- The digits that count and the underscores between their groups. -/
def body : List Char :=
  ['_'].intercalate magnitude.groups

def text : List Char :=
  List.replicate magnitude.zeros '0' ++ (magnitude.body ++ fraction magnitude.decimals)

def value : Nat :=
  Nat.ofDigitChars 10 magnitude.groups.flatten 0

theorem isDigit_of_mem_flatten {c : Char} (h : c ∈ magnitude.groups.flatten) : c.isDigit := by
  obtain ⟨group, hgroup, hmem⟩ := List.mem_flatten.mp h
  exact (magnitude.digits group hgroup).2 c hmem

/-- The body starts with the first digit. -/
theorem exists_body_eq_cons :
    ∃ c rest, magnitude.body = c :: rest ∧ magnitude.groups.flatten.head? = some c ∧ c.isDigit := by
  obtain ⟨group, groups, hgroups⟩ := List.exists_cons_of_ne_nil magnitude.groups_ne
  obtain ⟨hne, hdigits⟩ := magnitude.digits group (hgroups ▸ List.mem_cons_self)
  obtain ⟨c, tail, rfl⟩ := List.exists_cons_of_ne_nil hne
  unfold body
  rw [hgroups]
  cases groups with
  | nil => exact ⟨c, tail, List.intercalate_singleton, rfl, hdigits c List.mem_cons_self⟩
  | cons next groups => exact ⟨c, _, rfl, rfl, hdigits c List.mem_cons_self⟩

theorem mem_body {c : Char} (h : c ∈ magnitude.body) : c = '_' ∨ c.isDigit := by
  obtain rfl | ⟨group, hgroup, hmem⟩ := Text.mem_of_mem_intercalate h
  · exact .inl rfl
  · exact .inr ((magnitude.digits group hgroup).2 c hmem)

theorem withoutLeadingZeros?_text :
    withoutLeadingZeros? magnitude.text = some (magnitude.body ++ fraction magnitude.decimals) := by
  have hzeros (rest : List Char) :
      withoutLeadingZeros? ('0' :: rest) = some (significant '0' rest) := rfl
  unfold text
  obtain hzero | hhead := magnitude.leading
  · have hbody : magnitude.body = ['0'] := by
      rw [body, hzero, List.intercalate_singleton]
    cases magnitude.zeros with
    | zero => rw [hbody, List.replicate_zero, List.nil_append, List.singleton_append, hzeros,
        significant_fraction]
    | succ zeros =>
      rw [hbody, List.replicate_succ, List.cons_append, hzeros, significant_replicate,
        List.singleton_append, significant, if_pos (.inl rfl), significant_fraction]
  · obtain ⟨c, rest, hbody, hfirst, hdigit⟩ := magnitude.exists_body_eq_cons
    have hzero : c ≠ '0' := by
      rintro rfl
      exact hhead hfirst
    rw [hbody]
    cases magnitude.zeros with
    | zero => exact (if_neg hzero).trans (if_pos hdigit)
    | succ zeros =>
      rw [List.replicate_succ, List.cons_append, hzeros, significant_replicate, List.cons_append,
        significant_digit _ hdigit hzero]

theorem withoutFraction_body :
    withoutFraction (magnitude.body ++ fraction magnitude.decimals) = magnitude.body := by
  have hbody : ∀ c ∈ magnitude.body, (c != '.') = true := by
    intro c hc
    refine bne_iff_ne.mpr ?_
    rintro rfl
    obtain h | h := magnitude.mem_body hc <;> cases h
  unfold withoutFraction
  rw [List.dropWhile_append_of_pos hbody, List.takeWhile_append_of_pos hbody]
  cases magnitude.decimals with
  | zero => simp [fraction]
  | succ decimals =>
    have hpoint : (fraction (decimals + 1)).dropWhile (· != '.') = fraction (decimals + 1) := rfl
    have hnone : (fraction (decimals + 1)).takeWhile (· != '.') = [] := rfl
    rw [hpoint, hnone, List.append_nil]
    exact if_pos (by simp)

theorem ungrouped?_body : ungrouped? magnitude.body = some magnitude.groups.flatten := by
  have hmark : ∀ group ∈ magnitude.groups, '_' ∉ group := by
    intro group hgroup hmem
    cases (magnitude.digits group hgroup).2 '_' hmem
  have hgroups : magnitude.body.splitOn '_' = magnitude.groups :=
    List.splitOn_intercalate '_' hmark magnitude.groups_ne
  have hnone : magnitude.groups.any List.isEmpty = false := by
    rw [List.any_eq_false]
    intro group hgroup
    simpa using (magnitude.digits group hgroup).1
  unfold ungrouped?
  rw [Text.pieces_eq_splitOn, hgroups]
  simp only [hnone, Bool.false_eq_true, if_false]

theorem core?_text : core? magnitude.text = some magnitude.groups.flatten := by
  rw [core?, withoutLeadingZeros?_text, Option.bind_some, withoutFraction_body, ungrouped?_body]

theorem natural?_digits : natural? magnitude.groups.flatten = some magnitude.value := by
  unfold natural? value
  obtain hzero | hhead := magnitude.leading
  · rw [hzero]
    rfl
  · have hne : magnitude.groups.flatten ≠ [] := by
      obtain ⟨c, -, -, hfirst, -⟩ := magnitude.exists_body_eq_cons
      intro hnil
      rw [hnil] at hfirst
      cases hfirst
    have hsingle : magnitude.groups.flatten ≠ ['0'] := fun h => hhead (h ▸ rfl)
    have hdigits : magnitude.groups.flatten.all Char.isDigit :=
      List.all_eq_true.mpr fun c hc => magnitude.isDigit_of_mem_flatten hc
    rw [if_neg hsingle, if_pos ⟨hne, hhead, hdigits⟩]
    rfl

theorem signed?_digits : signed? magnitude.groups.flatten = some (magnitude.value : Int) := by
  obtain ⟨c, -, -, hfirst, hdigit⟩ := magnitude.exists_body_eq_cons
  have hminus (rest : List Char) : magnitude.groups.flatten ≠ '-' :: rest := by
    intro h
    rw [h] at hfirst
    cases hfirst
    cases hdigit
  rw [signed?.eq_2 _ hminus, natural?_digits]
  rfl

theorem isDigit_or_of_mem_text {c : Char} (h : c ∈ magnitude.text) :
    c.isDigit ∨ c = '_' ∨ c = '.' := by
  rcases List.mem_append.mp h with hzero | hrest
  · exact .inl ((List.mem_replicate.mp hzero).2 ▸ rfl)
  rcases List.mem_append.mp hrest with hbody | hfraction
  · exact (magnitude.mem_body hbody).symm.imp_right .inl
  · cases hdecimals : magnitude.decimals with
    | zero =>
      rw [hdecimals] at hfraction
      cases hfraction
    | succ decimals =>
      rw [hdecimals, fraction, ← List.replicate_succ, List.mem_cons] at hfraction
      obtain rfl | hzero := hfraction
      · exact .inr (.inr rfl)
      · exact .inl ((List.mem_replicate.mp hzero).2 ▸ rfl)

theorem exists_text_eq_cons : ∃ c rest, magnitude.text = c :: rest ∧ c.isDigit := by
  unfold text
  cases magnitude.zeros with
  | zero =>
    obtain ⟨c, rest, hbody, -, hdigit⟩ := magnitude.exists_body_eq_cons
    exact ⟨c, rest ++ fraction magnitude.decimals, by rw [hbody]; rfl, hdigit⟩
  | succ zeros => exact ⟨'0', _, rfl, rfl⟩

variable {before after : List Char}

theorem trimWhile_text (sign : List Char) (hsign : ∀ c ∈ sign, ¬isSpace c)
    (hbefore : ∀ c ∈ before, isSpace c) (hafter : ∀ c ∈ after, isSpace c) :
    Text.trimWhile isSpace (before ++ (sign ++ magnitude.text) ++ after) =
      sign ++ magnitude.text := by
  rw [Text.trimWhile_pad hbefore hafter]
  refine Text.trimWhile_eq_self_of_forall fun c hc => ?_
  rcases List.mem_append.mp hc with h | h
  · exact hsign c h
  · obtain hdigit | rfl | rfl := magnitude.isDigit_or_of_mem_text h
    · exact not_isSpace_of_isDigit hdigit
    · decide
    · decide

/-- A numeral is read as its number, or with a minus sign as the negative of that. -/
theorem integer?_text (hbefore : ∀ c ∈ before, isSpace c) (hafter : ∀ c ∈ after, isSpace c) :
    integer? (before ++ magnitude.text ++ after) = some (magnitude.value : Int) ∧
    integer? (before ++ '+' :: magnitude.text ++ after) = some (magnitude.value : Int) ∧
    integer? (before ++ '-' :: magnitude.text ++ after) = some (-magnitude.value : Int) := by
  have htrim := magnitude.trimWhile_text [] (by simp) hbefore hafter
  have hplus := magnitude.trimWhile_text ['+'] (List.forall_mem_singleton.mpr (by decide))
    hbefore hafter
  have hminus := magnitude.trimWhile_text ['-'] (List.forall_mem_singleton.mpr (by decide))
    hbefore hafter
  have hsigned : (core? magnitude.text).bind signed? = some (magnitude.value : Int) := by
    rw [core?_text, Option.bind_some, signed?_digits]
  have hdigits : (core? magnitude.text).bind natural? = some magnitude.value := by
    rw [core?_text, Option.bind_some, natural?_digits]
  unfold integer?
  refine ⟨?_, ?_, ?_⟩
  · obtain ⟨c, rest, htext, hdigit⟩ := magnitude.exists_text_eq_cons
    rw [List.nil_append, htext] at htrim
    rw [htext] at hsigned ⊢
    rw [htrim]
    split
    · rename_i heq
      cases heq
      cases hdigit
    · rename_i heq
      cases heq
      cases hdigit
    · exact hsigned
  · rw [List.singleton_append] at hplus
    rw [hplus]
    exact hsigned
  · rw [List.singleton_append] at hminus
    simp only [hminus, hdigits]
    rfl

/-- The decimal text of a natural number is a numeral. -/
def ofNat (n : Nat) : Magnitude where
  zeros := 0
  groups := [Nat.toDigits 10 n]
  decimals := 0
  groups_ne := List.cons_ne_nil _ _
  digits := by
    intro group hgroup
    obtain rfl := List.mem_singleton.mp hgroup
    exact ⟨Nat.toDigits_ne_nil, fun c hc => Nat.isDigit_of_mem_toDigits (by decide) (by decide) hc⟩
  leading := by
    by_cases hzero : n = 0
    · exact .inl (by rw [hzero, Nat.toDigits_zero])
    · rw [List.flatten_singleton]
      exact .inr (head?_toDigits_ne_zero hzero)

theorem text_ofNat (n : Nat) : (ofNat n).text = Nat.toDigits 10 n := by
  rw [text, body, ofNat, List.intercalate_singleton]
  exact List.append_nil _

theorem value_ofNat (n : Nat) : (ofNat n).value = n := by
  rw [value, ofNat, List.flatten_singleton, Nat.ofDigitChars_ten_toDigits]

end Magnitude

/-- Every integer is read back from its decimal text, whatever white space stands around it. -/
theorem integer?_toString {before after : List Char} (value : Int)
    (hbefore : ∀ c ∈ before, isSpace c) (hafter : ∀ c ∈ after, isSpace c) :
    integer? (before ++ (toString value).toList ++ after) = some value := by
  cases value with
  | ofNat n =>
    obtain ⟨hplain, -, -⟩ := (Magnitude.ofNat n).integer?_text hbefore hafter
    rw [Magnitude.text_ofNat, Magnitude.value_ofNat] at hplain
    have htext : (toString (Int.ofNat n)).toList = Nat.toDigits 10 n := Nat.toList_repr
    rw [htext, hplain]
    rfl
  | negSucc n =>
    obtain ⟨-, -, hminus⟩ := (Magnitude.ofNat (n + 1)).integer?_text hbefore hafter
    rw [Magnitude.text_ofNat, Magnitude.value_ofNat] at hminus
    have htext : (toString (Int.negSucc n)).toList = '-' :: Nat.toDigits 10 (n + 1) := by
      change ("-" ++ (n + 1).repr).toList = _
      rw [String.toList_append, Nat.toList_repr]
      rfl
    rw [htext, hminus]
    rfl

end Numeral

end HolderInjection
