/-!
# Ranges of code points

A character class is a list of inclusive ranges of code points in ascending order. Membership
walks the ranges and stops at the first one that lies above the code point.
-/

namespace HolderInjection.Text

/-- Whether `n` lies in one of the ascending ranges. -/
def inRanges (n : Nat) : List (Nat × Nat) → Bool
  | [] => false
  | (first, last) :: ranges => first ≤ n && (n ≤ last || inRanges n ranges)

/-- A code point in a class lies in one of its ranges. -/
theorem exists_range_of_inRanges {n : Nat} {ranges : List (Nat × Nat)}
    (h : inRanges n ranges = true) : ∃ r ∈ ranges, r.1 ≤ n ∧ n ≤ r.2 := by
  induction ranges with
  | nil => simp [inRanges] at h
  | cons r rs ih =>
    simp only [inRanges, Bool.and_eq_true, Bool.or_eq_true, decide_eq_true_eq] at h
    obtain ⟨hlow, hhigh | hrest⟩ := h
    · exact ⟨r, by simp, hlow, hhigh⟩
    · obtain ⟨r', hmem, hr'⟩ := ih hrest
      exact ⟨r', List.mem_cons_of_mem _ hmem, hr'⟩

end HolderInjection.Text
