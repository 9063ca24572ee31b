/-!
# Distinct entries

A list loses its repetitions by keeping the first of the entries that share a key. The kept
entries stay in order.
-/

namespace HolderInjection

/-- The first entry of every key, in order. -/
def distinctOn {α κ : Type} [DecidableEq κ] (key : α → κ) : List α → List α
  | [] => []
  | entry :: rest => entry :: (distinctOn key rest).filter fun other => key other ≠ key entry

def distinct {α : Type} [DecidableEq α] (entries : List α) : List α :=
  distinctOn id entries

/-- No entry is made up. -/
theorem distinctOn_sublist {α κ : Type} [DecidableEq κ] (key : α → κ) (entries : List α) :
    (distinctOn key entries).Sublist entries := by
  induction entries with
  | nil => exact List.Sublist.slnil
  | cons entry rest ih => exact (List.filter_sublist.trans ih).cons_cons entry

/-- Every key keeps an entry. -/
theorem map_mem_distinctOn {α κ : Type} [DecidableEq κ] (key : α → κ) {entry : α}
    {entries : List α} (h : entry ∈ entries) :
    ∃ first ∈ distinctOn key entries, key first = key entry := by
  induction entries with
  | nil => simp at h
  | cons head rest ih =>
    by_cases hkey : key entry = key head
    · exact ⟨head, by simp [distinctOn], hkey.symm⟩
    · rcases List.mem_cons.mp h with rfl | h
      · exact absurd rfl hkey
      · obtain ⟨first, hfirst, heq⟩ := ih h
        refine ⟨first, ?_, heq⟩
        simp only [distinctOn, List.mem_cons, List.mem_filter, decide_eq_true_eq]
        exact .inr ⟨hfirst, heq ▸ hkey⟩

/-- No two kept entries share a key. -/
theorem nodup_map_distinctOn {α κ : Type} [DecidableEq κ] (key : α → κ) (entries : List α) :
    ((distinctOn key entries).map key).Nodup := by
  induction entries with
  | nil => simp [distinctOn]
  | cons head rest ih =>
    simp only [distinctOn, List.map_cons, List.nodup_cons]
    refine ⟨by simp, ?_⟩
    exact (List.filter_sublist.map key).nodup ih

/-- It makes no difference whether entries are left out before or after repetitions are lost. -/
theorem filter_distinct {α : Type} [DecidableEq α] (p : α → Bool) (entries : List α) :
    (distinct entries).filter p = distinct (entries.filter p) := by
  unfold distinct
  induction entries with
  | nil => rfl
  | cons entry rest ih =>
    rw [distinctOn, List.filter_cons, List.filter_cons]
    split
    · rw [distinctOn, ← ih, List.filter_filter, List.filter_filter]
      simp only [Bool.and_comm]
    · rename_i hp
      rw [← ih, List.filter_filter]
      refine List.filter_congr fun other _ => ?_
      have hne : p other = true → other ≠ entry := fun hother heq => hp (heq ▸ hother)
      simpa using hne

/-- The first of equal entries is kept. -/
theorem distinct_eq_eraseDups {α : Type} [DecidableEq α] (entries : List α) :
    distinct entries = entries.eraseDups := by
  -- The entries that differ from the first are no tail of the list, only fewer.
  induction hlength : entries.length using Nat.strongRecOn generalizing entries with
  | ind length ih =>
    cases entries with
    | nil => rfl
    | cons entry rest =>
      have hshorter := List.length_filter_le (fun other => !other == entry) rest
      have hrest := ih _ (by rw [← hlength, List.length_cons]; omega)
        (rest.filter fun other => !other == entry) rfl
      rw [List.eraseDups_cons, ← hrest, ← filter_distinct]
      change entry :: (distinct rest).filter _ = _
      congr 2
      funext other
      exact decide_not

end HolderInjection
