import HolderInjection.Proofs.PassResult

/-!
# Holders that are not enabled

Everything that a pass generates is made of the enabled holders. The others are checked and
registered with the rest, and leave no trace in the file or in the reason for a refusal.
-/

namespace HolderInjection.Pass

variable (configuration : Configuration) (holders : List Holder) (consumers : List Consumer)

theorem filter_enabled_twice :
    (holders.filter (·.enabled)).filter (·.enabled) = holders.filter (·.enabled) := by
  rw [List.filter_filter]
  simp only [Bool.and_self]

theorem registered_filter_enabled :
    registered configuration (holders.filter (·.enabled)) = registered configuration holders := by
  unfold registered
  rw [filter_enabled_twice]

theorem usage_filter_enabled :
    usage (holders.filter (·.enabled)) consumers = usage holders consumers := by
  unfold usage
  rw [filter_enabled_twice]

theorem planned_filter_enabled :
    planned configuration (holders.filter (·.enabled)) consumers =
      planned configuration holders consumers := by
  unfold planned
  rw [registered_filter_enabled, usage_filter_enabled]

/-- What only enabled holders can be is looked for among them. -/
theorem find?_filter_enabled {p : Holder → Bool} (h : ∀ holder, p holder → holder.enabled) :
    (holders.filter (·.enabled)).find? p = holders.find? p := by
  rw [List.find?_filter]
  congr 1
  funext holder
  rw [Bool.eq_iff_iff, decide_eq_true_iff]
  exact ⟨fun hboth => hboth.2, fun hp => ⟨h holder hp, hp⟩⟩

theorem find?_refuses_filter_enabled :
    (holders.filter (·.enabled)).find? refuses = holders.find? refuses :=
  find?_filter_enabled holders fun _ h => (Bool.and_eq_true_iff.mp h).1

theorem file_outcome_filter_enabled :
    (outcome configuration (holders.filter (·.enabled)) consumers).file =
      (outcome configuration holders consumers).file := by
  simp only [outcome]
  rw [find?_filter_enabled holders fun _ h => h]
  cases holders.find? (·.enabled) with
  | none => rw [Option.map_none, Option.map_none]
  | some first =>
    simp only [Option.map_some, generated]
    rw [planned_filter_enabled]

theorem file_outcome_eq_none_iff :
    (outcome configuration holders consumers).file = none ↔
      ∀ holder ∈ holders, holder.enabled = false := by
  unfold outcome
  rw [Option.map_eq_none_iff, List.find?_eq_none]
  simp only [Bool.not_eq_true]

/-- A pass over holders and a pass over those of them that are enabled refuse the same holder for
the same faults, or generate the same file. There is none exactly if no holder is enabled. Every
holder is registered and reported on, enabled or not, in order. -/
theorem run_filter_enabled :
    (∃ className faults,
      (run configuration holders consumers).result = .error (.rejected className faults) ∧
      (run configuration (holders.filter (·.enabled)) consumers).result =
        .error (.rejected className faults)) ∨
    ∃ all enabled,
      (run configuration holders consumers).result = .ok all ∧
      (run configuration (holders.filter (·.enabled)) consumers).result = .ok enabled ∧
      all.file = enabled.file ∧
      (all.file = none ↔ ∀ holder ∈ holders, holder.enabled = false) ∧
      all.registrations = holders.map (Registration.ofHolder configuration.conventionalEnding) ∧
      all.reports = holders.map fun holder => (holder.check configuration.conventions).value := by
  rw [result_run, result_run, find?_refuses_filter_enabled]
  cases holders.find? refuses with
  | some holder => exact .inl ⟨holder.className, holder.faults, rfl, rfl⟩
  | none =>
    refine .inr ⟨outcome configuration holders consumers,
      outcome configuration (holders.filter (·.enabled)) consumers, rfl, rfl, ?_, ?_, rfl, rfl⟩
    · exact (file_outcome_filter_enabled configuration holders consumers).symm
    · exact file_outcome_eq_none_iff configuration holders consumers

end HolderInjection.Pass
