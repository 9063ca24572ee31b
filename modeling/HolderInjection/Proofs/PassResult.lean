import HolderInjection.Pass
import HolderInjection.Proofs.AcceptedHolder
import HolderInjection.Proofs.SourceLayout

/-!
# What a pass comes to

A pass fails in one way only: with the faults of the first enabled holder that has any. If there is
none, all its stages succeed, and what it results in can be said outright.
-/

namespace HolderInjection

/-- Work that refuses some members of a list ends with the refusal of the first of them. -/
theorem mapM_eq_of_refusing {α β ε : Type} {work : α → Except ε β} {refuses : α → Bool}
    {problem : α → ε} {value : α → β}
    (h : ∀ item, work item = if refuses item then .error (problem item) else .ok (value item))
    (items : List α) :
    items.mapM work =
      match items.find? refuses with
      | some item => .error (problem item)
      | none => .ok (items.map value) := by
  induction items with
  | nil => rfl
  | cons item items ih =>
    rw [List.mapM_cons, ih, h]
    by_cases hrefuses : refuses item = true
    · rw [if_pos hrefuses, List.find?_cons_of_pos hrefuses]
      rfl
    · rw [if_neg hrefuses, List.find?_cons_of_neg hrefuses]
      cases items.find? refuses <;> rfl

namespace Attempt

/-- Telling about the members of a list never fails. -/
theorem result_forM_record {α ε : Type} (event : α → Event) (items : List α) :
    (items.forM fun item => (record (event item) : Attempt ε Unit)).result = .ok () := by
  induction items with
  | nil => rfl
  | cons item items ih =>
    change (record (event item) >>= fun _ => items.forM _ : Attempt ε Unit).result = _
    rw [result_bind, result_record, ok_bind, ih]

end Attempt

namespace Pass

open Plan (checkInput)

variable (configuration : Configuration) (holders : List Holder) (consumers : List Consumer)

/-- Whether a pass refuses a holder. -/
def refuses (holder : Holder) : Bool :=
  holder.enabled && !holder.faults.isEmpty

theorem accepted_of_not_refuses {holder : Holder} (h : refuses holder = false)
    (henabled : holder.enabled) : holder.Accepted := by
  rw [refuses, henabled, Bool.true_and, Bool.not_eq_false', List.isEmpty_iff] at h
  exact Holder.faults_eq_nil_iff.mp h

theorem result_examine (holder : Holder) :
    (examine configuration holder).result =
      if refuses holder then .error (.rejected holder.className holder.faults)
      else .ok (holder.report configuration.conventions) := by
  unfold examine refuses
  rw [Attempt.result_bind, Attempt.result_ofLogged, ok_bind, Attempt.result_bind,
    Attempt.result_forM_record, ok_bind]
  change (if holder.faults.isEmpty then _ else _ : Attempt Problem Report).result = _
  cases holder.faults.isEmpty with
  | true => rw [Bool.not_true, Bool.and_false]; rfl
  | false =>
    cases holder.enabled with
    | true => rfl
    | false => rfl

/-- The enabled holders are registered. -/
def registered : List Registration :=
  (holders.filter (·.enabled)).map (Registration.ofHolder configuration.conventionalEnding)

/-- The consumers of the enabled holders. -/
def usage : Usage :=
  (Usage.ofHolders (holders.filter (·.enabled)) consumers).value

/-- The plan of the module that a pass generates. -/
def planned : Plan.Module :=
  (Plan.Module.ofRegistrations configuration (usage holders consumers)
    (registered configuration holders)).value

/-- The file that a pass generates if a holder is enabled, of which `first` is the first. -/
def generated (first : Holder) : GeneratedFile :=
  let package := configuration.packageFor first
  ⟨package, (planned configuration holders consumers).fileLayout package⟩

def outcome : Outcome where
  file := (holders.find? (·.enabled)).map (generated configuration holders consumers)
  registrations := holders.map (Registration.ofHolder configuration.conventionalEnding)
  reports := holders.map (·.report configuration.conventions)

theorem filter_map_ofHolder :
    (holders.map (Registration.ofHolder configuration.conventionalEnding)).filter (·.enabled) =
      registered configuration holders :=
  List.filter_map

section Accepted

variable {holders}

/-- The registrations of holders that a pass does not refuse can be planned. -/
theorem result_plan (h : ∀ holder ∈ holders, refuses holder = false) :
    (Plan.plan configuration (usage holders consumers) (registered configuration holders)).result =
      .ok (planned configuration holders consumers) := by
  have hinput : checkInput (registered configuration holders) = .ok () := by
    refine Plan.checkInput_eq_ok_iff.mpr fun registration hmem => ?_
    obtain ⟨holder, hholder, rfl⟩ := List.mem_map.mp hmem
    obtain ⟨hmem, henabled⟩ := List.mem_filter.mp hholder
    exact Registration.inputProblem?_ofHolder _ (accepted_of_not_refuses (h holder hmem) henabled)
  rw [Plan.plan, Attempt.result_bind, Attempt.result_ofExcept, hinput, ok_bind,
    Attempt.result_ofLogged]
  rfl

/-- What can be planned is written. -/
theorem result_writeFile (package : String) (h : ∀ holder ∈ holders, refuses holder = false) :
    (Source.writeFile configuration (usage holders consumers) package
      (registered configuration holders)).result =
      .ok ((planned configuration holders consumers).fileLayout package) := by
  rw [Source.writeFile, Attempt.result_bind, Attempt.result_mapError,
    result_plan configuration consumers h]
  change (Attempt.mapError _ (Source.fileText package (planned _ _ _))).result = _
  rw [Attempt.result_mapError, Source.result_fileText]
  rfl

end Accepted

/-- A pass refuses the first holder it has to; otherwise it comes to its outcome. -/
theorem result_run :
    (run configuration holders consumers).result =
      match holders.find? refuses with
      | some holder => .error (.rejected holder.className holder.faults)
      | none => .ok (outcome configuration holders consumers) := by
  have hexamined := mapM_eq_of_refusing (result_examine configuration) holders
  rw [run, Attempt.result_bind, Attempt.result_mapM, hexamined]
  cases hrefused : holders.find? refuses with
  | some holder => rfl
  | none =>
    have haccepted : ∀ holder ∈ holders, refuses holder = false := by
      simpa using List.find?_eq_none.mp hrefused
    rw [ok_bind, outcome]
    cases holders.find? (·.enabled) with
    | none => rfl
    | some first =>
      have hwritten := result_writeFile configuration consumers
        (configuration.packageFor first) haccepted
      rw [usage] at hwritten
      rw [Attempt.result_bind, generate, filter_map_ofHolder]
      simp only [Attempt.result_bind, Attempt.result_ofLogged, Attempt.result_record, ok_bind,
        Attempt.result_mapError, Attempt.result_pure, hwritten]
      rfl

/-- Whether a holder is the first enabled one in which a check finds faults. -/
def IsFirstRejected (conventions : Conventions) (holders : List Holder) (holder : Holder) : Prop :=
  ∃ before after, holders = before ++ holder :: after ∧ holder.enabled ∧
    (holder.check conventions).value.faults ≠ [] ∧
    ∀ other ∈ before, other.enabled → (other.check conventions).value.faults = []

theorem refuses_iff (conventions : Conventions) (holder : Holder) :
    refuses holder ↔ holder.enabled ∧ (holder.check conventions).value.faults ≠ [] := by
  rw [refuses, Bool.and_eq_true, Bool.not_eq_true', List.isEmpty_eq_false_iff]
  rfl

theorem not_refuses_iff (conventions : Conventions) (holder : Holder) :
    refuses holder = false ↔ (holder.enabled → (holder.check conventions).value.faults = []) := by
  rw [← Bool.not_eq_true, refuses_iff conventions, not_and, not_not]

theorem find?_refuses_eq_some_iff (conventions : Conventions) {holder : Holder} :
    holders.find? refuses = some holder ↔ IsFirstRejected conventions holders holder := by
  rw [List.find?_eq_some_iff_append, refuses_iff conventions]
  simp only [Bool.not_eq_true', not_refuses_iff conventions]
  constructor
  · rintro ⟨⟨henabled, hfaults⟩, before, after, hsplit, hbefore⟩
    exact ⟨before, after, hsplit, henabled, hfaults, hbefore⟩
  · rintro ⟨before, after, hsplit, henabled, hfaults, hbefore⟩
    exact ⟨⟨henabled, hfaults⟩, before, after, hsplit, hbefore⟩

theorem find?_refuses_eq_none_iff (conventions : Conventions) :
    holders.find? refuses = none ↔
      ∀ holder ∈ holders, holder.enabled → (holder.check conventions).value.faults = [] := by
  rw [List.find?_eq_none]
  simp only [Bool.not_eq_true, not_refuses_iff conventions]

/-- A pass fails exactly if an enabled holder has faults, and then with all faults of the first
such holder. Nothing fails after the checks, whatever the names in the configuration, in the
consumers and in the holders that are not enabled are. -/
theorem run_fails_iff :
    (∀ problem, (run configuration holders consumers).result = .error problem ↔
      ∃ holder, IsFirstRejected configuration.conventions holders holder ∧
        problem = .rejected holder.className
          (holder.check configuration.conventions).value.faults) ∧
    ((∃ problem, (run configuration holders consumers).result = .error problem) ↔
      ∃ holder ∈ holders, holder.enabled ∧
        (holder.check configuration.conventions).value.faults ≠ []) ∧
    ((∃ outcome, (run configuration holders consumers).result = .ok outcome) ↔
      ∀ holder ∈ holders, holder.enabled →
        (holder.check configuration.conventions).value.faults = []) ∧
    ∀ refusal, (run configuration holders consumers).result ≠ .error (.generation refusal) := by
  rw [result_run]
  have hnone := find?_refuses_eq_none_iff holders configuration.conventions
  cases hrefused : holders.find? refuses with
  | none =>
    have haccepted := hnone.mp hrefused
    refine ⟨fun problem => iff_of_false nofun ?_, iff_of_false nofun ?_,
      iff_of_true ⟨_, rfl⟩ haccepted, fun refusal => nofun⟩
    · rintro ⟨holder, hfirst, -⟩
      rw [(find?_refuses_eq_some_iff holders configuration.conventions).mpr hfirst] at hrefused
      cases hrefused
    · rintro ⟨holder, hmem, henabled, hfaults⟩
      exact hfaults (haccepted holder hmem henabled)
  | some rejected =>
    have hfirst := (find?_refuses_eq_some_iff holders configuration.conventions).mp hrefused
    have hmem := List.mem_of_find?_eq_some hrefused
    have hrejected := (refuses_iff configuration.conventions rejected).mp
      (List.find?_some hrefused)
    refine ⟨fun problem => ⟨fun h => ?_, ?_⟩, iff_of_true ⟨_, rfl⟩ ⟨rejected, hmem, hrejected⟩,
      iff_of_false nofun fun haccepted => ?_, fun refusal => nofun⟩
    · exact ⟨rejected, hfirst, (Except.error.inj h).symm⟩
    · rintro ⟨holder, hother, rfl⟩
      have hsame := (find?_refuses_eq_some_iff holders configuration.conventions).mpr hother
      rw [hrefused] at hsame
      rw [Option.some.inj hsame]
      rfl
    · exact hrejected.2 (haccepted rejected hmem hrejected.1)

end Pass

end HolderInjection
