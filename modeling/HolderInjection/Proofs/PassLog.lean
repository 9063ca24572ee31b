import HolderInjection.Proofs.PassResult

/-!
# What a pass tells

The log of a pass begins with an account of every holder that is checked: of all holders, or, if
the pass fails, of those up to the one it fails with. Nothing follows in a failed pass, and what
follows in any other is about the generated file.
-/

namespace HolderInjection

namespace Attempt

/-- Telling about the members of a list tells about each of them, in order. -/
theorem log_forM_record {α ε : Type} (event : α → Event) (items : List α) :
    (items.forM fun item => (record (event item) : Attempt ε Unit)).log = items.map event := by
  induction items with
  | nil => rfl
  | cons item items ih =>
    change (record (event item) >>= fun _ => items.forM _ : Attempt ε Unit).log = _
    rw [log_bind_of_ok (result_record _), ih, log_record, List.map_cons, List.singleton_append]

end Attempt

/-- Only a pass itself warns. -/
theorem Event.level_ne_warning {event : Event} (h : event.stage ≠ .passing) :
    event.level ≠ .warning := by
  cases event with
  | warned => exact absurd rfl h
  | _ => nofun

theorem Usage.stage_of_mem_log {holders : List Holder} {consumers : List Consumer} {event : Event}
    (h : event ∈ (ofHolders holders consumers).log) : event.stage = .usage := by
  simp only [ofHolders, entry, Logged.log_bind, Logged.log_mapM, Logged.log_forM, Logged.log_record,
    Logged.log_pure, List.append_nil, List.mem_flatMap, List.mem_singleton] at h
  obtain ⟨name, -, exposure, -, rfl⟩ := h
  rfl

namespace Plan

theorem stage_of_event? {parameter : String} {resolution : Resolution} {event : Event}
    (h : resolution.event? parameter = some event) : event.stage = .planning := by
  cases resolution with
  | missing | untyped => cases h; rfl
  | _ => cases h

variable {configuration : Configuration} {usage : Usage} {event : Event}

theorem Construction.stage_of_mem_log {scopeType : String} {registration : Registration}
    {table : Option FieldTable} (h : event ∈ (ofRegistration scopeType registration table).log) :
    event.stage = .planning := by
  simp only [ofRegistration, Argument.ofParameter, Logged.log_bind, Logged.log_mapM,
    Logged.log_pure, List.append_nil, List.mem_flatMap, Option.mem_toList] at h
  obtain ⟨parameter, -, hevent⟩ := h
  exact stage_of_event? hevent

theorem Factory.stage_of_mem_log {registration : Registration}
    (h : event ∈ (ofRegistration configuration usage registration).log) :
    event.stage = .planning := by
  simp only [ofRegistration] at h
  split at h
  · simp only [Branch.ofExposure, Logged.log_bind, Logged.log_mapM, Logged.log_pure,
      List.append_nil, List.mem_flatMap] at h
    obtain ⟨exposure, -, hevent⟩ := h
    exact Construction.stage_of_mem_log hevent
  · rw [Logged.log_bind, Logged.log_pure, List.append_nil] at h
    exact Construction.stage_of_mem_log h

theorem stage_of_mem_log {registrations : List Registration}
    (h : event ∈ (plan configuration usage registrations).log) : event.stage = .planning := by
  obtain hinput | ⟨_, -, hmodule⟩ := Attempt.mem_log_bind h
  · cases hinput
  · simp only [Module.ofRegistrations, Attempt.log_ofLogged, Logged.log_bind, Logged.log_mapM,
      Logged.log_pure, List.append_nil, List.mem_flatMap] at hmodule
    obtain ⟨registration, -, hevent⟩ := hmodule
    exact Factory.stage_of_mem_log hevent

end Plan

namespace Source

variable {event : Event}

theorem stage_of_mem_log_moduleText {typing : Typing} {module : Plan.Module}
    (h : event ∈ (moduleText typing module).log) : event.stage = .writing := by
  rw [moduleText] at h
  obtain hfactories | ⟨_, -, hwriting⟩ := Attempt.mem_log_bind h
  · cases hfactories
  obtain hwritten | ⟨_, -, hfilled⟩ := Attempt.mem_log_bind hwriting
  · rw [List.mem_singleton.mp hwritten]
    rfl
  · cases hfilled

theorem stage_of_mem_log_fileText {package : String} {module : Plan.Module}
    (h : event ∈ (fileText package module).log) : event.stage = .writing := by
  rw [fileText] at h
  obtain hmodule | ⟨_, -, hfilling⟩ := Attempt.mem_log_bind h
  · exact stage_of_mem_log_moduleText hmodule
  obtain hfilled | ⟨_, -, hpure⟩ := Attempt.mem_log_bind hfilling
  · cases hfilled
  · cases hpure

theorem stage_of_mem_log_writeFile {configuration : Configuration} {usage : Usage}
    {package : String} {registrations : List Registration}
    (h : event ∈ (writeFile configuration usage package registrations).log) :
    event.stage = .planning ∨ event.stage = .writing := by
  obtain hplan | ⟨module, -, hfile⟩ := Attempt.mem_log_bind h
  · exact .inl (Plan.stage_of_mem_log hplan)
  · exact .inr (stage_of_mem_log_fileText hfile)

end Source

namespace Pass

variable (configuration : Configuration) (holders : List Holder) (consumers : List Consumer)

/-- The warnings of a check, as a pass tells them. -/
def warned (conventions : Conventions) (holder : Holder) : List Event :=
  (holder.check conventions).value.warnings.map fun warning =>
    .warned holder.qualifiedName warning.message

/-- What a pass tells about a holder: what the check came to, its warnings, and the number of
faults if they are ignored. -/
def account (conventions : Conventions) (holder : Holder) : List Event :=
  let report := (holder.check conventions).value
  .checked holder.qualifiedName report.faults.length report.warnings.length ::
    (warned conventions holder ++
      if !holder.enabled && !report.isAccepted then
        [.ignored report.faults.length holder.qualifiedName]
      else [])

/-- An account is a summary, the warnings and at most one notice. -/
theorem map_level_account (conventions : Conventions) (holder : Holder) :
    (account conventions holder).map (fun event => (event.stage, event.level)) =
      (.checking, .debug) ::
        (List.replicate (holder.check conventions).value.warnings.length (.passing, .warning) ++
          if !holder.enabled && !(holder.check conventions).value.isAccepted then
            [(.passing, .info)]
          else []) := by
  have hwarned : (warned conventions holder).map (fun event => (event.stage, event.level)) =
      List.replicate (holder.check conventions).value.warnings.length (.passing, .warning) := by
    rw [warned, List.map_map]
    change List.map (fun _ => (Stage.passing, Level.warning)) _ = _
    exact List.map_const'
  rw [account, List.map_cons, List.map_append, hwarned, apply_ite (List.map _)]
  rfl

theorem filter_account (conventions : Conventions) (holder : Holder) :
    (account conventions holder).filter (·.level = .warning) = warned conventions holder := by
  have hwarned : (warned conventions holder).filter (·.level = .warning) =
      warned conventions holder := by
    rw [warned, List.filter_map]
    exact congrArg (List.map _) (List.filter_eq_self.mpr fun _ _ => rfl)
  rw [account, List.filter_cons_of_neg Bool.false_ne_true, List.filter_append, hwarned,
    apply_ite (List.filter _)]
  exact (congrArg (_ ++ ·) (ite_self _)).trans (List.append_nil _)

theorem log_examine (holder : Holder) :
    (examine configuration holder).log = account configuration.conventions holder := by
  have hcheck : (holder.check configuration.conventions).log =
      [.checked holder.qualifiedName holder.faults.length
        (holder.warnings configuration.conventions).length] := rfl
  have hvalue : (holder.check configuration.conventions).value =
      holder.report configuration.conventions := rfl
  unfold examine account warned
  rw [Attempt.log_bind_of_ok (Attempt.result_ofLogged _),
    Attempt.log_bind_of_ok (Attempt.result_forM_record _ _), Attempt.log_forM_record,
    Attempt.log_ofLogged, hcheck, hvalue]
  refine congrArg (List.cons _) (congrArg (_ ++ ·) ?_)
  cases (holder.report configuration.conventions).isAccepted with
  | true => rw [Bool.not_true, Bool.and_false]; rfl
  | false => cases holder.enabled <;> rfl

/-- The holders that a pass checks: all of them, or, if it refuses one, those up to the first that
it refuses. -/
def examined : List Holder → List Holder
  | [] => []
  | holder :: holders => if refuses holder then [holder] else holder :: examined holders

theorem examined_eq_self {holders : List Holder} (h : holders.find? refuses = none) :
    examined holders = holders := by
  induction holders with
  | nil => rfl
  | cons holder holders ih =>
    obtain ⟨hholder, hrest⟩ := List.forall_mem_cons.mp (List.find?_eq_none.mp h)
    rw [examined, if_neg hholder, ih (List.find?_eq_none.mpr hrest)]

theorem examined_append {before : List Holder} {holder : Holder}
    (hbefore : ∀ other ∈ before, refuses other = false) (h : refuses holder = true)
    (after : List Holder) : examined (before ++ holder :: after) = before ++ [holder] := by
  induction before with
  | nil => exact if_pos h
  | cons other before ih =>
    obtain ⟨hother, hrest⟩ := List.forall_mem_cons.mp hbefore
    rw [List.cons_append, examined, if_neg (Bool.not_eq_true _ ▸ hother), ih hrest, List.cons_append]

theorem log_mapM_examine :
    (holders.mapM (examine configuration)).log =
      (examined holders).flatMap (account configuration.conventions) := by
  induction holders with
  | nil => rfl
  | cons holder holders ih =>
    have hresult := result_examine configuration holder
    rw [List.mapM_cons, examined]
    by_cases hrefuses : refuses holder = true
    · rw [if_pos hrefuses] at hresult
      rw [if_pos hrefuses, Attempt.log_bind_of_error hresult, log_examine, List.flatMap_singleton]
    · rw [if_neg hrefuses] at hresult
      rw [if_neg hrefuses, Attempt.log_bind_of_ok hresult, Attempt.log_bind_pure, log_examine,
        List.flatMap_cons, ih]

/-- Whether an event may follow the accounts: it is of no check and is no warning. -/
def IsLater (event : Event) : Prop :=
  event.stage ≠ .checking ∧ event.level ≠ .warning

theorem isLater_of_stage {event : Event} {stage : Stage} (h : event.stage = stage)
    (hchecking : stage ≠ .checking) (hpassing : stage ≠ .passing) : IsLater event :=
  ⟨h ▸ hchecking, Event.level_ne_warning (h ▸ hpassing)⟩

theorem isLater_of_info {event : Event} (hstage : event.stage = .passing)
    (hlevel : event.level = .info) : IsLater event :=
  ⟨by rw [hstage]; decide, by rw [hlevel]; decide⟩

theorem isLater_of_mem_log_generate {registrations : List Registration} {first : Holder}
    {event : Event}
    (h : event ∈ (generate configuration holders consumers registrations first).log) :
    IsLater event := by
  rw [generate] at h
  obtain husage | ⟨usage, -, hgenerating⟩ := Attempt.mem_log_bind h
  · rw [Attempt.log_ofLogged] at husage
    exact isLater_of_stage (Usage.stage_of_mem_log husage) (by decide) (by decide)
  obtain hrecord | ⟨_, -, hwriting⟩ := Attempt.mem_log_bind hgenerating
  · rw [List.mem_singleton.mp hrecord]
    exact isLater_of_info rfl rfl
  rw [Attempt.log_bind_pure, Attempt.log_mapError] at hwriting
  obtain hplanning | hwritten := Source.stage_of_mem_log_writeFile hwriting
  · exact isLater_of_stage hplanning (by decide) (by decide)
  · exact isLater_of_stage hwritten (by decide) (by decide)

/-- The accounts come first in the log of a pass, and nothing comes after a refusal. -/
theorem log_run :
    ∃ later, (run configuration holders consumers).log =
        (examined holders).flatMap (account configuration.conventions) ++ later ∧
      (∀ event ∈ later, IsLater event) ∧
      ((holders.find? refuses).isSome → later = []) := by
  have hexamined := mapM_eq_of_refusing (result_examine configuration) holders
  rw [← Attempt.result_mapM] at hexamined
  rw [run]
  cases hrefused : holders.find? refuses with
  | some holder =>
    rw [hrefused] at hexamined
    refine ⟨[], ?_, List.forall_mem_nil _, fun _ => rfl⟩
    rw [Attempt.log_bind_of_error hexamined, log_mapM_examine, List.append_nil]
  | none =>
    rw [hrefused] at hexamined
    rw [Attempt.log_bind_of_ok hexamined, log_mapM_examine]
    refine ⟨_, rfl, fun event hevent => ?_, fun hsome => absurd hsome Bool.false_ne_true⟩
    cases hfirst : holders.find? (·.enabled) with
    | none =>
      rw [hfirst] at hevent
      rw [List.mem_singleton.mp hevent]
      exact isLater_of_info rfl rfl
    | some first =>
      simp only [hfirst, Attempt.log_bind_pure] at hevent
      exact isLater_of_mem_log_generate _ _ _ hevent

/-- Every warning is told once and in order, whether or not the pass comes to its end: the log
begins with an account of each holder that is checked, no other event is a warning, and in a failed
pass no other event follows. -/
theorem warnings_told_once :
    (∀ holder, (account configuration.conventions holder).map
        (fun event => (event.stage, event.level)) =
      (.checking, .debug) ::
        (List.replicate (holder.check configuration.conventions).value.warnings.length
            (.passing, .warning) ++
          if !holder.enabled && !(holder.check configuration.conventions).value.isAccepted then
            [(.passing, .info)]
          else [])) ∧
    ∃ checked later,
      (run configuration holders consumers).log =
        checked.flatMap (account configuration.conventions) ++ later ∧
      (run configuration holders consumers).log.filter (·.level = .warning) =
        checked.flatMap (warned configuration.conventions) ∧
      (∀ event ∈ later, event.stage ≠ .checking ∧ event.level ≠ .warning) ∧
      match (run configuration holders consumers).result with
      | .ok outcome =>
        checked = holders ∧
        outcome.reports = holders.map fun holder => (holder.check configuration.conventions).value
      | .error problem =>
        later = [] ∧ ∃ before holder after,
          holders = before ++ holder :: after ∧ checked = before ++ [holder] ∧ holder.enabled ∧
          (holder.check configuration.conventions).value.faults ≠ [] ∧
          (∀ other ∈ before, other.enabled →
            (other.check configuration.conventions).value.faults = []) ∧
          problem = .rejected holder.className
            (holder.check configuration.conventions).value.faults := by
  refine ⟨map_level_account _, ?_⟩
  obtain ⟨later, hlog, hlater, hfailed⟩ := log_run configuration holders consumers
  have hquiet : later.filter (·.level = .warning) = [] :=
    List.filter_eq_nil_iff.mpr fun event hevent => by simpa using (hlater event hevent).2
  refine ⟨examined holders, later, hlog, ?_, hlater, ?_⟩
  · rw [hlog, List.filter_append, hquiet, List.append_nil, List.filter_flatMap]
    simp only [filter_account]
  · rw [result_run]
    cases hrefused : holders.find? refuses with
    | none => exact ⟨examined_eq_self hrefused, rfl⟩
    | some holder =>
      refine ⟨hfailed (hrefused ▸ rfl), ?_⟩
      obtain ⟨before, after, hsplit, henabled, hfaults, hbefore⟩ :=
        (find?_refuses_eq_some_iff holders configuration.conventions).mp hrefused
      have haccepted : ∀ other ∈ before, refuses other = false := fun other hmem =>
        (not_refuses_iff configuration.conventions other).mpr (hbefore other hmem)
      have hexamined := examined_append haccepted (List.find?_some hrefused) after
      rw [← hsplit] at hexamined
      exact ⟨before, holder, after, hsplit, hexamined, henabled, hfaults, hbefore, rfl⟩

end Pass

end HolderInjection
