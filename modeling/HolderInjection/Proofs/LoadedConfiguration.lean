import Mathlib.Algebra.Ring.Int.Defs
import HolderInjection.Configuration.Sources
import HolderInjection.Proofs.TextParts

/-!
# Loaded configurations

Every setting has a rule, which accepts a value or refuses it. A configuration is loaded if no rule
refuses the value that counts for its setting, and then has what the rules have accepted. Otherwise
all refusals are reported together, in the order of the names.
-/

namespace HolderInjection.Configuration

/-- The value of a setting in a configuration. -/
def value (configuration : Configuration) : Setting → Raw
  | .moduleSuffix => .text configuration.moduleSuffix
  | .projectName => .text configuration.projectName
  | .conventionalEnding => .text configuration.conventionalEnding
  | .nameLimit => .number configuration.nameLimit 0
  | .consumerBase => .text configuration.consumerBase
  | .scopeType => .text configuration.scopeType
  | .outputPackage => .text configuration.outputPackage

theorem eq_of_value_eq {configuration other : Configuration}
    (h : ∀ setting, configuration.value setting = other.value setting) : configuration = other := by
  have hsuffix := h .moduleSuffix
  have hproject := h .projectName
  have hending := h .conventionalEnding
  have hlimit := h .nameLimit
  have hbase := h .consumerBase
  have hscope := h .scopeType
  have hpackage := h .outputPackage
  cases configuration
  cases other
  simp only [value, Raw.text.injEq, Raw.number.injEq, and_true] at *
  simp only [mk.injEq]
  exact ⟨hsuffix, hproject, hending, hlimit, hbase, hscope, hpackage⟩

/-- A number counts if it is an integer. -/
theorem Raw.toInteger_number_eq_ok_iff (mantissa value : Int) (places : Nat) :
    (number mantissa places).toInteger = .ok value ↔ mantissa = value * 10 ^ places := by
  have hunit : Int.ofNat (Nat.pow 10 places) = 10 ^ places := Int.natCast_pow 10 places
  have hne : (10 : Int) ^ places ≠ 0 := Int.pow_ne_zero (by decide)
  unfold toInteger
  dsimp only
  rw [hunit]
  split
  · rename_i hwhole
    rw [Except.ok.injEq, Int.ediv_eq_iff_eq_mul_left hne (Int.dvd_of_emod_eq_zero hwhole)]
  · rename_i hwhole
    refine iff_of_false (by simp) ?_
    rintro rfl
    exact hwhole (Int.mul_emod_left value _)

namespace Setting

theorem mem_all (setting : Setting) : setting ∈ all := by
  cases setting <;> decide

theorem contains_name (setting : Setting) : (all.map name).contains setting.name :=
  List.contains_iff_mem.mpr (List.mem_map_of_mem setting.mem_all)

theorem nodup_all : all.Nodup := by
  decide

theorem name_injective {setting other : Setting} (h : setting.name = other.name) :
    setting = other := by
  cases setting <;> cases other <;> first | rfl | exact absurd h (by decide)

theorem variableName_injective {setting other : Setting}
    (h : setting.variableName = other.variableName) : setting = other :=
  name_injective ((String.append_right_inj _).mp h)

/-- What a setting is if no value is given for it. -/
def default : Setting → Raw
  | .moduleSuffix | .projectName | .outputPackage => .text ""
  | .conventionalEnding => .text "StateHolder"
  | .nameLimit => .number 40 0
  | .consumerBase => .text "androidx.lifecycle.ViewModel"
  | .scopeType => .text "kotlinx.coroutines.CoroutineScope"

/-- The rule of a setting: what it becomes when a value is given, or why that is refused. -/
def accept : Setting → Raw → Except Cause Raw
  | .conventionalEnding, raw => do
    let content ← raw.toText
    if content = "" then .error .emptyText else .ok (.text content)
  | .nameLimit, raw => do
    let limit ← raw.toInteger
    if 0 < limit then .ok (.number limit 0) else .error .notPositive
  | _, raw => Raw.text <$> raw.toText

theorem accept_conventionalEnding (raw : Raw) :
    accept .conventionalEnding raw =
      (fun ending => Raw.text ending.1) <$> (raw.toText >>= nonempty) := by
  change (raw.toText >>= fun content =>
    if content = "" then .error Cause.emptyText else .ok (Raw.text content)) = _
  cases raw.toText with
  | error cause => rfl
  | ok content =>
    change (if content = "" then .error Cause.emptyText else .ok (Raw.text content)) =
      (fun ending => Raw.text ending.1) <$> nonempty content
    by_cases hempty : content = ""
    · rw [hempty]
      rfl
    · rw [if_neg hempty, nonempty, dif_pos hempty]
      rfl

theorem accept_nameLimit (raw : Raw) :
    accept .nameLimit raw =
      (fun limit => Raw.number limit.1 0) <$> (raw.toInteger >>= positive) := by
  change (raw.toInteger >>= fun limit =>
    if 0 < limit then .ok (Raw.number limit 0) else .error Cause.notPositive) = _
  cases raw.toInteger with
  | error cause => rfl
  | ok limit =>
    change (if 0 < limit then .ok (Raw.number limit 0) else .error Cause.notPositive) =
      (fun limit => Raw.number limit.1 0) <$> positive limit
    by_cases hpositive : 0 < limit
    · rw [if_pos hpositive, positive, dif_pos hpositive]
      rfl
    · rw [if_neg hpositive, positive, dif_neg hpositive]
      rfl

theorem accept_of_toInteger {raw : Raw} {limit : Int} (h : raw.toInteger = .ok limit)
    (hpositive : 0 < limit) : accept .nameLimit raw = .ok (.number limit 0) := by
  rw [accept, h]
  exact if_pos hpositive

/-- The values of a configuration pass the rules. -/
theorem accept_value (configuration : Configuration) (setting : Setting) :
    setting.accept (configuration.value setting) = .ok (configuration.value setting) := by
  cases setting with
  | conventionalEnding => exact if_neg configuration.conventionalEnding_ne
  | nameLimit =>
    have hwhole : (Raw.number configuration.nameLimit 0).toInteger =
        .ok configuration.nameLimit := by
      have hvalue : configuration.nameLimit / 1 = configuration.nameLimit := Int.ediv_one _
      exact (if_pos (Int.emod_one _)).trans (congrArg Except.ok hvalue)
    exact accept_of_toInteger hwhole configuration.nameLimit_pos
  | _ => rfl

/-- The defaults pass the rules. -/
theorem accept_default (setting : Setting) :
    setting.accept setting.default = .ok setting.default := by
  cases setting <;> exact accept_value {} _

end Setting

namespace Sources

variable (sources : Sources)

/-- What becomes of a setting: its value in the configuration, or its problem. -/
def settled (setting : Setting) : Except Problem Raw :=
  sources.read setting setting.default setting.accept

/-- All problems, one setting after the other. -/
def found : List Problem :=
  Setting.all.flatMap (fun setting => problems (sources.settled setting)) ++ sources.unknown

theorem read_map {α β : Type} (f : α → β) (setting : Setting) (absent : α)
    (convert : Raw → Except Cause α) :
    sources.read setting (f absent) (fun raw => f <$> convert raw) =
      f <$> sources.read setting absent convert := by
  unfold read
  cases sources.value? setting with
  | none => rfl
  | some raw => cases hraw : convert raw <;> simp only [hraw] <;> rfl

theorem problems_map {α β : Type} (f : α → β) (outcome : Except Problem α) :
    problems (f <$> outcome) = problems outcome := by
  cases outcome <;> rfl

theorem settled_eq (setting : Setting) :
    sources.settled setting = match setting with
      | .moduleSuffix =>
        Raw.text <$> sources.read .moduleSuffix ({} : Configuration).moduleSuffix Raw.toText
      | .projectName =>
        Raw.text <$> sources.read .projectName ({} : Configuration).projectName Raw.toText
      | .conventionalEnding =>
        (fun ending => Raw.text ending.1) <$> sources.read .conventionalEnding
          ⟨({} : Configuration).conventionalEnding, conventionalEnding_ne _⟩
          (·.toText >>= nonempty)
      | .nameLimit =>
        (fun limit => Raw.number limit.1 0) <$> sources.read .nameLimit
          ⟨({} : Configuration).nameLimit, nameLimit_pos _⟩ (·.toInteger >>= positive)
      | .consumerBase =>
        Raw.text <$> sources.read .consumerBase ({} : Configuration).consumerBase Raw.toText
      | .scopeType =>
        Raw.text <$> sources.read .scopeType ({} : Configuration).scopeType Raw.toText
      | .outputPackage =>
        Raw.text <$> sources.read .outputPackage ({} : Configuration).outputPackage Raw.toText := by
  cases setting with
  | conventionalEnding =>
    refine Eq.trans ?_ (sources.read_map _ _ _ _)
    rw [← funext Setting.accept_conventionalEnding]
    rfl
  | nameLimit =>
    refine Eq.trans ?_ (sources.read_map _ _ _ _)
    rw [← funext Setting.accept_nameLimit]
    rfl
  | _ => exact sources.read_map Raw.text _ _ Raw.toText

/-- The configuration is loaded if there is no problem, and has what its settings have become. -/
theorem exists_load_eq_ok (h : sources.found = []) :
    ∃ configuration, sources.load = .ok configuration ∧
      ∀ setting, sources.settled setting = .ok (configuration.value setting) := by
  obtain ⟨hsettings, hunknown⟩ := List.append_eq_nil_iff.mp h
  have hread {α : Type} {f : α → Raw} {outcome : Except Problem α} (setting : Setting)
      (hsettled : sources.settled setting = f <$> outcome) : ∃ value, outcome = .ok value := by
    have hnone := List.flatMap_eq_nil_iff.mp hsettings setting setting.mem_all
    cases outcome with
    | ok value => exact ⟨value, rfl⟩
    | error problem =>
      rw [hsettled] at hnone
      cases hnone
  obtain ⟨suffix, hsuffix⟩ := hread .moduleSuffix (sources.settled_eq _)
  obtain ⟨project, hproject⟩ := hread .projectName (sources.settled_eq _)
  obtain ⟨ending, hending⟩ := hread .conventionalEnding (sources.settled_eq _)
  obtain ⟨limit, hlimit⟩ := hread .nameLimit (sources.settled_eq _)
  obtain ⟨base, hbase⟩ := hread .consumerBase (sources.settled_eq _)
  obtain ⟨scope, hscope⟩ := hread .scopeType (sources.settled_eq _)
  obtain ⟨package, hpackage⟩ := hread .outputPackage (sources.settled_eq _)
  refine ⟨⟨suffix, project, ending.1, limit.1, base, scope, package, ending.2, limit.2⟩, ?_, ?_⟩
  · unfold load
    simp only [hsuffix, hproject, hending, hlimit, hbase, hscope, hpackage, hunknown]
  · intro setting
    rw [settled_eq]
    cases setting
    all_goals
      simp only [hsuffix, hproject, hending, hlimit, hbase, hscope, hpackage]
      rfl

theorem load_eq_error (h : sources.found ≠ []) :
    sources.load = .error (sources.found.mergeSort fun a b => decide (a.setting ≤ b.setting)) := by
  have hfound : sources.found =
      problems (sources.settled .moduleSuffix) ++ problems (sources.settled .projectName) ++
      problems (sources.settled .conventionalEnding) ++ problems (sources.settled .nameLimit) ++
      problems (sources.settled .consumerBase) ++ problems (sources.settled .scopeType) ++
      problems (sources.settled .outputPackage) ++ sources.unknown := by
    unfold found Setting.all
    simp only [List.flatMap_cons, List.flatMap_nil, List.append_nil, List.append_assoc]
  simp only [settled_eq, problems_map] at hfound
  rw [hfound] at h ⊢
  unfold load
  dsimp only
  -- if all of it could be read, there would be no problem
  split
  · rename_i hsuffix hproject hending hlimit hbase hscope hpackage hunknown
    simp [hsuffix, hproject, hending, hlimit, hbase, hscope, hpackage, hunknown, problems] at h
  · rfl

/-- A configuration is loaded just if every explicit value is for a setting and the rules accept the
values that count, and it has the values they are accepted as. -/
theorem load_eq_ok_iff (configuration : Configuration) :
    sources.load = .ok configuration ↔ sources.unknown = [] ∧
      ∀ setting, sources.settled setting = .ok (configuration.value setting) := by
  constructor
  · intro hload
    have hfound : sources.found = [] := by
      refine Decidable.byContradiction fun hne => ?_
      rw [sources.load_eq_error hne] at hload
      cases hload
    obtain ⟨loaded, hok, hsettled⟩ := sources.exists_load_eq_ok hfound
    rw [hok] at hload
    cases hload
    exact ⟨(List.append_eq_nil_iff.mp hfound).2, hsettled⟩
  · rintro ⟨hunknown, hsettled⟩
    have hfound : sources.found = [] := by
      refine List.append_eq_nil_iff.mpr ⟨List.flatMap_eq_nil_iff.mpr fun setting _ => ?_, hunknown⟩
      rw [hsettled setting]
      rfl
    obtain ⟨loaded, hok, hloaded⟩ := sources.exists_load_eq_ok hfound
    have hvalue (setting : Setting) : loaded.value setting = configuration.value setting :=
      Except.ok.inj ((hloaded setting).symm.trans (hsettled setting))
    rw [hok, eq_of_value_eq hvalue]

theorem mem_problems_iff {α : Type} {outcome : Except Problem α} {problem : Problem} :
    problem ∈ problems outcome ↔ outcome = .error problem := by
  cases outcome with
  | ok value => exact iff_of_false List.not_mem_nil (by simp)
  | error other =>
    rw [problems, List.mem_singleton, Except.error.injEq]
    exact eq_comm

theorem mem_found_iff {problem : Problem} :
    problem ∈ sources.found ↔
      (∃ setting, sources.settled setting = .error problem) ∨ problem ∈ sources.unknown := by
  unfold found
  rw [List.mem_append, List.mem_flatMap]
  refine or_congr_left ⟨?_, ?_⟩
  · rintro ⟨setting, -, hmem⟩
    exact ⟨setting, mem_problems_iff.mp hmem⟩
  · rintro ⟨setting, hsettled⟩
    exact ⟨setting, setting.mem_all, mem_problems_iff.mpr hsettled⟩

theorem setting_of_settled {setting : Setting} {problem : Problem}
    (h : sources.settled setting = .error problem) : problem.setting = setting.name := by
  unfold settled read at h
  cases hvalue : sources.value? setting with
  | none =>
    rw [hvalue] at h
    cases h
  | some raw =>
    rw [hvalue] at h
    cases haccept : setting.accept raw with
    | ok value =>
      simp only [haccept] at h
      cases h
    | error cause =>
      simp only [haccept] at h
      cases h
      rfl

theorem setting_of_mem_unknown {problem : Problem} (h : problem ∈ sources.unknown) :
    problem.cause = .unknown ∧ ∀ setting : Setting, problem.setting ≠ setting.name := by
  obtain ⟨entry, hentry, rfl⟩ := List.mem_map.mp h
  have hname := (List.mem_filter.mp hentry).2
  refine ⟨rfl, fun setting hsetting => ?_⟩
  rw [Bool.not_eq_true', List.contains_eq_mem, decide_eq_false_iff_not] at hname
  exact hname (List.mem_map.mpr ⟨setting, setting.mem_all, hsetting.symm⟩)

theorem eq_of_mem_found {problem other : Problem} (h : problem ∈ sources.found)
    (hother : other ∈ sources.found) (hname : problem.setting = other.setting) :
    problem = other := by
  obtain ⟨setting, hsettled⟩ | hunknown := sources.mem_found_iff.mp h <;>
    obtain ⟨otherSetting, hotherSettled⟩ | hotherUnknown := sources.mem_found_iff.mp hother
  · have hsetting : setting = otherSetting := Setting.name_injective
      ((sources.setting_of_settled hsettled).symm.trans
        (hname.trans (sources.setting_of_settled hotherSettled)))
    subst hsetting
    exact Except.error.inj (hsettled.symm.trans hotherSettled)
  · exact absurd (hname.symm.trans (sources.setting_of_settled hsettled))
      ((sources.setting_of_mem_unknown hotherUnknown).2 setting)
  · exact absurd (hname.trans (sources.setting_of_settled hotherSettled))
      ((sources.setting_of_mem_unknown hunknown).2 otherSetting)
  · cases problem
    cases other
    have hcause := (sources.setting_of_mem_unknown hunknown).1
    have hotherCause := (sources.setting_of_mem_unknown hotherUnknown).1
    simp only at hname hcause hotherCause
    rw [hname, hcause, hotherCause]

/-- Otherwise all the problems there are make up the report, sorted by name. -/
theorem load_eq_error_iff (report : List Problem) :
    sources.load = .error report ↔ report ≠ [] ∧
      report.Pairwise (fun a b => a.setting ≤ b.setting) ∧ report.Perm sources.found := by
  have hsorted := Text.pairwise_mergeSort Problem.setting sources.found
  have hperm := List.mergeSort_perm sources.found fun a b => decide (a.setting ≤ b.setting)
  by_cases hfound : sources.found = []
  · obtain ⟨configuration, hok, -⟩ := sources.exists_load_eq_ok hfound
    rw [hok, hfound]
    refine iff_of_false (by simp) ?_
    rintro ⟨hne, -, hnone⟩
    exact hne hnone.eq_nil
  · rw [sources.load_eq_error hfound, Except.error.injEq]
    constructor
    · rintro rfl
      refine ⟨fun hnone => hfound ?_, hsorted, hperm⟩
      exact (hnone ▸ hperm).symm.eq_nil
    · rintro ⟨-, hreport, hsame⟩
      -- problems of one name are equal, so there is one order to put them in
      refine (hperm.trans hsame.symm).eq_of_pairwise ?_ hsorted hreport
      intro a b ha hb hab hba
      exact sources.eq_of_mem_found (hperm.mem_iff.mp ha) (hsame.mem_iff.mp hb)
        (String.le_antisymm hab hba)

end Sources

end HolderInjection.Configuration
