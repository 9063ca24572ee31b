import HolderInjection.Proofs.DecimalNumeral
import HolderInjection.Proofs.LoadedConfiguration

/-!
# Given settings

How one more value changes what is loaded: a refused value changes nothing about the other settings,
and an accepted one changes its own setting only. From its own values, every configuration is loaded
again, whether they are given explicitly or by the environment. Build options are explicit values.
-/

namespace HolderInjection.Configuration

namespace Sources

variable (sources : Sources)

def others (setting : Setting) : List Problem :=
  (Setting.all.erase setting).flatMap (fun other => problems (sources.settled other)) ++
    sources.unknown

theorem found_perm (setting : Setting) :
    sources.found.Perm (problems (sources.settled setting) ++ sources.others setting) := by
  have hall : Setting.all.Perm (setting :: Setting.all.erase setting) :=
    List.perm_cons_erase setting.mem_all
  have hsplit := hall.flatMap_right fun other => problems (sources.settled other)
  rw [List.flatMap_cons] at hsplit
  unfold found others
  rw [← List.append_assoc]
  exact hsplit.append_right _

theorem filter_found_perm (setting : Setting) :
    (sources.found.filter fun problem => problem.setting ≠ setting.name).Perm
      (sources.others setting) := by
  have hnone : (problems (sources.settled setting)).filter
      (fun problem => problem.setting ≠ setting.name) = [] := by
    refine List.filter_eq_nil_iff.mpr fun problem hmem => ?_
    simpa using sources.setting_of_settled (mem_problems_iff.mp hmem)
  have hkept : (sources.others setting).filter (fun problem => problem.setting ≠ setting.name) =
      sources.others setting := by
    refine List.filter_eq_self.mpr fun problem hmem => decide_eq_true ?_
    obtain hother | hunknown := List.mem_append.mp hmem
    · obtain ⟨other, herase, hproblem⟩ := List.mem_flatMap.mp hother
      rw [sources.setting_of_settled (mem_problems_iff.mp hproblem)]
      exact fun hname => (Setting.nodup_all.mem_erase_iff.mp herase).1
        (Setting.name_injective hname)
    · exact (sources.setting_of_mem_unknown hunknown).2 setting
  have hperm := (sources.found_perm setting).filter fun problem => problem.setting ≠ setting.name
  rwa [List.filter_append, hnone, hkept, List.nil_append] at hperm

/-- The sources with one more explicit value, which goes before the one that is there. -/
def give (setting : Setting) (raw : Raw) : Sources :=
  { sources with explicit := (setting.name, raw) :: sources.explicit }

variable {setting : Setting} {raw : Raw}

theorem settled_give :
    (sources.give setting raw).settled setting =
      (setting.accept raw).mapError (⟨setting.name, ·⟩) := by
  have hvalue : (sources.give setting raw).value? setting = some raw := by
    simp [give, value?]
  rw [settled, read, hvalue]

theorem settled_give_of_ne {other : Setting} (h : other ≠ setting) :
    (sources.give setting raw).settled other = sources.settled other := by
  have hname : (other.name == setting.name) = false :=
    beq_false_of_ne fun hname => h (Setting.name_injective hname)
  have hvalue : (sources.give setting raw).value? other = sources.value? other := by
    unfold value?
    rw [give, List.lookup_cons, hname]
    rfl
  rw [settled, settled, read, read, hvalue]

theorem unknown_give : (sources.give setting raw).unknown = sources.unknown := by
  unfold unknown
  dsimp only
  rw [give, List.filter_cons_of_neg]
  simp only [setting.contains_name, Bool.not_true, Bool.false_eq_true, not_false_eq_true]

theorem others_give : (sources.give setting raw).others setting = sources.others setting := by
  unfold others
  rw [unknown_give]
  congr 1
  refine List.flatMap_congr fun other hother => ?_
  rw [sources.settled_give_of_ne (Setting.nodup_all.mem_erase_iff.mp hother).1]

/-- A refused value is reported, with the problems of the other settings as they are without it. -/
theorem load_give_of_refused {cause : Cause} (h : setting.accept raw = .error cause) :
    ∃ report, (sources.give setting raw).load = .error report ∧
      report.Perm (⟨setting.name, cause⟩ ::
        sources.found.filter fun problem => problem.setting ≠ setting.name) := by
  have hsettled : (sources.give setting raw).settled setting = .error ⟨setting.name, cause⟩ := by
    rw [settled_give, h]
    rfl
  have hperm := (sources.give setting raw).found_perm setting
  rw [hsettled, others_give] at hperm
  have hfound : (sources.give setting raw).found ≠ [] := by
    intro hnone
    rw [hnone] at hperm
    cases hperm.symm.eq_nil
  refine ⟨_, load_eq_error _ hfound, (List.mergeSort_perm _ _).trans (hperm.trans ?_)⟩
  exact ((sources.filter_found_perm setting).symm).cons _

/-- An accepted value becomes that of its setting, and the other settings stay as they are. -/
theorem load_give_of_accepted {accepted : Raw} {configuration : Configuration}
    (h : setting.accept raw = .ok accepted) (hload : sources.load = .ok configuration) :
    ∃ next, (sources.give setting raw).load = .ok next ∧ next.value setting = accepted ∧
      ∀ other ≠ setting, next.value other = configuration.value other := by
  obtain ⟨hunknown, hvalues⟩ := (sources.load_eq_ok_iff configuration).mp hload
  have hsettled : (sources.give setting raw).settled setting = .ok accepted := by
    rw [settled_give, h]
    rfl
  have hother {other : Setting} (hne : other ≠ setting) :
      (sources.give setting raw).settled other = .ok (configuration.value other) := by
    rw [sources.settled_give_of_ne hne, hvalues]
  have hfound : (sources.give setting raw).found = [] := by
    refine List.append_eq_nil_iff.mpr ⟨List.flatMap_eq_nil_iff.mpr fun other _ => ?_, ?_⟩
    · by_cases hsame : other = setting
      · rw [hsame, hsettled]
        rfl
      · rw [hother hsame]
        rfl
    · rw [unknown_give, hunknown]
  obtain ⟨next, hnext, hloaded⟩ := exists_load_eq_ok _ hfound
  refine ⟨next, hnext, Except.ok.inj ((hloaded setting).symm.trans hsettled), ?_⟩
  exact fun other hne => Except.ok.inj ((hloaded other).symm.trans (hother hne))

/-- Only what has become of the settings counts, and which explicit values are for none. -/
theorem load_eq_of_settled_eq {other : Sources} (hunknown : other.unknown = sources.unknown)
    (hsettled : ∀ setting, other.settled setting = sources.settled setting) :
    other.load = sources.load := by
  cases hload : sources.load with
  | ok configuration =>
    obtain ⟨hnone, hvalues⟩ := (sources.load_eq_ok_iff configuration).mp hload
    refine (other.load_eq_ok_iff configuration).mpr ⟨hunknown.trans hnone, fun setting => ?_⟩
    rw [hsettled, hvalues]
  | error report =>
    have hfound : other.found = sources.found := by
      unfold found
      rw [hunknown, funext hsettled]
    rw [other.load_eq_error_iff report, hfound]
    exact (sources.load_eq_error_iff report).mp hload

/-- A value that another goes before is not checked. -/
theorem load_give_give (losing : Raw) :
    ((sources.give setting losing).give setting raw).load = (sources.give setting raw).load := by
  refine load_eq_of_settled_eq _ ?_ fun other => ?_
  · rw [unknown_give, unknown_give, unknown_give]
  · by_cases hsame : other = setting
    · rw [hsame, settled_give, settled_give]
    · rw [settled_give_of_ne _ hsame, settled_give_of_ne _ hsame, settled_give_of_ne _ hsame]

theorem settled_of_value? {value : Raw} (h : sources.value? setting = some raw)
    (haccept : setting.accept raw = .ok value) : sources.settled setting = .ok value := by
  rw [settled, read, h]
  simp only [haccept]
  rfl

/-- Every configuration is loaded when its values are given, whatever the environment is. -/
theorem load_values (configuration : Configuration) (environment : List (String × String)) :
    load ⟨Setting.all.map fun setting => (setting.name, configuration.value setting),
      environment⟩ = .ok configuration := by
  refine (load_eq_ok_iff _ _).mpr ⟨rfl, fun setting => ?_⟩
  refine settled_of_value? _ ?_ (Setting.accept_value configuration setting)
  cases setting <;> rfl

end Sources

/-- The value of a setting as it is written in an environment variable. -/
def text (configuration : Configuration) (setting : Setting) : String :=
  match configuration.value setting with
  | .text content => content
  | _ => toString configuration.nameLimit

namespace Setting

theorem accept_text (configuration : Configuration) (setting : Setting) :
    setting.accept (.text (configuration.text setting)) = .ok (configuration.value setting) := by
  cases setting with
  | nameLimit =>
    have hread : Numeral.integer? (toString configuration.nameLimit).toList =
        some configuration.nameLimit := by
      have hplain : Numeral.integer? ([] ++ (toString configuration.nameLimit).toList ++ []) = _ :=
        Numeral.integer?_toString configuration.nameLimit (by simp) (by simp)
      rwa [List.nil_append, List.append_nil] at hplain
    have hlimit : (Raw.text (toString configuration.nameLimit)).toInteger =
        .ok configuration.nameLimit := by
      rw [Raw.toInteger, hread]
    exact accept_of_toInteger hlimit configuration.nameLimit_pos
  | _ => exact accept_value configuration _

end Setting

namespace Sources

/-- Every configuration is loaded from the environment, if no value is given. The names of the
variables may be spelled in capitals. -/
theorem load_environment (configuration : Configuration) (variableName : Setting → String)
    (h : ∀ setting, (variableName setting).toList.map smallLetter =
      setting.variableName.toList) :
    load ⟨[], Setting.all.map fun setting => (variableName setting, configuration.text setting)⟩ =
      .ok configuration := by
  refine (load_eq_ok_iff _ _).mpr ⟨rfl, fun setting => ?_⟩
  refine settled_of_value? _ ?_ (Setting.accept_text configuration setting)
  have hsame : ((fun entry : String × String =>
      decide (entry.1.toList.map smallLetter = setting.variableName.toList)) ∘
      fun other => (variableName other, configuration.text other)) =
        fun other => decide (other = setting) := by
    funext other
    rw [Function.comp_apply, h, decide_eq_decide, String.toList_inj]
    exact ⟨Setting.variableName_injective, congrArg _⟩
  unfold value? fromEnvironment?
  rw [← List.map_reverse, List.find?_map, hsame]
  cases setting <;> rfl

example :
    load ⟨[], [("STATEHOLDER_MODULE_SUFFIX", "env"), ("LANG", "C"),
      ("stateholder_Max_Parameter_Name_Length", " +1_2.0 ")]⟩ =
        .ok { moduleSuffix := "env", nameLimit := 12 } :=
  rfl

theorem ofOptions_eq (options : List (String × Raw)) :
    ofOptions options = Setting.all.filterMap fun setting =>
      (setting.optionName?.bind fun name => options.lookup name).map fun raw =>
        (setting.name, raw) := by
  refine congrArg (Setting.all.filterMap ·) (funext fun setting => ?_)
  cases hname : setting.optionName? with
  | none => rfl
  | some name =>
    change (options.lookup name >>= fun raw => pure (setting.name, raw)) =
      (options.lookup name).map fun raw => (setting.name, raw)
    cases options.lookup name <;> rfl

theorem lookup_filterMap_name (given : Setting → Option Raw) (settings : List Setting)
    (setting : Setting) :
    (settings.filterMap fun other => (given other).map fun raw => (other.name, raw)).lookup
      setting.name = if setting ∈ settings then given setting else none := by
  induction settings with
  | nil => rfl
  | cons other settings ih =>
    rw [List.filterMap_cons]
    by_cases hsame : setting = other
    · subst hsame
      rw [if_pos List.mem_cons_self]
      cases hgiven : given setting with
      | none => simpa [hgiven] using ih
      | some raw => simp
    · have hname : (setting.name == other.name) = false :=
        beq_false_of_ne fun hname => hsame (Setting.name_injective hname)
      simp only [List.mem_cons, hsame, false_or]
      rw [← ih]
      cases given other with
      | none => rfl
      | some raw => simp only [Option.map_some, List.lookup_cons, hname]

/-- A build option is an explicit value of its setting. -/
theorem lookup_ofOptions (options : List (String × Raw)) (setting : Setting) :
    (ofOptions options).lookup setting.name =
      setting.optionName?.bind fun name => options.lookup name := by
  rw [ofOptions_eq, lookup_filterMap_name, if_pos setting.mem_all]

/-- Other options mean nothing: none of them is unknown. -/
theorem unknown_ofOptions (options : List (String × Raw)) (environment : List (String × String)) :
    unknown ⟨ofOptions options, environment⟩ = [] := by
  unfold unknown
  dsimp only
  rw [List.map_eq_nil_iff, List.filter_eq_nil_iff]
  intro entry hentry
  rw [ofOptions_eq] at hentry
  obtain ⟨setting, -, hsetting⟩ := List.mem_filterMap.mp hentry
  obtain ⟨raw, -, rfl⟩ := Option.map_eq_some_iff.mp hsetting
  simp only [setting.contains_name, Bool.not_true, Bool.false_eq_true, not_false_eq_true]

end Sources

end HolderInjection.Configuration
