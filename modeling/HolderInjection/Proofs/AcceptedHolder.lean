import HolderInjection.Holder.Check
import HolderInjection.Plan.Input
import HolderInjection.Proofs.SignatureCompleteness

/-!
# Accepted holders

What a holder without faults is known to have. Its registration lacks nothing that a plan asks for,
though a plan looks at the parameters of the factory and of the constructor on its own terms.
-/

namespace HolderInjection

/-- What is made of the members of a list by their places is such throughout if each is. -/
theorem forall_mem_mapIdx_iff {α β : Type} {f : Nat → α → β} {q : β → Prop} {p : α → Prop}
    (h : ∀ index item, q (f index item) ↔ p item) {items : List α} :
    (∀ value ∈ items.mapIdx f, q value) ↔ ∀ item ∈ items, p item := by
  constructor
  · intro hvalues item hitem
    obtain ⟨index, hindex, rfl⟩ := List.mem_iff_getElem.mp hitem
    exact (h index _).mp (hvalues _ (List.mem_mapIdx.mpr ⟨index, hindex, rfl⟩))
  · intro hitems value hvalue
    obtain ⟨index, hindex, rfl⟩ := List.mem_mapIdx.mp hvalue
    exact (h index _).mpr (hitems _ (List.getElem_mem hindex))

namespace TypeExpr

/-- A blank text is no signature. -/
theorem not_isMissing_of_parse {signature : String} {type : TypeExpr}
    (h : parse signature = .ok type) : Name.isMissing signature = false := by
  rw [Bool.eq_false_iff]
  intro hblank
  have htrim : Lexeme.trim (Lexeme.ofText signature.toList) = Lexeme.trim [] := by
    have hpad := @Lexeme.trim_pad _ [] [] (Lexeme.isBlank_of_mem_map_plain hblank) nofun
    rwa [List.append_nil, List.append_nil, ← Lexeme.ofText_blank hblank] at hpad
  have hread := parse_eq_ok_iff_read.mp h
  rw [← read_trim, htrim] at hread
  exact read_ne_ok_nil type hread

end TypeExpr

namespace Holder

/-- What it takes for a holder to have no faults. -/
structure Accepted (holder : Holder) : Prop where
  className : Name.isMissing holder.className = false
  package : Name.isMissing holder.package = false
  identifier : Name.isIdentifier holder.className.toList
  packageName : Name.isPackage holder.package.toList
  parameterName : ∀ parameter ∈ holder.parameters, Name.isMissing parameter.name = false
  parameterType : ∀ parameter ∈ holder.parameters, ∃ type,
    TypeExpr.parse parameter.signature = .ok type
  notSelf : ∀ parameter ∈ holder.parameters, holder.refersToSelf parameter = false
  sharedType : ∀ field ∈ holder.shared, ∃ type, TypeExpr.parse field.signature = .ok type

variable {holder : Holder}

theorem missingNames_eq_nil_iff :
    holder.missingNames = [] ↔
      Name.isMissing holder.className = false ∧ Name.isMissing holder.package = false := by
  rw [missingNames, List.append_eq_nil_iff]
  cases Name.isMissing holder.className <;> cases Name.isMissing holder.package <;> simp

theorem classNameFaults_eq_nil_iff (h : Name.isMissing holder.className = false) :
    holder.classNameFaults = [] ↔ Name.isIdentifier holder.className.toList := by
  rw [classNameFaults, h]
  cases Name.isIdentifier holder.className.toList <;> simp

theorem packageFaults_eq_nil_iff (h : Name.isMissing holder.package = false) :
    holder.packageFaults = [] ↔ Name.isPackage holder.package.toList := by
  rw [packageFaults, h]
  cases Name.isPackage holder.package.toList <;> simp

theorem parameterFaults_eq_nil_iff (index : Nat) (parameter : Parameter) :
    holder.parameterFaults index parameter = [] ↔
      Name.isMissing parameter.name = false ∧
        (∃ type, TypeExpr.parse parameter.signature = .ok type) ∧
        holder.refersToSelf parameter = false := by
  rw [parameterFaults, List.append_eq_nil_iff, List.append_eq_nil_iff, and_assoc]
  cases Name.isMissing parameter.name <;> cases TypeExpr.parse parameter.signature <;>
    cases holder.refersToSelf parameter <;> simp

theorem sharedFaults_eq_nil_iff (field : SharedField) :
    sharedFaults field = [] ↔ ∃ type, TypeExpr.parse field.signature = .ok type := by
  rw [sharedFaults]
  cases TypeExpr.parse field.signature <;> simp

theorem flatten_parameterFaults_eq_nil_iff :
    (holder.parameters.mapIdx holder.parameterFaults).flatten = [] ↔
      ∀ parameter ∈ holder.parameters, Name.isMissing parameter.name = false ∧
        (∃ type, TypeExpr.parse parameter.signature = .ok type) ∧
        holder.refersToSelf parameter = false := by
  rw [List.flatten_eq_nil_iff]
  exact forall_mem_mapIdx_iff parameterFaults_eq_nil_iff

/-- The check of a holder finds nothing exactly if every rule holds of it. -/
theorem faults_eq_nil_iff : holder.faults = [] ↔ holder.Accepted := by
  rw [faults, List.append_eq_nil_iff, List.append_eq_nil_iff, List.append_eq_nil_iff,
    List.append_eq_nil_iff, missingNames_eq_nil_iff, flatten_parameterFaults_eq_nil_iff,
    List.flatMap_eq_nil_iff]
  constructor
  · rintro ⟨⟨⟨⟨⟨hclass, hpackage⟩, hidentifier⟩, hname⟩, hparameters⟩, hshared⟩
    exact {
      className := hclass
      package := hpackage
      identifier := (classNameFaults_eq_nil_iff hclass).mp hidentifier
      packageName := (packageFaults_eq_nil_iff hpackage).mp hname
      parameterName := fun parameter hmem => (hparameters parameter hmem).1
      parameterType := fun parameter hmem => (hparameters parameter hmem).2.1
      notSelf := fun parameter hmem => (hparameters parameter hmem).2.2
      sharedType := fun field hmem => (sharedFaults_eq_nil_iff field).mp (hshared field hmem) }
  · intro h
    refine ⟨⟨⟨⟨⟨h.className, h.package⟩, ?_⟩, ?_⟩, ?_⟩, ?_⟩
    · exact (classNameFaults_eq_nil_iff h.className).mpr h.identifier
    · exact (packageFaults_eq_nil_iff h.package).mpr h.packageName
    · intro parameter hmem
      exact ⟨h.parameterName _ hmem, h.parameterType _ hmem, h.notSelf _ hmem⟩
    · intro field hmem
      exact (sharedFaults_eq_nil_iff field).mpr (h.sharedType field hmem)

end Holder

namespace Plan

theorem parameterProblem?_eq_none_iff {list : ParameterList} {className : String} {index : Nat}
    {name signature : String} :
    parameterProblem? list className index name signature = none ↔
      Name.isMissing name = false ∧ Name.isMissing signature = false := by
  unfold parameterProblem?
  cases Name.isMissing name <;> cases Name.isMissing signature <;> simp

theorem forall_parameterProblem?_iff {α : Type} (list : ParameterList) (className : String)
    (name signature : α → String) {items : List α} :
    (∀ problem ∈ items.mapIdx fun index item =>
        parameterProblem? list className index (name item) (signature item), problem = none) ↔
      ∀ item ∈ items, Name.isMissing (name item) = false ∧
        Name.isMissing (signature item) = false := by
  apply forall_mem_mapIdx_iff
  intro index item
  exact parameterProblem?_eq_none_iff

/-- A registration lacks nothing exactly if its class and all parameters in both lists are named
and the parameters have types. -/
theorem inputProblem?_eq_none_iff {registration : Registration} :
    inputProblem? registration = none ↔
      Name.isMissing registration.className = false ∧
        (∀ parameter ∈ registration.factoryParameters,
          Name.isMissing parameter.name = false ∧ Name.isMissing parameter.signature = false) ∧
        ∀ parameter ∈ registration.constructorParameters,
          Name.isMissing parameter.name = false ∧ Name.isMissing parameter.signature = false := by
  unfold inputProblem?
  cases Name.isMissing registration.className with
  | true => simp
  | false =>
    simp only [Bool.false_eq_true, if_false, true_and, List.findSome?_append, Option.or_eq_none_iff,
      List.findSome?_eq_none_iff, id_eq]
    exact and_congr (forall_parameterProblem?_iff .factory _ _ _)
      (forall_parameterProblem?_iff .constructor _ _ _)

theorem checkInput_eq_ok_iff {registrations : List Registration} :
    checkInput registrations = .ok () ↔
      ∀ registration ∈ registrations, inputProblem? registration = none := by
  unfold checkInput
  rw [← List.findSome?_eq_none_iff]
  cases registrations.findSome? inputProblem? <;> simp

end Plan

namespace Registration

theorem mem_ofParameters {parameters : List Parameter} {factory : FactoryParameter}
    (h : factory ∈ FactoryParameter.ofParameters parameters) :
    ∃ parameter ∈ parameters,
      factory.name = parameter.name ∧ factory.signature = parameter.signature := by
  obtain ⟨index, hindex, rfl⟩ := List.mem_mapIdx.mp h
  exact ⟨_, List.mem_of_mem_filter (List.getElem_mem hindex), rfl, rfl⟩

/-- The registration of a holder without faults lacks nothing. -/
theorem inputProblem?_ofHolder (ending : String) {holder : Holder} (h : holder.Accepted) :
    Plan.inputProblem? (ofHolder ending holder) = none := by
  have hgiven (parameter : Parameter) (hmem : parameter ∈ holder.parameters) :
      Name.isMissing parameter.name = false ∧ Name.isMissing parameter.signature = false := by
    obtain ⟨type, htype⟩ := h.parameterType parameter hmem
    exact ⟨h.parameterName parameter hmem, TypeExpr.not_isMissing_of_parse htype⟩
  refine Plan.inputProblem?_eq_none_iff.mpr ⟨h.className, ?_, hgiven⟩
  intro factory hfactory
  obtain ⟨parameter, hmem, hname, hsignature⟩ := mem_ofParameters hfactory
  rw [hname, hsignature]
  exact hgiven parameter hmem

end Registration

end HolderInjection
