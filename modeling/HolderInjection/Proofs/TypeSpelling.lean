import HolderInjection.Proofs.AcceptedHolder
import HolderInjection.Proofs.BatchText
import HolderInjection.Proofs.HolderUsage

/-!
# The spelling of types

A signature matters by the type it is read as. Where two inputs differ in nothing but the spelling
of their types, the same consumers are found for every holder, and the same text is written or the
same refusal given. Text that is no type has one spelling only.
-/

namespace HolderInjection

section

variable {α β γ : Type} {R : α → β → Prop} {items : List α} {others : List β}

/-- What is made of related lists is equal if what is made of related members is. -/
theorem map_eq_of_forall₂ {f : α → γ} {g : β → γ} (h : ∀ item other, R item other → f item = g other)
    (hrelated : List.Forall₂ R items others) : items.map f = others.map g := by
  induction hrelated with
  | nil => rfl
  | cons hfirst _ ih => rw [List.map_cons, List.map_cons, h _ _ hfirst, ih]

theorem any_eq_of_forall₂ {p : α → Bool} {q : β → Bool}
    (h : ∀ item other, R item other → p item = q other)
    (hrelated : List.Forall₂ R items others) : items.any p = others.any q := by
  have hmap := congrArg (List.any · id) (map_eq_of_forall₂ h hrelated)
  rwa [List.any_map, List.any_map] at hmap

theorem mapIdx_eq_of_forall₂ {f : Nat → α → γ} {g : Nat → β → γ}
    (h : ∀ index item other, R item other → f index item = g index other)
    (hrelated : List.Forall₂ R items others) : items.mapIdx f = others.mapIdx g := by
  induction hrelated generalizing f g with
  | nil => rfl
  | cons hfirst _ ih =>
    rw [List.mapIdx_cons, List.mapIdx_cons, h 0 _ _ hfirst, ih fun index => h (index + 1)]

theorem forall₂_distinctOn {κ : Type} [DecidableEq κ] {key : α → κ} {otherKey : β → κ}
    (h : ∀ item other, R item other → key item = otherKey other)
    (hrelated : List.Forall₂ R items others) :
    List.Forall₂ R (distinctOn key items) (distinctOn otherKey others) := by
  induction hrelated with
  | nil => exact .nil
  | cons hfirst _ ih =>
    refine .cons hfirst (List.rel_filter ?_ ih)
    intro item other hitem
    dsimp only
    rw [h _ _ hfirst, h _ _ hitem]

theorem mapM_eq_of_forall₂ {f : α → Logged γ} {g : β → Logged γ}
    (h : ∀ item other, R item other → f item = g other)
    (hrelated : List.Forall₂ R items others) : items.mapM f = others.mapM g := by
  have hmap := congrArg (List.mapM id) (map_eq_of_forall₂ h hrelated)
  rwa [List.mapM_map, List.mapM_map] at hmap

end

namespace TypeExpr

/-- Whether two signatures are one text or are read as one type. -/
def SameType (signature other : String) : Prop :=
  signature = other ∨ ∃ type, parse signature = .ok type ∧ parse other = .ok type

variable {signature other : String}

theorem SameType.parse?_eq (h : SameType signature other) : parse? signature = parse? other := by
  rcases h with rfl | ⟨type, hparse, hother⟩
  · rfl
  · rw [parse?_eq_some_iff.mpr hparse, parse?_eq_some_iff.mpr hother]

theorem SameType.key_eq (h : SameType signature other) : key signature = key other := by
  rcases h with rfl | ⟨type, hparse, hother⟩
  · rfl
  · rw [key_eq_render hparse, key_eq_render hother]

/-- A type is never spelled with blanks alone. -/
theorem SameType.isMissing_eq (h : SameType signature other) :
    Name.isMissing signature = Name.isMissing other := by
  rcases h with rfl | ⟨type, hparse, hother⟩
  · rfl
  · rw [not_isMissing_of_parse hparse, not_isMissing_of_parse hother]

/-- Parentheses around a type change nothing. -/
theorem SameType.enclosed {type : TypeExpr} (h : parse signature = .ok type) :
    SameType signature ("(" ++ signature ++ ")") := by
  have hderives := @Derives.enclosed [] _ [] _ rfl rfl (derives_of_parse h)
  refine .inr ⟨type, h, parse_of_derives (.plain ?_)⟩
  simpa using hderives

end TypeExpr

open TypeExpr (SameType)

/-! Records that differ in the spelling of types only. -/

def Parameter.Respelled (parameter other : Parameter) : Prop :=
  other = { parameter with signature := other.signature } ∧
    SameType parameter.signature other.signature

def SharedField.Respelled (field other : SharedField) : Prop :=
  other = { field with signature := other.signature } ∧ SameType field.signature other.signature

def FactoryParameter.Respelled (parameter other : FactoryParameter) : Prop :=
  other = { parameter with signature := other.signature } ∧
    SameType parameter.signature other.signature

def Holder.Respelled (holder other : Holder) : Prop :=
  other = { holder with parameters := other.parameters } ∧
    List.Forall₂ Parameter.Respelled holder.parameters other.parameters

def Consumer.Respelled (consumer other : Consumer) : Prop :=
  other = { consumer with propertyTypes := other.propertyTypes, shared := other.shared } ∧
    List.Forall₂ SameType consumer.propertyTypes other.propertyTypes ∧
    List.Forall₂ SharedField.Respelled consumer.shared other.shared

def Exposure.Respelled (exposure other : Exposure) : Prop :=
  other = { exposure with fields := other.fields } ∧
    List.Forall₂ SharedField.Respelled exposure.fields other.fields

def Registration.Respelled (registration other : Registration) : Prop :=
  other = { registration with
    factoryParameters := other.factoryParameters
    constructorParameters := other.constructorParameters } ∧
    List.Forall₂ FactoryParameter.Respelled registration.factoryParameters
      other.factoryParameters ∧
    List.Forall₂ Parameter.Respelled registration.constructorParameters other.constructorParameters

/-- Whether two usages have the same holders, each with the same consumers. -/
def Usage.Respelled (usage other : Usage) : Prop :=
  List.Forall₂ (fun entry otherEntry => otherEntry.1 = entry.1 ∧
    List.Forall₂ Exposure.Respelled entry.2 otherEntry.2) usage other

/-! What is looked up. -/

namespace FieldTable

theorem keyed_eq_of_respelled {fields others : List SharedField}
    (h : List.Forall₂ SharedField.Respelled fields others) : keyed fields = keyed others := by
  apply map_eq_of_forall₂ _ h
  rintro field other ⟨hother, hsame⟩
  rw [hsame.key_eq, congrArg SharedField.name hother]

theorem named_eq_of_respelled {fields others : List SharedField}
    (h : List.Forall₂ SharedField.Respelled fields others) : named fields = named others := by
  have hmap := congrArg (List.filterMap id) (map_eq_of_forall₂ (R := SharedField.Respelled)
    (f := fun field => ((TypeExpr.parse? field.signature).bind TypeExpr.simpleName?).map
      (·, field.name))
    (g := fun field => ((TypeExpr.parse? field.signature).bind TypeExpr.simpleName?).map
      (·, field.name)) (by
        rintro field other ⟨hother, hsame⟩
        rw [hsame.parse?_eq, congrArg SharedField.name hother]) h)
  rwa [List.filterMap_map, List.filterMap_map] at hmap

/-- The table of a consumer does not depend on the spelling of the types of its fields. -/
theorem ofExposure_eq_of_respelled {exposure other : Exposure} (h : exposure.Respelled other) :
    ofExposure exposure = ofExposure other := by
  obtain ⟨hother, hfields⟩ := h
  unfold ofExposure
  rw [keyed_eq_of_respelled hfields, named_eq_of_respelled hfields,
    congrArg Exposure.consumer hother]

theorem find_eq_of_sameType (table : FieldTable) {signature other : String}
    (h : SameType signature other) : table.find signature = table.find other := by
  unfold find findExact findNonNull findBySimpleName
  rw [h.key_eq, h.parse?_eq]

end FieldTable

namespace Plan

theorem ofType_eq_of_sameType (scopeType : String) {signature other : String}
    (h : SameType signature other) :
    Resolution.ofType scopeType signature = Resolution.ofType scopeType other := by
  rcases h with rfl | ⟨type, hparse, hother⟩
  · rfl
  · unfold Resolution.ofType
    rw [hparse, hother]

theorem ofInjected_eq_of_sameType (table : Option FieldTable) {signature other : String}
    (h : SameType signature other) :
    Resolution.ofInjected table signature = Resolution.ofInjected table other := by
  cases table with
  | none => rfl
  | some table =>
    simp only [Resolution.ofInjected]
    rw [table.find_eq_of_sameType h]

theorem ofParameter_eq_of_respelled (scopeType : String) (table : Option FieldTable)
    {parameter other : Parameter} (h : parameter.Respelled other) :
    Argument.ofParameter scopeType table parameter = Argument.ofParameter scopeType table other := by
  obtain ⟨hother, hsame⟩ := h
  have hresolution : Resolution.ofParameter scopeType table parameter =
      Resolution.ofParameter scopeType table other := by
    unfold Resolution.ofParameter
    rw [congrArg Parameter.injected hother, ofType_eq_of_sameType scopeType hsame,
      ofInjected_eq_of_sameType table hsame]
  unfold Argument.ofParameter
  rw [hresolution, congrArg Parameter.name hother]

section

variable {registration other : Registration} (h : registration.Respelled other)
include h

theorem className_eq_of_respelled : registration.className = other.className := by
  rw [h.1]

theorem qualifiedName_eq_of_respelled : registration.qualifiedName = other.qualifiedName := by
  rw [h.1]
  rfl

/-- The constructor is called with the same parameters, which of the lists they are from. -/
theorem parameters_respelled :
    List.Forall₂ Parameter.Respelled registration.parameters other.parameters := by
  obtain ⟨-, hfactory, hconstructor⟩ := h
  unfold Registration.parameters
  -- The two lists of a constructor are empty together.
  generalize registration.constructorParameters = constructor,
    other.constructorParameters = otherConstructor at hconstructor ⊢
  cases hconstructor with
  | nil =>
    refine List.forall₂_map_left_iff.mpr (List.forall₂_map_right_iff.mpr (hfactory.imp ?_))
    rintro parameter otherParameter ⟨hother, hsame⟩
    refine ⟨?_, hsame⟩
    rw [congrArg FactoryParameter.name hother]
  | cons hfirst hrest => exact .cons hfirst hrest

theorem any_injected_eq_of_respelled :
    registration.parameters.any (·.injected) = other.parameters.any (·.injected) := by
  apply any_eq_of_forall₂ _ (parameters_respelled h)
  rintro parameter otherParameter ⟨hother, -⟩
  rw [hother]

theorem construction_eq_of_respelled (scopeType : String) (table : Option FieldTable) :
    Construction.ofRegistration scopeType registration table =
      Construction.ofRegistration scopeType other table := by
  unfold Construction.ofRegistration
  rw [qualifiedName_eq_of_respelled h, mapM_eq_of_forall₂
    (fun _ _ hparameter => ofParameter_eq_of_respelled scopeType table hparameter)
    (parameters_respelled h)]

theorem branch_eq_of_respelled (scopeType : String) {exposure otherExposure : Exposure}
    (hexposure : exposure.Respelled otherExposure) :
    Branch.ofExposure scopeType registration exposure =
      Branch.ofExposure scopeType other otherExposure := by
  unfold Branch.ofExposure
  rw [FieldTable.ofExposure_eq_of_respelled hexposure, construction_eq_of_respelled h,
    congrArg Exposure.consumer hexposure.1]

end

end Plan

theorem Consumer.uses_eq_of_respelled {consumer other : Consumer} (h : consumer.Respelled other)
    (holder : String) : consumer.uses holder = other.uses holder := by
  obtain ⟨-, htypes, -⟩ := h
  unfold Consumer.uses
  apply any_eq_of_forall₂ _ htypes
  intro signature otherSignature hsame
  rw [hsame.parse?_eq]

theorem Consumer.exposure_respelled {consumer other : Consumer} (h : consumer.Respelled other) :
    consumer.exposure.Respelled other.exposure := by
  obtain ⟨hother, -, hshared⟩ := h
  refine ⟨?_, hshared⟩
  rw [hother]
  rfl

namespace Usage

theorem consumersOf_respelled {usage other : Usage} (h : usage.Respelled other) (holder : String) :
    List.Forall₂ Exposure.Respelled (usage.consumersOf holder) (other.consumersOf holder) := by
  unfold Usage.consumersOf
  induction h with
  | nil => exact .nil
  | @cons entry otherEntry _ _ hentry _ ih =>
    obtain ⟨name, exposures⟩ := entry
    obtain ⟨otherName, otherExposures⟩ := otherEntry
    obtain ⟨hname, hexposures⟩ := hentry
    dsimp only at hname hexposures
    subst hname
    rw [List.lookup_cons, List.lookup_cons]
    cases holder == otherName with
    | true => exact hexposures
    | false => exact ih

section

variable {holders otherHolders : List Holder} {consumers otherConsumers : List Consumer}

theorem search_respelled (h : List.Forall₂ Consumer.Respelled consumers otherConsumers)
    (holder : String) :
    List.Forall₂ Exposure.Respelled (search consumers holder) (search otherConsumers holder) := by
  unfold search
  rw [List.forall₂_map_left_iff, List.forall₂_map_right_iff]
  refine (List.rel_filter ?_ h).imp fun _ _ => Consumer.exposure_respelled
  intro consumer other hconsumer
  dsimp only
  rw [Consumer.uses_eq_of_respelled hconsumer]

theorem names_eq_of_respelled (h : List.Forall₂ Holder.Respelled holders otherHolders) :
    (holders.filter (·.enabled)).map (·.qualifiedName) =
      (otherHolders.filter (·.enabled)).map (·.qualifiedName) := by
  apply map_eq_of_forall₂ (R := Holder.Respelled)
  · rintro holder other ⟨hother, -⟩
    rw [hother]
    rfl
  · apply List.rel_filter _ h
    rintro holder other ⟨hother, -⟩
    dsimp only
    rw [hother]

/-- The consumers of every holder are the same, found by whichever spelling. -/
theorem ofHolders_respelled (hholders : List.Forall₂ Holder.Respelled holders otherHolders)
    (hconsumers : List.Forall₂ Consumer.Respelled consumers otherConsumers) :
    Respelled (ofHolders holders consumers).value (ofHolders otherHolders otherConsumers).value := by
  unfold ofHolders Respelled
  simp only [Logged.value_bind, Logged.value_pure, Logged.value_mapM, value_entry,
    names_eq_of_respelled hholders]
  apply forall₂_distinctOn fun _ _ hentry => hentry.1.symm
  rw [List.forall₂_map_left_iff, List.forall₂_map_right_iff, List.forall₂_same]
  exact fun name _ => ⟨rfl, search_respelled hconsumers name⟩

end

end Usage

namespace Plan

theorem parameterProblem?_eq_of_sameType (list : ParameterList) (className : String) (index : Nat)
    (name : String) {signature other : String} (h : SameType signature other) :
    parameterProblem? list className index name signature =
      parameterProblem? list className index name other := by
  unfold parameterProblem?
  rw [h.isMissing_eq]

section

variable {registration other : Registration} (h : registration.Respelled other)
include h

theorem inputProblem?_eq_of_respelled : inputProblem? registration = inputProblem? other := by
  have hclass := className_eq_of_respelled h
  obtain ⟨hother, hfactory, hconstructor⟩ := h
  have hmodule : registration.moduleName = other.moduleName := by rw [hother]
  simp only [inputProblem?, hclass, hmodule]
  congr 3
  · apply mapIdx_eq_of_forall₂ _ hfactory
    rintro index parameter otherParameter ⟨hparameter, hsame⟩
    rw [congrArg FactoryParameter.name hparameter, parameterProblem?_eq_of_sameType _ _ _ _ hsame]
  · apply mapIdx_eq_of_forall₂ _ hconstructor
    rintro index parameter otherParameter ⟨hparameter, hsame⟩
    rw [congrArg Parameter.name hparameter, parameterProblem?_eq_of_sameType _ _ _ _ hsame]

theorem factory_eq_of_respelled (configuration : Configuration) {usage otherUsage : Usage}
    (husage : usage.Respelled otherUsage) :
    Factory.ofRegistration configuration usage registration =
      Factory.ofRegistration configuration otherUsage other := by
  have hexposures := Usage.consumersOf_respelled husage registration.qualifiedName
  have hempty : (usage.consumersOf registration.qualifiedName).isEmpty =
      (otherUsage.consumersOf registration.qualifiedName).isEmpty := by
    rw [Bool.eq_iff_iff, List.isEmpty_iff_length_eq_zero, List.isEmpty_iff_length_eq_zero,
      hexposures.length_eq]
  simp only [Factory.ofRegistration]
  rw [className_eq_of_respelled h, ← qualifiedName_eq_of_respelled h,
    any_injected_eq_of_respelled h, hempty, construction_eq_of_respelled h, mapM_eq_of_forall₂
      (fun _ _ hexposure => branch_eq_of_respelled h configuration.scopeType hexposure) hexposures]

end

variable {registrations others : List Registration} {usage otherUsage : Usage}

theorem checkInput_eq_of_respelled
    (h : List.Forall₂ Registration.Respelled registrations others) :
    checkInput registrations = checkInput others := by
  have hproblems : registrations.findSome? inputProblem? = others.findSome? inputProblem? := by
    have hmap := congrArg (List.findSome? id) (map_eq_of_forall₂
      (fun _ _ hregistration => inputProblem?_eq_of_respelled hregistration) h)
    rwa [List.findSome?_map, List.findSome?_map] at hmap
  rw [checkInput, checkInput, hproblems]

theorem module_eq_of_respelled (configuration : Configuration)
    (husage : usage.Respelled otherUsage)
    (h : List.Forall₂ Registration.Respelled registrations others) :
    Module.ofRegistrations configuration usage registrations =
      Module.ofRegistrations configuration otherUsage others := by
  have henabled : List.Forall₂ Registration.Respelled (registrations.filter (·.enabled))
      (others.filter (·.enabled)) := by
    apply List.rel_filter _ h
    rintro registration other ⟨hother, -⟩
    dsimp only
    rw [hother]
  have hfactories := mapM_eq_of_forall₂ (f := Factory.ofRegistration configuration usage)
    (g := Factory.ofRegistration configuration otherUsage)
    (fun _ _ hregistration => factory_eq_of_respelled hregistration configuration husage) henabled
  simp only [Module.ofRegistrations]
  rw [h.length_eq, henabled.length_eq, hfactories]

theorem plan_eq_of_respelled (configuration : Configuration) (husage : usage.Respelled otherUsage)
    (h : List.Forall₂ Registration.Respelled registrations others) :
    plan configuration usage registrations = plan configuration otherUsage others := by
  unfold plan
  rw [checkInput_eq_of_respelled h, module_eq_of_respelled configuration husage h]

theorem planFactory_eq_of_respelled (configuration : Configuration)
    (husage : usage.Respelled otherUsage) {registration other : Registration}
    (h : registration.Respelled other) :
    planFactory configuration usage registration =
      planFactory configuration otherUsage other := by
  unfold planFactory
  rw [checkInput_eq_of_respelled (.cons h .nil), factory_eq_of_respelled h configuration husage]

end Plan

namespace Source

section

variable (configuration : Configuration) {holders otherHolders : List Holder}
  {consumers otherConsumers : List Consumer} {registrations otherRegistrations : List Registration}
  {registration other : Registration}

/-- Generation depends on types and not on their spelling: every holder has the same consumers, and
a module, a file and a factory come out the same, or are refused for the same. -/
theorem write_respelled (package : String)
    (hholders : List.Forall₂ Holder.Respelled holders otherHolders)
    (hconsumers : List.Forall₂ Consumer.Respelled consumers otherConsumers)
    (hregistrations : List.Forall₂ Registration.Respelled registrations otherRegistrations)
    (hregistration : registration.Respelled other) :
    let usage := (Usage.ofHolders holders consumers).value
    let otherUsage := (Usage.ofHolders otherHolders otherConsumers).value
    usage.map (fun entry => (entry.1, entry.2.map (·.consumer))) =
        otherUsage.map (fun entry => (entry.1, entry.2.map (·.consumer))) ∧
      List.Forall₂ (fun consumer other => ∀ holder, consumer.uses holder = other.uses holder)
        consumers otherConsumers ∧
      writeModule configuration usage registrations =
        writeModule configuration otherUsage otherRegistrations ∧
      writeFile configuration usage package registrations =
        writeFile configuration otherUsage package otherRegistrations ∧
      writeFactory configuration usage registration =
        writeFactory configuration otherUsage other := by
  intro usage otherUsage
  have husage : usage.Respelled otherUsage := Usage.ofHolders_respelled hholders hconsumers
  have hplan := Plan.plan_eq_of_respelled configuration husage hregistrations
  have hfactory := Plan.planFactory_eq_of_respelled configuration husage hregistration
  refine ⟨?_, hconsumers.imp fun _ _ => Consumer.uses_eq_of_respelled, ?_, ?_, ?_⟩
  · apply map_eq_of_forall₂ _ husage
    rintro entry otherEntry ⟨hname, hexposures⟩
    rw [hname, map_eq_of_forall₂ _ hexposures]
    rintro exposure otherExposure ⟨hother, -⟩
    rw [hother]
  · rw [writeModule, writeModule, hplan]
  · rw [writeFile, writeFile, hplan]
  · rw [writeFactory, writeFactory, hfactory]

end

/-- A holder of which a user is injected, the type spelled one way or another. -/
def profileHolder (signature : String) : Holder :=
  { className := "ProfileStateHolder"
    package := "app"
    parameters := [{ name := "user", signature, injected := true }] }

/-- A consumer that uses the holder and has a user. -/
def profileScreen (holder user : String) : Consumer :=
  { className := "Screen"
    package := "app"
    propertyTypes := [holder]
    shared := [{ name := "user", signature := user }] }

theorem write_respelled_profile :
    let name := "com.example.User"
    let spelled := "(" ++ name ++ ")"
    let usage := (Usage.ofHolders [profileHolder name]
      [profileScreen "app.ProfileStateHolder" name]).value
    let otherUsage := (Usage.ofHolders [profileHolder spelled]
      [profileScreen ("(" ++ "app.ProfileStateHolder" ++ ")") spelled]).value
    let registration := Registration.ofHolder "StateHolder" (profileHolder name)
    let other := Registration.ofHolder "StateHolder" (profileHolder spelled)
    registration.Respelled other ∧
      writeFactory {} usage registration = writeFactory {} otherUsage other := by
  intro name spelled usage otherUsage registration other
  have hname : SameType name spelled := .enclosed (TypeExpr.parse_name (by decide))
  have hholder : SameType "app.ProfileStateHolder" ("(" ++ "app.ProfileStateHolder" ++ ")") :=
    .enclosed (TypeExpr.parse_name (by decide))
  have hparameters : List.Forall₂ Parameter.Respelled (profileHolder name).parameters
      (profileHolder spelled).parameters := .cons ⟨rfl, hname⟩ .nil
  have hregistration : registration.Respelled other := ⟨rfl, .nil, hparameters⟩
  have hconsumer : (profileScreen "app.ProfileStateHolder" name).Respelled
      (profileScreen ("(" ++ "app.ProfileStateHolder" ++ ")") spelled) :=
    ⟨rfl, .cons hholder .nil, .cons ⟨rfl, hname⟩ .nil⟩
  have hprofile : (profileHolder name).Respelled (profileHolder spelled) := ⟨rfl, hparameters⟩
  have hwritten := write_respelled {} "app" (.cons hprofile .nil) (.cons hconsumer .nil)
    (.cons hregistration .nil) hregistration
  exact ⟨hregistration, hwritten.2.2.2.2⟩

end Source

end HolderInjection
