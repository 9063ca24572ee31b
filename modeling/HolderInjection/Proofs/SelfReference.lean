import HolderInjection.Holder.Check
import HolderInjection.Proofs.ErasedName

/-!
# State holders that depend on themselves

A check reports an injected parameter of the holder's own class. It goes by the text of the type,
which agrees with the type unless a parenthesis stands before the type arguments.
-/

namespace HolderInjection

namespace Holder

/-- Whether a check reports that a parameter is of the holder's own class. -/
def ReportsSelfReference (conventions : Conventions) (holder : Holder) (parameter : Parameter) :
    Prop :=
  .selfReference parameter.name holder.className parameter.signature ∈
    (holder.check conventions).value.faults

variable {holder : Holder} {parameter : Parameter}

theorem kind_of_mem_missingNames {fault : Fault} (h : fault ∈ holder.missingNames) :
    fault.kind = .missingName := by
  unfold missingNames at h
  rcases List.mem_append.mp h with h | h
  all_goals
    split at h
    · rw [List.mem_singleton.mp h]
      rfl
    · cases h

theorem kind_of_mem_classNameFaults {fault : Fault} (h : fault ∈ holder.classNameFaults) :
    fault.kind = .invalidClassName := by
  unfold classNameFaults at h
  split at h
  · cases h
  · rw [List.mem_singleton.mp h]
    rfl

theorem kind_of_mem_packageFaults {fault : Fault} (h : fault ∈ holder.packageFaults) :
    fault.kind = .invalidPackage := by
  unfold packageFaults at h
  split at h
  · cases h
  · rw [List.mem_singleton.mp h]
    rfl

theorem kind_of_mem_sharedFaults {field : SharedField} {fault : Fault}
    (h : fault ∈ sharedFaults field) : fault.kind = .invalidSignature := by
  unfold sharedFaults at h
  split at h
  · cases h
  · rw [List.mem_singleton.mp h]
    rfl

/-- The fault of a parameter that is of the holder's own class. -/
def selfFault (holder : Holder) (parameter : Parameter) : Fault :=
  .selfReference parameter.name holder.className parameter.signature

/-- A parameter has a fault of this kind exactly if it refers to the holder. -/
theorem filter_parameterFaults (index : Nat) (parameter : Parameter) :
    (holder.parameterFaults index parameter).filter (·.kind = .selfReference) =
      if holder.refersToSelf parameter then [holder.selfFault parameter] else [] := by
  unfold parameterFaults
  rw [List.filter_append, List.filter_append]
  have hname : List.filter (fun fault : Fault => fault.kind = .selfReference)
      (if Name.isMissing parameter.name then [.missingParameterName index] else []) = [] := by
    split <;> rfl
  rw [hname, List.nil_append]
  by_cases hself : holder.refersToSelf parameter = true
  · rw [if_pos hself, if_pos hself]
    cases TypeExpr.parse parameter.signature <;> rfl
  · rw [if_neg hself, if_neg hself]
    cases TypeExpr.parse parameter.signature <;> rfl

theorem filter_eq_nil_of_kind {faults : List Fault} {kind : FaultKind}
    (h : ∀ fault ∈ faults, fault.kind = kind) (hkind : kind ≠ .selfReference) :
    faults.filter (·.kind = .selfReference) = [] := by
  rw [List.filter_eq_nil_iff]
  intro fault hfault
  rw [h fault hfault]
  simpa using hkind

theorem filter_flatten_mapIdx {α β : Type} {f : Nat → α → List β} {g : α → List β} {p : β → Bool}
    (h : ∀ index item, (f index item).filter p = g item) (items : List α) :
    (items.mapIdx f).flatten.filter p = items.flatMap g := by
  induction items generalizing f with
  | nil => rfl
  | cons item items ih =>
    rw [List.mapIdx_cons, List.flatten_cons, List.filter_append, h, List.flatMap_cons,
      ih fun index => h (index + 1)]

theorem flatMap_if_singleton {α β : Type} (p : α → Bool) (f : α → β) (items : List α) :
    (items.flatMap fun item => if p item then [f item] else []) = (items.filter p).map f := by
  induction items with
  | nil => rfl
  | cons item items ih =>
    rw [List.flatMap_cons, ih, List.filter_cons]
    split <;> rfl

/-- The check reports one fault of this kind for each parameter that refers to the holder. -/
theorem ofKind_selfReference (conventions : Conventions) (holder : Holder) :
    (holder.check conventions).value.ofKind .selfReference =
      (holder.parameters.filter holder.refersToSelf).map holder.selfFault := by
  change holder.faults.filter (·.kind = .selfReference) = _
  unfold faults
  have hshared : ∀ fault ∈ holder.shared.flatMap sharedFaults, fault.kind = .invalidSignature := by
    intro fault hfault
    obtain ⟨field, -, hfault⟩ := List.mem_flatMap.mp hfault
    exact kind_of_mem_sharedFaults hfault
  rw [List.filter_append, List.filter_append, List.filter_append, List.filter_append,
    filter_eq_nil_of_kind (fun _ => kind_of_mem_missingNames) (by decide),
    filter_eq_nil_of_kind (fun _ => kind_of_mem_classNameFaults) (by decide),
    filter_eq_nil_of_kind (fun _ => kind_of_mem_packageFaults) (by decide),
    filter_eq_nil_of_kind hshared (by decide), List.append_nil, List.nil_append, List.nil_append,
    List.nil_append, filter_flatten_mapIdx filter_parameterFaults, flatMap_if_singleton]

variable {conventions : Conventions} {type : TypeExpr}

theorem refersToSelf_iff (hclass : Name.simple holder.className ≠ "")
    (hinjected : parameter.injected) :
    holder.refersToSelf parameter ↔
      TypeExpr.erasedName parameter.signature = Name.simple holder.className := by
  simp [refersToSelf, hclass, hinjected]

theorem reportsSelfReference_iff (hclass : Name.simple holder.className ≠ "")
    (hmem : parameter ∈ holder.parameters) (hinjected : parameter.injected) :
    holder.ReportsSelfReference conventions parameter ↔
      TypeExpr.erasedName parameter.signature = Name.simple holder.className := by
  have hkind : holder.ReportsSelfReference conventions parameter ↔
      holder.selfFault parameter ∈ (holder.check conventions).value.ofKind .selfReference := by
    unfold ReportsSelfReference Report.ofKind
    rw [List.mem_filter]
    exact (and_iff_left (decide_eq_true rfl)).symm
  rw [hkind, ofKind_selfReference, ← refersToSelf_iff hclass hinjected]
  constructor
  · intro hfault
    obtain ⟨other, hother, hfault⟩ := List.mem_map.mp hfault
    obtain ⟨-, hrefers⟩ := List.mem_filter.mp hother
    obtain ⟨-, -, hsignature⟩ := Fault.selfReference.inj hfault
    have hotherInjected : other.injected := by
      unfold refersToSelf at hrefers
      simp only [Bool.and_eq_true] at hrefers
      exact hrefers.1.1
    rw [refersToSelf_iff hclass hotherInjected, hsignature] at hrefers
    exact (refersToSelf_iff hclass hinjected).mpr hrefers
  · intro hrefers
    exact List.mem_map_of_mem (List.mem_filter.mpr ⟨hmem, hrefers⟩)

/-- Without a parenthesis before the type arguments, the check goes by the class of the type. -/
theorem reportsSelfReference_iff_className? (hclass : Name.simple holder.className ≠ "")
    (hmem : parameter ∈ holder.parameters) (hinjected : parameter.injected)
    (hparse : TypeExpr.parse parameter.signature = .ok type)
    (hfront : '(' ∉ TypeExpr.frontText parameter.signature)
    (hmark : TypeExpr.HasAttachedMark parameter.signature) :
    holder.ReportsSelfReference conventions parameter ↔
      type.nonNull.className?.map Name.simple = some (Name.simple holder.className) := by
  obtain ⟨name, hname, herased⟩ := TypeExpr.exists_className?_of_parse hparse hfront hmark
  rw [reportsSelfReference_iff hclass hmem hinjected, herased, hname, Option.map_some,
    Option.some_inj]

/-- What a check reports of an injected parameter whose type can be read. Where a parenthesis stands
before the type arguments, the text has to end with a dot and the class there. Otherwise the type
has to be a simple or a generic type of the class, so that signatures of one type are judged alike;
a blank before a final question mark is left out there. -/
theorem reportsSelfReference_iff_of_parse (conventions : Conventions) (holder : Holder)
    (parameter : Parameter) (type : TypeExpr) (hclass : Name.simple holder.className ≠ "")
    (hmem : parameter ∈ holder.parameters) (hinjected : parameter.injected)
    (hparse : TypeExpr.parse parameter.signature = .ok type) :
    ('(' ∉ TypeExpr.frontText parameter.signature → TypeExpr.HasAttachedMark parameter.signature →
      (holder.ReportsSelfReference conventions parameter ↔
        type.nonNull.className?.map Name.simple = some (Name.simple holder.className)) ∧
      ∀ (others : Conventions) (otherHolder : Holder), ∀ other ∈ otherHolder.parameters,
        Name.simple otherHolder.className = Name.simple holder.className → other.injected →
        TypeExpr.parse other.signature = .ok type → TypeExpr.HasAttachedMark other.signature →
        '(' ∉ TypeExpr.frontText other.signature →
          (holder.ReportsSelfReference conventions parameter ↔
            otherHolder.ReportsSelfReference others other)) ∧
    ('(' ∈ TypeExpr.frontText parameter.signature → '(' ∉ (Name.simple holder.className).toList →
      (holder.ReportsSelfReference conventions parameter ↔
        '.' :: (Name.simple holder.className).toList <:+
          TypeExpr.dropQuestionMark (TypeExpr.frontText parameter.signature))) := by
  refine ⟨fun hfront hmark => ?_, fun hfront hname => ?_⟩
  · have hreports : holder.ReportsSelfReference conventions parameter ↔ _ :=
      reportsSelfReference_iff_className? hclass hmem hinjected hparse hfront hmark
    refine ⟨hreports, ?_⟩
    intro others otherHolder other hother hsame hotherInjected hotherParse hotherMark hotherFront
    have hotherClass : Name.simple otherHolder.className ≠ "" := by rwa [hsame]
    rw [hreports, reportsSelfReference_iff_className? hotherClass hother hotherInjected hotherParse
      hotherFront hotherMark, hsame]
  · rw [reportsSelfReference_iff hclass hmem hinjected]
    exact TypeExpr.erasedName_eq_iff_suffix hfront hname

/-- An injected parameter of a type. -/
def injectedOf (signature : String) : Parameter :=
  ⟨"self", signature, true, none⟩

/-- A holder of the class `Loop` with one injected parameter of a type. -/
def loopOn (signature : String) : Holder :=
  ⟨"Loop", "app", [injectedOf signature], [], true⟩

theorem reportsSelfReference_loop :
    (loopOn "app.Loop<Int>?").ReportsSelfReference {} (injectedOf "app.Loop<Int>?") ∧
      (loopOn " app.Loop<Int>?").ReportsSelfReference {} (injectedOf " app.Loop<Int>?") ∧
      (loopOn "() -> app.Loop").ReportsSelfReference {} (injectedOf "() -> app.Loop") := by
  have hwell : TypeExpr.WellFormed (.nullable (.generic "app.Loop" [.simple "Int"])) := by
    refine .nullable (.generic (by decide) (by simp) ?_) (by decide)
    intro arg harg _
    rw [List.mem_singleton.mp harg]
    exact .simple (by decide)
  have hparse : TypeExpr.parse "app.Loop<Int>?" =
      .ok (.nullable (.generic "app.Loop" [.simple "Int"])) := hwell.parse_render_normalize
  have hpadded : TypeExpr.parse " app.Loop<Int>?" =
      .ok (.nullable (.generic "app.Loop" [.simple "Int"])) :=
    TypeExpr.parse_of_derives
      (@TypeExpr.Derives.pad _ _ [' '] [] _ (TypeExpr.derives_of_parse hparse) rfl rfl)
  have hfunction : TypeExpr.parse "() -> app.Loop" =
      .ok (.function false [] (.simple "app.Loop")) := by
    have hresult : TypeExpr.WellFormed (.function false [] (.simple "app.Loop")) :=
      .function (by simp) fun _ => .simple (by decide)
    exact hresult.parse_render_normalize
  have hmark (signature : String) (h : (TypeExpr.frontText signature).getLast? ≠ some '?') :
      TypeExpr.HasAttachedMark signature := fun hlast => absurd hlast h
  obtain ⟨hclass, hsame⟩ := (reportsSelfReference_iff_of_parse {} (loopOn "app.Loop<Int>?")
    (injectedOf "app.Loop<Int>?") _ (by decide) List.mem_cons_self rfl hparse).1 (by decide)
      (hmark _ (by decide))
  have hreports := hclass.mpr rfl
  refine ⟨hreports, ?_, ?_⟩
  · exact (hsame {} (loopOn " app.Loop<Int>?") _ List.mem_cons_self rfl rfl hpadded
      (hmark _ (by decide)) (by decide)).mp hreports
  · exact ((reportsSelfReference_iff_of_parse {} (loopOn "() -> app.Loop")
      (injectedOf "() -> app.Loop") _ (by decide) List.mem_cons_self rfl hfunction).2 (by decide)
      (by decide)).mpr ⟨"() -> app".toList, by decide⟩

/-- A parenthesized class is missed, and a function that returns the class by its full name is taken
for it. -/
theorem reportsSelfReference_not_by_type :
    (¬∀ (conventions : Conventions) (holder : Holder) (parameter : Parameter) (type : TypeExpr),
      Name.simple holder.className ≠ "" → parameter ∈ holder.parameters → parameter.injected →
      TypeExpr.parse parameter.signature = .ok type →
      type.nonNull.className?.map Name.simple = some (Name.simple holder.className) →
        holder.ReportsSelfReference conventions parameter) ∧
    ¬∀ (conventions : Conventions) (holder : Holder) (parameter : Parameter) (type : TypeExpr),
      Name.simple holder.className ≠ "" → parameter ∈ holder.parameters → parameter.injected →
      TypeExpr.parse parameter.signature = .ok type →
      holder.ReportsSelfReference conventions parameter →
        type.nonNull.className?.map Name.simple = some (Name.simple holder.className) := by
  constructor
  · intro h
    have hparse : TypeExpr.parse "(Loop)" = .ok (.simple "Loop") := by
      have hname : TypeExpr.Derives .type "Loop".toList (.simple "Loop") :=
        .plain (TypeExpr.derives_render_name (by decide))
      exact TypeExpr.parse_of_derives (.plain (@TypeExpr.Derives.enclosed [] _ [] _ rfl rfl hname))
    have hreports := h {} (loopOn "(Loop)") (injectedOf "(Loop)") _ (by decide) List.mem_cons_self
      rfl hparse rfl
    rw [reportsSelfReference_iff (by decide) List.mem_cons_self rfl] at hreports
    exact absurd hreports (by decide)
  · intro h
    have hwell : TypeExpr.WellFormed (.function false [] (.simple "app.Loop")) :=
      .function (by simp) fun _ => .simple (by decide)
    have hparse : TypeExpr.parse "() -> app.Loop" = .ok (.function false [] (.simple "app.Loop")) :=
      hwell.parse_render_normalize
    have hclass := h {} (loopOn "() -> app.Loop") (injectedOf "() -> app.Loop") _ (by decide)
      List.mem_cons_self rfl hparse
      ((reportsSelfReference_iff (by decide) List.mem_cons_self rfl).mpr (by decide))
    cases hclass

end Holder

end HolderInjection
