import HolderInjection.Configuration.Basic
import HolderInjection.Proofs.AcceptedHolder
import HolderInjection.Proofs.ErasedName
import HolderInjection.Proofs.FieldSearch
import HolderInjection.Proofs.HolderUsage

/-!
# Qualified names

A class is called by its package and its name, joined by a dot. The rules for packages, for classes,
for names of types and for erased names are given apart from each other. On a qualified name they
all agree, so that the consumers of a holder are told from those of any other. The names that a
configuration makes up keep the rules as far as what is given keeps them.
-/

namespace HolderInjection

namespace Name

open Text

theorem segments_append_cons (front rest : List Char) :
    segments (front ++ '.' :: rest) = segments front ++ segments rest :=
  pieces_append_cons rfl front rest

theorem isQualified_append_cons (front rest : List Char) :
    isQualified (front ++ '.' :: rest) = (isQualified front && isQualified rest) := by
  rw [isQualified, segments_append_cons, List.all_append]
  rfl

theorem isPackage_append_cons (front rest : List Char) :
    isPackage (front ++ '.' :: rest) = (isPackage front && isPackage rest) := by
  rw [isPackage, segments_append_cons, List.all_append]
  rfl

/-- The segments of packages are stricter than identifiers. -/
theorem isIdentifier_of_isPackageSegment {segment : List Char} (h : isPackageSegment segment) :
    isIdentifier segment := by
  cases segment with
  | nil => cases h
  | cons c rest =>
    obtain ⟨hletter, hrest⟩ := Bool.and_eq_true_iff.mp h
    refine Bool.and_eq_true_iff.mpr ⟨?_, List.all_eq_true.mpr fun d hd => ?_⟩
    · rw [isIdentifierStart, hletter, Bool.true_or]
    · rw [isIdentifierPart, List.all_eq_true.mp hrest d hd, Bool.true_or]

theorem isQualified_of_isPackage {name : List Char} (h : isPackage name) : isQualified name :=
  List.all_eq_true.mpr fun segment hmem =>
    isIdentifier_of_isPackageSegment (List.all_eq_true.mp h segment hmem)

theorem dot_not_mem_of_isIdentifier {name : List Char} (h : isIdentifier name) : '.' ∉ name :=
  fun hmem => absurd (isIdentifierPart_of_mem h '.' hmem) (by decide)

theorem isQualified_of_isIdentifier {name : List Char} (h : isIdentifier name) :
    isQualified name := by
  have hsegments : segments name = [name] := by
    refine pieces_eq_singleton fun c hc hdot => ?_
    rw [beq_iff_eq] at hdot
    exact dot_not_mem_of_isIdentifier h (hdot ▸ hc)
  rw [isQualified, hsegments, List.all_cons, h]
  rfl

theorem isMissing_eq_false_of_isQualified {name : String} (h : isQualified name.toList) :
    isMissing name = false := by
  obtain ⟨c, rest, hname⟩ := List.exists_cons_of_ne_nil (ne_nil_of_isQualified h)
  have hmem : c ∈ name.toList := by
    rw [hname]
    exact List.mem_cons_self
  rw [isMissing, isBlank, List.all_eq_false]
  exact ⟨c, hmem, not_isBlankChar_of_isNameChar (isNameChar_of_mem h c hmem)⟩

section Qualify

variable {package className : String} (hpackage : isPackage package.toList)

include hpackage

theorem toList_qualify :
    (qualify package className).toList = package.toList ++ '.' :: className.toList := by
  have hmissing := isMissing_eq_false_of_isQualified (isQualified_of_isPackage hpackage)
  rw [qualify, hmissing, if_neg Bool.false_ne_true, String.toList_append, String.toList_append]
  simp

variable (hclass : isIdentifier className.toList)

include hclass

theorem isQualified_qualify : isQualified (qualify package className).toList := by
  rw [toList_qualify hpackage, isQualified_append_cons, isQualified_of_isPackage hpackage,
    isQualified_of_isIdentifier hclass]
  rfl

theorem lastSegment_qualify : lastSegment (qualify package className).toList = className.toList := by
  rw [toList_qualify hpackage]
  exact lastSegment_append _ (dot_not_mem_of_isIdentifier hclass)

theorem simple_qualify : simple (qualify package className) = className := by
  rw [simple, lastSegment_qualify hpackage hclass, String.ofList_toList]

/-- A package and a class are told from the qualified name. -/
theorem eq_of_qualify_eq {other otherClass : String} (hother : isPackage other.toList)
    (hotherClass : isIdentifier otherClass.toList)
    (h : qualify other otherClass = qualify package className) :
    other = package ∧ otherClass = className := by
  have hnames : otherClass = className := by
    rw [← simple_qualify hother hotherClass, h, simple_qualify hpackage hclass]
  have hlists := congrArg String.toList h
  rw [toList_qualify hother, toList_qualify hpackage, hnames] at hlists
  exact ⟨String.toList_inj.mp (List.append_cancel_right hlists), hnames⟩

end Qualify

theorem lt_of_isAlphanum {c : Char} (h : c.isAlphanum) : c.toNat < 128 := by
  have hranges : ((65 ≤ c.toNat ∧ c.toNat ≤ 90) ∨ 97 ≤ c.toNat ∧ c.toNat ≤ 122) ∨
      48 ≤ c.toNat ∧ c.toNat ≤ 57 := by
    change ((decide (c.val ≥ 65 ∧ c.val ≤ 90) || (decide (c.val ≥ 97) && decide (c.val ≤ 122))) ||
      (decide (c.val ≥ 48) && decide (c.val ≤ 57))) = true at h
    simpa [UInt32.le_iff_toNat_le] using h
  omega

theorem isIdentifierPart_sanitizeChar (c : Char) : isIdentifierPart (sanitizeChar c) := by
  have hascii : ∀ n < 128, (Char.ofNat n).isAlphanum → isIdentifierPart (Char.ofNat n).toLower := by
    decide +kernel
  unfold sanitizeChar
  split
  · rename_i halphanum
    have hchar := hascii c.toNat (lt_of_isAlphanum halphanum)
    rw [Char.ofNat_toNat] at hchar
    exact hchar halphanum
  · decide

theorem all_sanitize (text : List Char) : (sanitize text).all isIdentifierPart := by
  cases text with
  | nil => rfl
  | cons c text =>
    have hfirst : isIdentifierPart (if c.isDigit then '_' else sanitizeChar c) := by
      split
      · decide
      · exact isIdentifierPart_sanitizeChar c
    rw [sanitize, List.all_cons, hfirst, List.all_map, Bool.true_and, List.all_eq_true]
    exact fun d _ => isIdentifierPart_sanitizeChar d
end Name

namespace TypeExpr

theorem erasedName_of_isQualified {name : String} (h : Name.isQualified name.toList) :
    erasedName name = Name.simple name := by
  have hsplit : name.toList = [] ++ name.toList ++ [] := by rw [List.nil_append, List.append_nil]
  exact erasedName_of_frontText h (frontText_name hsplit h rfl rfl)

theorem parse_marked_name {name : String} (h : Name.isQualified name.toList) :
    parse (name ++ "?") = .ok (nullable (simple name)) :=
  (WellFormed.nullable (WellFormed.simple h) Bool.false_ne_true).parse_render_normalize

/-- Whether a signature is a name, the name with a question mark, or a generic type, nullable or not,
with the name for its first argument. -/
inductive Declares (name : String) : String → Prop where
  | named : Declares name name
  | marked : Declares name (name ++ "?")
  | applied {signature base : String} {type first : TypeExpr} {rest : List TypeExpr}
      (hparse : parse signature = .ok type) (htype : type.nonNull = generic base (first :: rest))
      (hfirst : first.nonNull = simple name) : Declares name signature

/-- A property that is declared with a name refers to no other name. -/
theorem Declares.mentions_iff {name signature : String} (h : Declares name signature)
    (hname : Name.isQualified name.toList) (other : String) :
    (parse? signature).any (·.mentions other) ↔ other = name := by
  have hmentions {type : TypeExpr} (hparse : parse signature = .ok type) :
      (parse? signature).any (·.mentions other) ↔ type.RefersTo other := by
    rw [parse?_eq_some_iff.mpr hparse, Option.any_some]
    exact (wellFormed_of_parse hparse).mentions_iff other
  cases h with
  | named =>
    rw [hmentions (parse_name hname), RefersTo]
    simp [nonNull, eq_comm]
  | marked =>
    rw [hmentions (parse_marked_name hname), RefersTo]
    simp [nonNull, eq_comm]
  | @applied _ base type first rest hparse htype hfirst =>
    rw [hmentions hparse, RefersTo, htype]
    simp [hfirst, eq_comm]

end TypeExpr

namespace Consumer

/-- A property that does not refer to a holder does not make its class a consumer of the holder. -/
theorem uses_eq_of_not_mentions {consumer : Consumer} {before after : List String}
    {signature holder : String} (hproperty : consumer.propertyTypes = before ++ signature :: after)
    (h : ¬(TypeExpr.parse? signature).any (·.mentions holder)) :
    consumer.uses holder = { consumer with propertyTypes := before ++ after }.uses holder := by
  rw [Bool.not_eq_true] at h
  unfold uses
  rw [hproperty, List.any_append, List.any_append, List.any_cons, h, Bool.false_or]

end Consumer

/-- What the readers of names make of the qualified name of a class. -/
structure ReadAs (package className name : String) : Prop where
  type : TypeExpr.parse name = .ok (.simple name)
  simple : Name.simple name = className
  erased : TypeExpr.erasedName name = className
  /-- No other class has the name. -/
  unique : ∀ other otherClass, Name.isPackage other.toList → Name.isIdentifier otherClass.toList →
    Name.qualify other otherClass = name → other = package ∧ otherClass = className

/-- Whether the package and the class of a holder are named by the rules for names. -/
structure Holder.WellNamed (holder : Holder) : Prop where
  package : Name.isPackage holder.package.toList
  className : Name.isIdentifier holder.className.toList

/-- The holders in which a check finds no faults are well named. -/
theorem Holder.wellNamed_of_check {holder : Holder} {conventions : Conventions}
    (h : (holder.check conventions).value.faults = []) : holder.WellNamed :=
  have haccepted : holder.Accepted := faults_eq_nil_iff.mp h
  ⟨haccepted.packageName, haccepted.identifier⟩

/-- What a usage that goes by qualified names tells about holders. -/
structure TellsApart (holders : List Holder) (consumers : List Consumer) (usage : Usage) : Prop where
  keys : usage.map (·.1) = distinct (holders.map (·.qualifiedName))
  apart : ∀ holder ∈ holders, ∀ other ∈ holders, other.qualifiedName = holder.qualifiedName →
    other.package = holder.package ∧ other.className = holder.className
  exposures : ∀ holder ∈ holders, usage.consumersOf holder.qualifiedName =
    (consumers.filter (·.uses holder.qualifiedName)).map (·.exposure)
  /-- A class with a property that is declared with the name of a holder is a consumer of it. -/
  listed : ∀ holder ∈ holders, ∀ consumer ∈ consumers, ∀ signature ∈ consumer.propertyTypes,
    TypeExpr.Declares holder.qualifiedName signature →
      consumer.exposure ∈ usage.consumersOf holder.qualifiedName
  /-- The property is no reason for the class to be a consumer of another holder. -/
  others : ∀ holder ∈ holders, ∀ other : Holder, other.WellNamed →
    (other.package, other.className) ≠ (holder.package, holder.className) →
    ∀ (consumer : Consumer) (before after : List String) (signature : String),
      consumer.propertyTypes = before ++ signature :: after →
      TypeExpr.Declares holder.qualifiedName signature →
      consumer.uses other.qualifiedName =
        { consumer with propertyTypes := before ++ after }.uses other.qualifiedName

theorem readAs_qualify {package className : String} (hpackage : Name.isPackage package.toList)
    (hclass : Name.isIdentifier className.toList) :
    ReadAs package className (Name.qualify package className) where
  type := TypeExpr.parse_name (Name.isQualified_qualify hpackage hclass)
  simple := Name.simple_qualify hpackage hclass
  erased := by
    rw [TypeExpr.erasedName_of_isQualified (Name.isQualified_qualify hpackage hclass),
      Name.simple_qualify hpackage hclass]
  unique := fun _ _ hother hotherClass => Name.eq_of_qualify_eq hpackage hclass hother hotherClass

/-- The package of the generated file is named by the rules for packages, if it is not given. -/
theorem Configuration.isPackage_packageFor (configuration : Configuration) {holder : Holder}
    (hpackage : Name.isPackage holder.package.toList)
    (hmissing : Name.isMissing configuration.outputPackage) :
    Name.isPackage (configuration.packageFor holder).toList := by
  have hending : ".generated".toList = '.' :: "generated".toList := by simp
  have hgenerated : Name.isPackage "generated".toList = true := by decide
  rw [packageFor, if_pos hmissing, String.toList_append, hending, Name.isPackage_append_cons,
    hpackage, hgenerated]
  rfl

/-- The name of the module property is an identifier, unless a suffix makes it something else. -/
theorem Configuration.isIdentifier_propertyName_iff (configuration : Configuration) :
    Name.isIdentifier configuration.propertyName.toList ↔
      Name.isMissing configuration.moduleSuffix ∨
        configuration.moduleSuffix.toList.all Name.isIdentifierPart := by
  have hstem (ending : String) : Name.isIdentifier (propertyStem ++ "_" ++ ending).toList =
      ending.toList.all Name.isIdentifierPart := by
    have hfront : "tateHolderModule_".toList.all Name.isIdentifierPart = true := by decide
    have hsplit : (propertyStem ++ "_" ++ ending).toList =
        's' :: ("tateHolderModule_".toList ++ ending.toList) := by
      rw [String.toList_append]
      rfl
    have hstart : Name.isIdentifierStart 's' = true := by decide
    rw [hsplit, Name.isIdentifier, hstart, List.all_append, hfront, Bool.true_and, Bool.true_and]
  unfold propertyName
  by_cases hsuffix : Name.isMissing configuration.moduleSuffix
  · refine iff_of_true ?_ (.inl hsuffix)
    rw [if_neg (by simpa using hsuffix)]
    split
    · rw [hstem, String.toList_ofList]
      exact Name.all_sanitize _
    · decide
  · rw [if_pos (by simpa using hsuffix), hstem, or_iff_right hsuffix]
namespace Usage

theorem keys_ofHolders (holders : List Holder) (consumers : List Consumer) :
    (ofHolders holders consumers).value.map (·.1) =
      distinct ((holders.filter (·.enabled)).map (·.qualifiedName)) := by
  unfold ofHolders
  rw [Logged.value_bind, Logged.value_pure, Logged.value_mapM, map_distinctOn, List.map_map]
  congr 1
  exact List.map_id _

theorem tellsApart_ofHolders {holders : List Holder} (consumers : List Consumer)
    (h : ∀ holder ∈ holders, holder.enabled ∧ holder.WellNamed) :
    TellsApart holders consumers (ofHolders holders consumers).value := by
  have hqualified (holder : Holder) (hnamed : holder.WellNamed) :
      Name.isQualified holder.qualifiedName.toList :=
    Name.isQualified_qualify hnamed.package hnamed.className
  have hunique (holder other : Holder) (hnamed : holder.WellNamed) (hother : other.WellNamed) :
      other.qualifiedName = holder.qualifiedName →
        other.package = holder.package ∧ other.className = holder.className :=
    Name.eq_of_qualify_eq hnamed.package hnamed.className hother.package hother.className
  have hexposures (holder : Holder) (hmem : holder ∈ holders) :=
    consumersOf_ofHolders consumers hmem (h holder hmem).1
  refine ⟨?_, ?_, hexposures, ?_, ?_⟩
  · rw [keys_ofHolders, List.filter_eq_self.mpr fun holder hmem => (h holder hmem).1]
  · exact fun holder hmem other hother =>
      hunique holder other (h holder hmem).2 (h other hother).2
  · intro holder hmem consumer hconsumer signature hsignature hdeclares
    have hmentions := (hdeclares.mentions_iff (hqualified holder (h holder hmem).2) _).mpr rfl
    have huses : consumer.uses holder.qualifiedName :=
      List.any_eq_true.mpr ⟨signature, hsignature, hmentions⟩
    rw [hexposures holder hmem]
    exact List.mem_map_of_mem (List.mem_filter.mpr ⟨hconsumer, huses⟩)
  · intro holder hmem other hother hne consumer before after signature hproperty hdeclares
    refine Consumer.uses_eq_of_not_mentions hproperty fun hmentions => hne ?_
    have hsame := (hdeclares.mentions_iff (hqualified holder (h holder hmem).2) _).mp hmentions
    obtain ⟨hpackage, hclass⟩ := hunique holder other (h holder hmem).2 hother hsame
    rw [hpackage, hclass]

end Usage

/-- The rules for packages, for classes, for types and for erased names agree on the name of a class
in a package. -/
theorem qualified_names_agree :
    (∀ package className, Name.isPackage package.toList → Name.isIdentifier className.toList →
      ReadAs package className (Name.qualify package className)) ∧
    (∀ (holder : Holder) (conventions : Conventions),
      (holder.check conventions).value.faults = [] → holder.WellNamed) ∧
    (∀ holders consumers, (∀ holder ∈ holders, holder.enabled ∧ holder.WellNamed) →
      TellsApart holders consumers (Usage.ofHolders holders consumers).value) ∧
    ∀ (configuration : Configuration) (holder : Holder), Name.isPackage holder.package.toList →
      Name.isMissing configuration.outputPackage →
      configuration.packageFor holder = holder.package ++ ".generated" ∧
        Name.isPackage (configuration.packageFor holder).toList := by
  refine ⟨fun _ _ => readAs_qualify, fun _ _ => Holder.wellNamed_of_check,
    fun _ consumers => Usage.tellsApart_ofHolders consumers, ?_⟩
  intro configuration holder hpackage hmissing
  exact ⟨if_pos hmissing, configuration.isPackage_packageFor hpackage hmissing⟩

/-- A holder whose names mean something else within string literals. -/
def cart : Holder :=
  { className := "Cart$StateHolder"
    package := "shop"
    parameters := [{ name := "it\"em", signature := "shop.Item", injected := true }] }

/-- A consumer of carts that shares nothing. -/
def checkout : Consumer :=
  { className := "Checkout", package := "shop", propertyTypes := ["shop.Cart$StateHolder"] }

theorem accepted_cart : cart.Accepted where
  className := by decide
  package := by decide
  identifier := by decide
  packageName := by decide
  parameterName := by decide
  parameterType := by
    intro parameter hmem
    rw [List.mem_singleton.mp hmem]
    exact ⟨_, TypeExpr.parse_name (by decide)⟩
  notSelf := by decide
  sharedType := nofun

theorem qualified_names_agree_cart :
    ReadAs "shop" "Cart$StateHolder" "shop.Cart$StateHolder" ∧
      TellsApart [cart] [checkout] (Usage.ofHolders [cart] [checkout]).value ∧
      checkout.exposure ∈
        (Usage.ofHolders [cart] [checkout]).value.consumersOf "shop.Cart$StateHolder" ∧
      Name.isPackage "shop.generated".toList := by
  obtain ⟨hread, hchecked, htells, hpackage⟩ := qualified_names_agree
  have hnamed : cart.WellNamed := hchecked cart {} (Holder.faults_eq_nil_iff.mpr accepted_cart)
  have hapart := htells [cart] [checkout] (by simp [hnamed]; rfl)
  have hdeclares : TypeExpr.Declares cart.qualifiedName "shop.Cart$StateHolder" := .named
  refine ⟨hread "shop" "Cart$StateHolder" hnamed.package hnamed.className, hapart, ?_, ?_⟩
  · exact hapart.listed cart List.mem_cons_self checkout List.mem_cons_self _
      List.mem_cons_self hdeclares
  · exact (hpackage {} cart hnamed.package (by decide)).2

end HolderInjection
