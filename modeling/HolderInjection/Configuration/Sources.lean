import HolderInjection.Configuration.Basic
import HolderInjection.Configuration.Numeral

/-!
# Sources of a configuration

The value of a setting is the one that is given explicitly, or else that of an environment
variable, or else the default. Only the value that counts is checked. All settings are read before
the configuration is refused, so that its problems are found at once.
-/

namespace HolderInjection.Configuration

/-- A setting of a configuration. -/
inductive Setting where
  | moduleSuffix
  | projectName
  | conventionalEnding
  | nameLimit
  | consumerBase
  | scopeType
  | outputPackage
  deriving DecidableEq, Repr

namespace Setting

def all : List Setting :=
  [moduleSuffix, projectName, conventionalEnding, nameLimit, consumerBase, scopeType,
    outputPackage]

def name : Setting → String
  | moduleSuffix => "module_suffix"
  | projectName => "project_name"
  | conventionalEnding => "conventional_suffix"
  | nameLimit => "max_parameter_name_length"
  | consumerBase => "consumer_base_type"
  | scopeType => "scope_type"
  | outputPackage => "output_package"

/-- The environment variable of a setting, in lower case. -/
def variableName (setting : Setting) : String :=
  "stateholder_" ++ setting.name

/-- The build option of a setting, if it has one. -/
def optionName? : Setting → Option String
  | moduleSuffix => some "stateholder.module.suffix"
  | projectName => some "project.name"
  | outputPackage => some "stateholder.output.package"
  | _ => none

end Setting

/-- A value as it is given for a setting. -/
inductive Raw where
  | text (content : String)
  /-- A number with so many decimal places. -/
  | number (mantissa : Int) (places : Nat)
  | boolean (truth : Bool)
  /-- Anything else, such as no value or a list. -/
  | other
  deriving DecidableEq, Repr

/-- What is wrong with a value, or with giving it. -/
inductive Cause where
  | notText
  | emptyText
  | notNumber
  | notWhole
  | notNumeral
  | notPositive
  | unknown
  | unchangeable
  deriving DecidableEq, Repr

structure Problem where
  /-- The name of the setting, as it is given. -/
  setting : String
  cause : Cause
  deriving DecidableEq, Repr

/-- What a configuration is made from. -/
structure Sources where
  explicit : List (String × Raw) := []
  environment : List (String × String) := []
  deriving DecidableEq, Repr

def Raw.toText : Raw → Except Cause String
  | text content => .ok content
  | _ => .error .notText

/-- The number of a value: a numeral counts, and so does a truth value as zero or one. -/
def Raw.toInteger : Raw → Except Cause Int
  | number mantissa places =>
    let unit := Int.ofNat (Nat.pow 10 places)
    if mantissa % unit = 0 then .ok (mantissa / unit) else .error .notWhole
  | boolean truth => .ok (if truth then 1 else 0)
  | text content =>
    match Numeral.integer? content.toList with
    | some value => .ok value
    | none => .error .notNumeral
  | other => .error .notNumber

def nonempty (content : String) : Except Cause { content : String // content ≠ "" } :=
  if h : content ≠ "" then .ok ⟨content, h⟩ else .error .emptyText

def positive (value : Int) : Except Cause { value : Int // 0 < value } :=
  if h : 0 < value then .ok ⟨value, h⟩ else .error .notPositive

namespace Sources

/-- The small letter of a capital, as far as it is one of `a` to `z`. The Kelvin sign is a capital
too. -/
def smallLetter (c : Char) : Char :=
  if c = '\u212A' then 'k' else c.toLower

/-- The value of the environment variable of a setting. Case does not matter in its name; of two
variables that differ only in case the later one counts. -/
def fromEnvironment? (sources : Sources) (setting : Setting) : Option String :=
  (sources.environment.reverse.find? fun entry =>
    entry.1.toList.map smallLetter = setting.variableName.toList).map (·.2)

def value? (sources : Sources) (setting : Setting) : Option Raw :=
  match sources.explicit.lookup setting.name with
  | some value => some value
  | none => (sources.fromEnvironment? setting).map .text

def read {α : Type} (sources : Sources) (setting : Setting) (absent : α)
    (convert : Raw → Except Cause α) : Except Problem α :=
  match sources.value? setting with
  | none => .ok absent
  | some value => (convert value).mapError fun cause => ⟨setting.name, cause⟩

/-- The problems of explicit values for which there is no setting. -/
def unknown (sources : Sources) : List Problem :=
  let isUnknown (entry : String × Raw) := !(Setting.all.map Setting.name).contains entry.1
  (sources.explicit.filter isUnknown).map fun entry => ⟨entry.1, .unknown⟩

def problems {α : Type} : Except Problem α → List Problem
  | .ok _ => []
  | .error problem => [problem]

/-- The configuration from its sources, or all its problems by the names of the settings. -/
def load (sources : Sources) : Except (List Problem) Configuration :=
  let default : Configuration := {}
  let text (setting : Setting) (absent : String) := sources.read setting absent Raw.toText
  let moduleSuffix := text .moduleSuffix default.moduleSuffix
  let projectName := text .projectName default.projectName
  let ending := sources.read .conventionalEnding
    ⟨default.conventionalEnding, default.conventionalEnding_ne⟩ (·.toText >>= nonempty)
  let limit := sources.read .nameLimit
    ⟨default.nameLimit, default.nameLimit_pos⟩ (·.toInteger >>= positive)
  let consumerBase := text .consumerBase default.consumerBase
  let scopeType := text .scopeType default.scopeType
  let outputPackage := text .outputPackage default.outputPackage
  match moduleSuffix, projectName, ending, limit, consumerBase, scopeType, outputPackage,
      sources.unknown with
  | .ok moduleSuffix, .ok projectName, .ok ending, .ok limit, .ok consumerBase, .ok scopeType,
      .ok outputPackage, [] =>
    .ok {
      moduleSuffix, projectName, consumerBase, scopeType, outputPackage
      conventionalEnding := ending.1
      nameLimit := limit.1
      conventionalEnding_ne := ending.2
      nameLimit_pos := limit.2 }
  | _, _, _, _, _, _, _, _ =>
    let found := problems moduleSuffix ++ problems projectName ++ problems ending ++
      problems limit ++ problems consumerBase ++ problems scopeType ++ problems outputPackage ++
      sources.unknown
    .error (found.mergeSort fun a b => decide (a.setting ≤ b.setting))

/-- The explicit values that are given as build options; other options mean nothing here. -/
def ofOptions (options : List (String × Raw)) : List (String × Raw) :=
  Setting.all.filterMap fun setting => do
    return (setting.name, ← options.lookup (← setting.optionName?))

end Sources

/-- A configuration is never changed: the problem of assigning to a setting. -/
def assign (_configuration : Configuration) (setting : String) : Problem :=
  ⟨setting, .unchangeable⟩

end HolderInjection.Configuration
