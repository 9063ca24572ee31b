import HolderInjection.Proofs.TrimmedText
import HolderInjection.TypeExpr.Parser

/-!
# The grammar of type signatures

`Derives` is the grammar of signatures over characters, apart from any reader: blanks may stand
around every token, a qualified name and an arrow are one token each, and the word that makes a
function suspending is followed by a space. `Listed` is a comma-separated list of such texts.
-/

namespace HolderInjection.TypeExpr

/-- The phrases of the grammar. -/
inductive Phrase where
  | type
  | primary
  | argument
  | result
  deriving DecidableEq

/-- A list of texts, written with commas between them and blanks around them. -/
def Listed (texts : List (List Char)) (content : List Char) : Prop :=
  ∃ front tail, Text.isBlank front ∧ Text.isBlank tail ∧
    content = front ++ [','].intercalate texts ++ tail

/-- The word before a suspending function, with the space that belongs to it. -/
def wordOf (suspending : Bool) : List Char :=
  if suspending then "suspend ".toList else []

/-- The derivations of the grammar: a phrase, its text and the type it stands for. -/
inductive Derives : Phrase → List Char → TypeExpr → Prop where
  | name {name : String} {front tail : List Char} (hname : Name.isQualified name.toList)
      (hfront : Text.isBlank front) (htail : Text.isBlank tail) :
      Derives .primary (front ++ name.toList ++ tail) (simple name)
  -- Before a space, the base `suspend` is taken for the word of a function if there is an arrow.
  | generic {base : String} {front gap content tail : List Char}
      {args : List (List Char × TypeExpr)}
      (hbase : Name.isQualified base.toList) (hfront : Text.isBlank front) (hgap : Text.isBlank gap)
      (htail : Text.isBlank tail) (hne : args ≠ []) (hlisted : Listed (args.map (·.1)) content)
      (hargs : ∀ arg ∈ args, Derives .argument arg.1 arg.2)
      (hword : base = "suspend" → gap.head? = some ' ' → ¬['-', '>'] <:+: content) :
      Derives .primary (front ++ base.toList ++ gap ++ '<' :: content ++ '>' :: tail)
        (generic base (args.map (·.2)))
  | enclosed {front inner tail : List Char} {type : TypeExpr} (hfront : Text.isBlank front)
      (htail : Text.isBlank tail) (hinner : Derives .type inner type) :
      Derives .primary (front ++ '(' :: inner ++ ')' :: tail) type
  | plain {text : List Char} {type : TypeExpr} (h : Derives .primary text type) :
      Derives .type text type
  | nullable {text tail : List Char} {type : TypeExpr} (h : Derives .primary text type)
      (hmark : ¬type.isNullable) (htail : Text.isBlank tail) :
      Derives .type (text ++ '?' :: tail) (nullable type)
  | function {suspending : Bool} {front space content gap text : List Char}
      {params : List (List Char × TypeExpr)} {result : TypeExpr} (hfront : Text.isBlank front)
      (hspace : Text.isBlank space) (hgap : Text.isBlank gap)
      (hlisted : Listed (params.map (·.1)) content)
      (hparams : ∀ param ∈ params, Derives .type param.1 param.2)
      (hresult : Derives .result text result) :
      Derives .type
        (front ++ wordOf suspending ++ space ++ '(' :: content ++ ')' :: gap ++ '-' :: '>' :: text)
        (function suspending (params.map (·.2)) result)
  | star {front tail : List Char} (hfront : Text.isBlank front) (htail : Text.isBlank tail) :
      Derives .argument (front ++ '*' :: tail) wildcard
  | item {text : List Char} {type : TypeExpr} (h : Derives .type text type) :
      Derives .argument text type
  | unit {text : List Char} (h : String.ofList (Text.trim text) ∈ ["Unit", "kotlin.Unit"]) :
      Derives .result text unit
  | value {text : List Char} {type : TypeExpr}
      (hname : String.ofList (Text.trim text) ∉ ["Unit", "kotlin.Unit"])
      (h : Derives .type text type) : Derives .result text type

/-- Blanks around a phrase change nothing. -/
theorem Derives.pad {phrase : Phrase} {text front tail : List Char} {type : TypeExpr}
    (h : Derives phrase text type) (hfront : Text.isBlank front) (htail : Text.isBlank tail) :
    Derives phrase (front ++ text ++ tail) type := by
  induction h generalizing front tail with
  | @name name a b hname ha hb =>
    have hd := Derives.name hname (Text.isBlank_append hfront ha) (Text.isBlank_append hb htail)
    simpa only [List.append_assoc] using hd
  | @generic base a gap content b args hbase ha hgap hb hne hlisted hargs hword _ =>
    have hd := Derives.generic hbase (Text.isBlank_append hfront ha) hgap
      (Text.isBlank_append hb htail) hne hlisted hargs hword
    simpa only [List.append_assoc, List.cons_append] using hd
  | enclosed ha hb hinner _ =>
    have hd := Derives.enclosed (Text.isBlank_append hfront ha) (Text.isBlank_append hb htail)
      hinner
    simpa only [List.append_assoc, List.cons_append] using hd
  | plain _ ih => exact .plain (ih hfront htail)
  | @nullable text b type _ hmark hb ih =>
    have hprimary : Derives .primary (front ++ text ++ []) type := ih hfront rfl
    have hd := Derives.nullable hprimary hmark (Text.isBlank_append hb htail)
    simpa only [List.append_assoc, List.cons_append, List.append_nil] using hd
  | @function suspending a space content gap text params result ha hspace hgap hlisted hparams
      _ _ ih =>
    have hresult : Derives .result ([] ++ text ++ tail) result := ih rfl htail
    have hd := @Derives.function suspending _ _ _ _ _ _ _ (Text.isBlank_append hfront ha)
      hspace hgap hlisted hparams hresult
    simpa only [List.append_assoc, List.cons_append, List.nil_append] using hd
  | star ha hb =>
    have hd := Derives.star (Text.isBlank_append hfront ha) (Text.isBlank_append hb htail)
    simpa only [List.append_assoc, List.cons_append] using hd
  | item _ ih => exact .item (ih hfront htail)
  | unit h =>
    apply Derives.unit
    rwa [Text.trim_pad hfront htail]
  | value hname _ ih =>
    apply Derives.value _ (ih hfront htail)
    rwa [Text.trim_pad hfront htail]

theorem Derives.of_trim {phrase : Phrase} {text : List Char} {type : TypeExpr}
    (h : Derives phrase (Text.trim text) type) : Derives phrase text type := by
  obtain ⟨front, tail, hsplit, hfront, htail⟩ := Text.exists_trimWhile Text.isBlankChar text
  rw [hsplit]
  exact h.pad (List.all_eq_true.mpr hfront) (List.all_eq_true.mpr htail)

end HolderInjection.TypeExpr
