import HolderInjection.Proofs.FieldLookup
import HolderInjection.Proofs.NameCharacters
import HolderInjection.Proofs.PlannedConstructions
import HolderInjection.Proofs.QualifiedNames
import HolderInjection.Proofs.StringLiteral

/-!
# Names in literals

Some literals of the generated source have the name of a class or of a parameter in them, just as
it was declared. A class name cannot end its literal, but a dollar sign in it may refer to a value.
Of the name of a parameter it is only known that it is not blank.
-/

namespace HolderInjection

namespace Name

open Literal (IsClosed backtick)
open Text (isLineEnd isBlankChar)

/-- An identifier cannot end a literal, since there are no other marks in it than the underscore and
the dollar sign. -/
theorem isClosed_of_isIdentifier {name : List Char} (h : isIdentifier name) : IsClosed name := by
  have hpart := isIdentifierPart_of_mem h
  have hnot {c : Char} (hc : isIdentifierPart c = false) : c ∉ name := by
    intro hmem
    rw [hpart c hmem] at hc
    cases hc
  have hline (c : Char) (hmem : c ∈ name) : ¬isLineEnd c := by
    intro hend
    have hblank : isBlankChar c :=
      Text.of_inRanges (p := fun n => Text.inRanges n Text.blankRanges) (by decide) hend
    refine not_isBlankChar_of_isNameChar ?_ hblank
    rw [isNameChar, hpart c hmem, Bool.true_or]
  exact {
    quote := hnot (by decide)
    escape := hnot (by decide)
    line := hline
    brace := fun hpair => hnot (by decide) (hpair.subset (by decide : '{' ∈ ['$', '{']))
    backtick := fun hpair =>
      hnot (by decide) (hpair.subset (by decide : backtick ∈ ['$', backtick])) }

end Name

namespace Literal

open Text (Occurs IsInline)

def quoted (content : String) : String :=
  "\"" ++ content ++ "\""

/-- A literal of a source text in which a name stands between two fixed texts. A closed name does not
end it, whatever comes after the literal, and is shown as it is exactly if it is plain. -/
structure Quotes (source front name back : String) (others : List Glyph) : Prop where
  -- a name with several lines is broken by the margin of its literal
  occurs : (∀ c ∈ name.toList, ¬Text.isLineEnd c) → Occurs (quoted (front ++ name ++ back)) source
  reads : IsClosed name.toList → ∃ glyphs, glyphs.map Glyph.char = name.toList ∧
    (glyphs = shown name ↔ IsPlain name.toList) ∧
    Reads (front ++ name ++ back) (shown front ++ glyphs ++ others)

def consumerText : String :=
  " in $\x7bviewModel::class.simpleName\x7d"

def consumerGlyphs : List Glyph :=
  shown " in " ++ "$\x7bviewModel::class.simpleName\x7d".toList.map .hidden

theorem reads_consumerText : Reads consumerText consumerGlyphs :=
  fun _ => rfl

theorem occurs_quoted (before front name back after : String) :
    Occurs (quoted (front ++ name ++ back))
      (before ++ "\"" ++ front ++ name ++ (back ++ "\"" ++ after)) := by
  have hsplit : before ++ "\"" ++ front ++ name ++ (back ++ "\"" ++ after) =
      before ++ quoted (front ++ name ++ back) ++ after := by
    simp only [quoted, String.append_assoc]
  rw [hsplit]
  exact Occurs.append_right (Occurs.append_left List.infix_rfl before) after

theorem isInline_quoted {content : String} (h : ∀ c ∈ content.toList, ¬Text.isLineEnd c) :
    IsInline (quoted content).toList := by
  have hsplit : (quoted content).toList = '"' :: (content.toList ++ ['"']) := by
    rw [quoted, String.toList_append, String.toList_append]
    rfl
  rw [hsplit]
  refine ⟨List.cons_ne_nil _ _, fun c hc => ?_⟩
  rcases List.mem_cons.mp hc with rfl | hc
  · decide
  · rcases List.mem_append.mp hc with hc | hc
    · exact h c hc
    · rw [List.mem_singleton.mp hc]
      decide

theorem quotes_of_occurs {source front name back : String} {others : List Glyph}
    (hfront : front.toList.all isQuiet) (hback : back.toList.all (!Text.isLineEnd ·))
    (hnext : stops (back.toList.head?.or (some '"'))) (hothers : Reads back others)
    (h : IsInline (quoted (front ++ name ++ back)).toList →
      Occurs (quoted (front ++ name ++ back)) source) :
    Quotes source front name back others where
  occurs hname := by
    refine h (isInline_quoted fun c hc => ?_)
    rw [String.toList_append, String.toList_append] at hc
    rcases List.mem_append.mp hc with hc | hc
    · rcases List.mem_append.mp hc with hc | hc
      · exact (isQuiet_iff.mp (List.all_eq_true.mp hfront c hc)).2.2.2
      · exact hname c hc
    · simpa using List.all_eq_true.mp hback c hc
  reads hname := reads_around hfront hname hnext hothers

end Literal

namespace Plan

open Text (Occurs IsInline)

section

variable {part : String}

theorem occurs_construction {construction : Construction} {argument : Argument}
    (hmem : argument ∈ construction.arguments) (h : Occurs part argument.expression) :
    Occurs part construction.layout := by
  have hline : Occurs part argument.line := h.append_left _
  rw [Construction.layout, if_neg (List.ne_nil_of_mem hmem)]
  exact ((hline.intercalate _ (List.mem_map_of_mem hmem)).append_left _).append_right _

theorem occurs_branch {branch : Branch} (h : Occurs part branch.construction.layout) :
    Occurs part branch.layout := by
  unfold Branch.layout
  exact h.append_left _

theorem occurs_dispatch {factory : Factory} {branch : Branch} (hmem : branch ∈ factory.branches)
    (h : Occurs part branch.construction.layout) (hpart : IsInline part.toList) :
    Occurs part factory.dispatchLayout := by
  let line (branch : Branch) : String := Text.indent branch.layout ++ "\n"
  have hline : Occurs part (line branch) := ((occurs_branch h).indent hpart).append_right "\n"
  have hlines : Occurs part (String.join (factory.branches.map line)) :=
    hline.join (List.mem_map_of_mem hmem)
  unfold Factory.dispatchLayout
  exact ((((hlines.append_left _).append_right _).append_right _).append_right _)

/-- A factory has one construction for every consumer or one for each of its branches, and writes
all of them. -/
theorem occurs_body {factory : Factory} {construction : Construction}
    (hmem : construction ∈ factory.constructions)
    (honly : factory.construction = none ∨ factory.branches = [])
    (h : Occurs part construction.layout) (hpart : IsInline part.toList) :
    Occurs part factory.body := by
  unfold Factory.constructions at hmem
  unfold Factory.body
  cases hfactory : factory.construction with
  | some only =>
    have hbranches : factory.branches = [] := honly.resolve_left (by rw [hfactory]; nofun)
    rw [hfactory, hbranches] at hmem
    obtain rfl : construction = only := List.mem_singleton.mp hmem
    exact h
  | none =>
    rw [hfactory] at hmem
    obtain ⟨branch, hbranch, rfl⟩ := List.mem_map.mp hmem
    exact occurs_dispatch hbranch h hpart

theorem occurs_file {module : Module} {factory : Factory} (hmem : factory ∈ module.factories)
    (h : Occurs part factory.body) (hpart : IsInline part.toList) (package : String) :
    Occurs part (module.fileLayout package) := by
  let block (factory : Factory) : String := Text.indent factory.layout
  have hfactory : Occurs part factory.layout := by
    unfold Factory.layout
    exact ((h.indent hpart).append_left _).append_right _
  have hblocks : Occurs part ("\n\n".intercalate (module.factories.map block)) :=
    (hfactory.indent hpart).intercalate _ (List.mem_map_of_mem hmem)
  have hmodule : Occurs part (module.layout Source.Typing.declared.text) := by
    unfold Module.layout
    rw [if_neg (List.ne_nil_of_mem hmem)]
    exact ((hblocks.append_right _).append_left _).append_right _
  unfold Module.fileLayout
  exact (hmodule.append_left _).append_right _

theorem ofType_mode_ne (scopeType signature : String) :
    (Resolution.ofType scopeType signature).mode ≠ .missing := by
  unfold Resolution.ofType
  split
  · nofun
  · nofun
  · split <;> nofun
  · nofun

theorem expression_of_missing {scopeType : String} {table : Option FieldTable}
    {parameter : Parameter}
    (h : (Argument.ofParameter scopeType table parameter).value.mode = .missing) :
    parameter.injected ∧ (Argument.ofParameter scopeType table parameter).value.expression =
      "throw IllegalArgumentException(\"Missing parameter: " ++ parameter.name ++ "\")" := by
  rw [value_ofParameter, Resolution.ofParameter] at h ⊢
  by_cases hinjected : parameter.injected
  · rw [if_pos hinjected, ofInjected_eq] at h ⊢
    cases hfield : findIn table parameter.signature with
    | some field =>
      rw [hfield] at h
      cases h
    | none => exact ⟨hinjected, rfl⟩
  · rw [if_neg hinjected] at h
    exact absurd h (ofType_mode_ne scopeType parameter.signature)

theorem construction_or_branches (configuration : Configuration) (usage : Usage)
    (registration : Registration) :
    (Factory.ofRegistration configuration usage registration).value.construction = none ∨
      (Factory.ofRegistration configuration usage registration).value.branches = [] := by
  cases h : (Factory.ofRegistration configuration usage registration).value.construction with
  | none => exact .inl rfl
  | some construction => exact .inr (isSome_construction_iff.mp (Option.isSome_of_eq_some h))

theorem className_ofRegistration (configuration : Configuration) (usage : Usage)
    (registration : Registration) :
    (Factory.ofRegistration configuration usage registration).value.className =
      registration.className := by
  by_cases h : Dispatches usage registration
  · rw [factory_of_dispatches h]
  · rw [factory_of_not_dispatches h]

end

open Literal (Quotes quoted IsClosed consumerText consumerGlyphs)

/-- The literals that a source text has around names of a holder, in the factory of that holder. -/
structure QuotesNames (source : String) (holder : Holder) (factory : Factory) : Prop where
  className : factory.className = holder.className
  closed : IsClosed holder.className.toList
  dispatch : factory.dispatches →
    Quotes source "No mapping for " holder.className consumerText consumerGlyphs
  missing : ∀ construction ∈ factory.constructions, ∀ argument ∈ construction.arguments,
    argument.mode = .missing → ∃ parameter ∈ holder.parameters, parameter.injected ∧
      argument.name = parameter.name ∧ Name.isMissing parameter.name = false ∧
      argument.expression =
        "throw IllegalArgumentException(\"Missing parameter: " ++ parameter.name ++ "\")" ∧
      Quotes source "Missing parameter: " parameter.name "" []

theorem body_of_dispatches {factory : Factory} (h : factory.dispatches)
    (honly : factory.construction = none ∨ factory.branches = []) :
    factory.body = factory.dispatchLayout := by
  rw [Factory.dispatches, Bool.not_eq_true', List.isEmpty_eq_false_iff] at h
  rw [Factory.body, honly.resolve_right h]

theorem occurs_dispatchLayout (factory : Factory) :
    Occurs (quoted ("No mapping for " ++ factory.className ++ consumerText))
      factory.dispatchLayout := by
  have hquoted := Literal.occurs_quoted "    else -> throw IllegalArgumentException("
    "No mapping for " factory.className consumerText ")\n\x7d"
  have hopening : "    else -> throw IllegalArgumentException(" ++ "\"" ++ "No mapping for " =
      "    else -> throw IllegalArgumentException(\"No mapping for " := by decide
  have hclosing : consumerText ++ "\"" ++ ")\n\x7d" =
      " in $\x7bviewModel::class.simpleName\x7d\")\n\x7d" := by decide
  rw [hopening, hclosing] at hquoted
  unfold Factory.dispatchLayout
  simp only [String.append_assoc] at hquoted ⊢
  exact (hquoted.append_left _).append_left _

theorem occurs_missing (name : String) :
    Occurs (quoted ("Missing parameter: " ++ name ++ ""))
      ("throw IllegalArgumentException(\"Missing parameter: " ++ name ++ "\")") := by
  have hquoted := Literal.occurs_quoted "throw IllegalArgumentException(" "Missing parameter: "
    name "" ")"
  have hopening : "throw IllegalArgumentException(" ++ "\"" ++ "Missing parameter: " =
      "throw IllegalArgumentException(\"Missing parameter: " := by decide
  have hclosing : "" ++ "\"" ++ ")" = "\")" := by decide
  rw [hopening, hclosing] at hquoted
  exact hquoted

/-- The literals around the names of a holder occur in every file that has its factory. -/
theorem quotesNames_ofRegistration {configuration : Configuration} {usage : Usage} {ending : String}
    {holder : Holder} (haccepted : holder.Accepted) {module : Module} (package : String)
    (hmem : (Factory.ofRegistration configuration usage
      (Registration.ofHolder ending holder)).value ∈ module.factories) :
    QuotesNames (module.fileLayout package) holder
      (Factory.ofRegistration configuration usage (Registration.ofHolder ending holder)).value := by
  have honly := construction_or_branches configuration usage (Registration.ofHolder ending holder)
  have hname := className_ofRegistration configuration usage (Registration.ofHolder ending holder)
  refine ⟨hname, Name.isClosed_of_isIdentifier haccepted.identifier, fun hdispatches => ?_,
    fun construction hconstruction argument hargument hmode => ?_⟩
  · refine Literal.quotes_of_occurs (by decide) (by decide) (by decide)
      Literal.reads_consumerText fun hinline => ?_
    have hbody := body_of_dispatches hdispatches honly
    have hlayout := occurs_dispatchLayout
      (Factory.ofRegistration configuration usage (Registration.ofHolder ending holder)).value
    rw [← hbody, hname] at hlayout
    exact occurs_file hmem hlayout hinline package
  · obtain ⟨table, harguments⟩ := exists_arguments_eq hconstruction
    obtain ⟨parameter, hparameter, rfl⟩ := List.mem_map.mp (harguments ▸ hargument)
    obtain ⟨hinjected, hexpression⟩ := expression_of_missing hmode
    rw [parameters_ofHolder] at hparameter
    refine ⟨parameter, hparameter, hinjected, rfl, haccepted.parameterName parameter hparameter,
      hexpression, ?_⟩
    refine Literal.quotes_of_occurs (by decide) (by decide) (by decide) (fun _ => rfl)
      fun hinline => ?_
    have hwritten := occurs_construction hargument (hexpression ▸ occurs_missing parameter.name)
    exact occurs_file hmem (occurs_body hconstruction honly hwritten hinline) hinline package

end Plan

namespace Pass

variable {configuration : Configuration} {holders : List Holder} {consumers : List Consumer}

/-- The file of a pass has the literals of a plan with a factory for every enabled holder, in order.
A class name never ends the literal around it. The name of an injected parameter is only known not
to be blank, and ends no literal if it is closed. Either is shown as it is exactly if it is plain. -/
theorem run_quotes_names {result : Outcome} {file : GeneratedFile}
    (h : (run configuration holders consumers).result = .ok result)
    (hfile : result.file = some file) :
    ∃ plan,
      (Plan.plan configuration (usage holders consumers)
        (registered configuration holders)).result = .ok plan ∧
      (Source.fileText file.package plan).result = .ok file.text ∧
      List.Forall₂ (Plan.QuotesNames file.text) (holders.filter (·.enabled)) plan.factories := by
  obtain ⟨haccepted, rfl⟩ := eq_outcome_of_result_run h
  rw [outcome] at hfile
  cases hfirst : holders.find? (·.enabled) with
  | none =>
    rw [hfirst] at hfile
    cases hfile
  | some first =>
    rw [hfirst] at hfile
    obtain rfl : generated configuration holders consumers first = file := Option.some.inj hfile
    refine ⟨planned configuration holders consumers, result_plan configuration consumers haccepted,
      Source.result_fileText _ _, ?_⟩
    have hfactories := @factories_planned configuration holders consumers
    rw [hfactories]
    refine List.forall₂_map_right_iff.mpr (List.forall₂_same.mpr fun holder hholder => ?_)
    obtain ⟨hmem, henabled⟩ := List.mem_filter.mp hholder
    refine Plan.quotesNames_ofRegistration (accepted_of_not_refuses (haccepted holder hmem) henabled)
      _ ?_
    rw [hfactories]
    exact List.mem_map_of_mem hholder

open Literal (Reads quoted consumerText consumerGlyphs shown read isQuiet read_quiet)

theorem not_refuses_cart : ∀ holder ∈ [cart], refuses holder = false := by
  intro holder hmem
  rw [List.mem_singleton.mp hmem, refuses, Holder.faults_eq_nil_iff.mpr accepted_cart]
  rfl

theorem result_run_cart :
    (run {} [cart] [checkout]).result = .ok (outcome {} [cart] [checkout]) := by
  have hrefused : [cart].find? refuses = none := by simpa using not_refuses_cart
  rw [result_run, hrefused]

theorem run_quotes_names_cart :
    ∃ result file, (run {} [cart] [checkout]).result = .ok result ∧ result.file = some file ∧
      ∃ plan,
        (Plan.plan {} (usage [cart] [checkout]) (registered {} [cart])).result = .ok plan ∧
        (Source.fileText file.package plan).result = .ok file.text ∧
        List.Forall₂ (Plan.QuotesNames file.text) [cart] plan.factories :=
  ⟨_, _, result_run_cart, rfl, run_quotes_names result_run_cart rfl⟩

theorem refersTo_cart : checkout.RefersTo cart.qualifiedName :=
  ⟨_, List.mem_cons_self, _, TypeExpr.parse_name (by decide), .inl (by decide)⟩

theorem consumersOf_cart :
    (usage [cart] [checkout]).consumersOf cart.qualifiedName = [checkout.exposure] := by
  have hfilter : [checkout].filter (·.RefersTo cart.qualifiedName) = [checkout] := by
    rw [List.filter_singleton, decide_eq_true refersTo_cart]
    rfl
  have husage := Usage.consumersOf_ofHolders [checkout] (List.mem_singleton_self cart) rfl
  rw [Usage.search_eq, hfilter] at husage
  exact husage

theorem reads_cart : Reads ("No mapping for Cart$StateHolder" ++ consumerText)
    (shown "No mapping for Cart" ++ ("$StateHolder".toList.map .hidden ++ consumerGlyphs)) := by
  intro rest
  have hfront : "No mapping for Cart".toList.all isQuiet := by decide
  have hsplit : ("No mapping for Cart$StateHolder" ++ consumerText).toList =
      "No mapping for Cart".toList ++ ("$StateHolder" ++ consumerText).toList := by decide
  rw [hsplit, List.append_assoc, read_quiet hfront]
  rfl

/-- A pass refuses neither a class name that refers to a value in its literal nor the name of a
parameter that ends its literal early. -/
theorem run_refers_and_ends_early :
    ∃ result file plan factory,
      (run {} [cart] [checkout]).result = .ok result ∧ result.file = some file ∧
      (Plan.plan {} (usage [cart] [checkout]) (registered {} [cart])).result = .ok plan ∧
      (Source.fileText file.package plan).result = .ok file.text ∧
      plan.factories = [factory] ∧
      (factory.dispatches ∧ factory.className = "Cart$StateHolder" ∧
        Text.Occurs (quoted ("No mapping for " ++ factory.className ++ consumerText)) file.text ∧
        Reads ("No mapping for " ++ factory.className ++ consumerText)
          (shown "No mapping for Cart" ++
            ("$StateHolder".toList.map .hidden ++ consumerGlyphs))) ∧
      ∃ construction ∈ factory.constructions, ∃ argument ∈ construction.arguments,
        argument.mode = .missing ∧ argument.name = "it\"em" ∧
        Text.Occurs (quoted ("Missing parameter: " ++ argument.name)) file.text ∧
        ∀ rest, read .text ("Missing parameter: it\"em".toList ++ '"' :: rest) =
          some (shown "Missing parameter: it", 'e' :: 'm' :: '"' :: rest) := by
  let registration := Registration.ofHolder "StateHolder" cart
  let factory := (Plan.Factory.ofRegistration {} (usage [cart] [checkout]) registration).value
  have hfactories : (planned {} [cart] [checkout]).factories = [factory] := factories_planned
  have hdispatches : Plan.Dispatches (usage [cart] [checkout]) registration := by
    refine ⟨⟨_, List.mem_cons_self, rfl⟩, ?_⟩
    change (usage [cart] [checkout]).consumersOf cart.qualifiedName ≠ []
    rw [consumersOf_cart]
    exact List.cons_ne_nil _ _
  let table := FieldTable.ofExposure checkout.exposure
  let construction := (Plan.Construction.ofRegistration
    "kotlinx.coroutines.CoroutineScope" registration (some table)).value
  let item : Parameter := { name := "it\"em", signature := "shop.Item", injected := true }
  let argument := (Plan.Argument.ofParameter
    "kotlinx.coroutines.CoroutineScope" (some table) item).value
  have hconstruction : construction ∈ factory.constructions := by
    have htables : Plan.tables (usage [cart] [checkout]) registration = [some table] := by
      rw [Plan.tables, if_pos (Plan.dispatches_iff.mpr hdispatches)]
      exact congrArg (List.map fun exposure => some (FieldTable.ofExposure exposure))
        consumersOf_cart
    rw [Plan.constructions_ofRegistration, htables]
    exact List.mem_singleton_self construction
  have hargument : argument ∈ construction.arguments := by
    rw [Plan.arguments_ofRegistration]
    exact List.mem_singleton_self argument
  have hmode : argument.mode = .missing := by
    have hfind : Plan.findIn (some table) item.signature = none := by
      refine Option.eq_none_iff_forall_ne_some.mpr fun field hfound => ?_
      obtain ⟨shared, hmem, -⟩ :=
        FieldTable.exists_serves_of_find (TypeExpr.parse_name (by decide)) hfound
      cases hmem
    change (Plan.Resolution.ofInjected (some table) item.signature).mode = .missing
    rw [Plan.ofInjected_eq, hfind]
    rfl
  let file := generated {} [cart] [checkout] cart
  have hquotes : Plan.QuotesNames file.text cart factory := by
    refine Plan.quotesNames_ofRegistration accepted_cart file.package ?_
    rw [hfactories]
    exact List.mem_singleton_self factory
  have hbranches : factory.dispatches := Plan.dispatches_ofRegistration_iff.mpr hdispatches
  obtain ⟨parameter, hparameter, -, hname, -, -, hmissing⟩ :=
    hquotes.missing construction hconstruction argument hargument hmode
  refine ⟨_, file, planned {} [cart] [checkout], factory, result_run_cart, rfl,
    result_plan {} [checkout] not_refuses_cart, Source.result_fileText _ _, hfactories,
    ⟨hbranches, hquotes.className, ?_, ?_⟩,
    construction, hconstruction, argument, hargument, hmode, rfl, ?_, fun rest => rfl⟩
  · rw [hquotes.className]
    exact (hquotes.dispatch hbranches).occurs hquotes.closed.line
  · rw [hquotes.className]
    exact reads_cart
  · have hline : "it\"em".toList.all (!Text.isLineEnd ·) := by decide
    have hoccurs := hmissing.occurs fun c hc => by
      simpa using List.all_eq_true.mp hline c (by rwa [← hname] at hc)
    rw [String.append_empty, ← hname] at hoccurs
    exact hoccurs

end Pass

end HolderInjection
