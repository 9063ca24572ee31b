import HolderInjection.Proofs.StencilText
import HolderInjection.Proofs.TextParts
import HolderInjection.Source.File

/-!
# The layout of generated source

The text of a plan, put together without stencils. Every plan has one, whatever the names in it
are, and it is what the stencils are filled in to.
-/

namespace HolderInjection

namespace Plan

open Text (indent)

def Argument.line (argument : Argument) : String :=
  "    " ++ argument.name ++ " = " ++ argument.expression

def Construction.layout (construction : Construction) : String :=
  if construction.arguments = [] then construction.reference ++ "()"
  else construction.reference ++ "(\n" ++
    ",\n".intercalate (construction.arguments.map (·.line)) ++ "\n)"

def Branch.layout (branch : Branch) : String :=
  "is " ++ branch.consumer ++ " -> " ++ branch.construction.layout

def Factory.dispatchLayout (factory : Factory) : String :=
  "when (viewModel) \x7b\n" ++
    String.join (factory.branches.map fun branch => indent branch.layout ++ "\n") ++
    "    else -> throw IllegalArgumentException(\"No mapping for " ++ factory.className ++
    " in $\x7bviewModel::class.simpleName\x7d\")\n\x7d"

def Factory.body (factory : Factory) : String :=
  match factory.construction with
  | some construction => construction.layout
  | none => factory.dispatchLayout

def Factory.layout (factory : Factory) : String :=
  "factory<" ++ factory.qualifiedName ++ "> \x7b params ->\n    val viewModel = params.get<" ++
    factory.consumerBase ++ ">(0)\n    val scope = params.get<" ++ factory.scopeType ++
    ">(1)\n\n" ++ indent factory.body ++ "\n\x7d"

/-- The layout of a module property that declares a type, or none if the type is empty. -/
def Module.layout (type : String) (module : Module) : String :=
  "val " ++ module.property ++ (if type = "" then "" else ": " ++ type) ++ " = module \x7b\n" ++
    (if module.factories = [] then ""
      else
        "\n\n".intercalate (module.factories.map fun factory => indent factory.layout) ++ "\n") ++
    "\x7d"

def Module.fileLayout (package : String) (module : Module) : String :=
  "// @file:Suppress(\"UNUSED\")\npackage " ++ package ++ "\n\n" ++
    String.join ((Source.imports module).map fun type => "import " ++ type ++ "\n") ++ "\n" ++
    module.layout Source.Typing.declared.text ++ "\n"

end Plan

namespace Text

/-- A block that is not empty stays so when it is moved to the right. -/
theorem indent_ne_empty {block : String} (h : block ≠ "") : indent block ≠ "" := by
  intro hindent
  have hlines : indentWith margin.toList block.toList = [] := by
    rw [← String.toList_ofList (l := indentWith _ _)]
    exact congrArg String.toList hindent
  have hempty : ∀ line ∈ lines block.toList, line = [] := by
    intro line hline
    have hkept := List.flatMap_eq_nil_iff.mp hlines line hline
    split at hkept
    · exact hkept
    · exact (List.append_eq_nil_iff.mp hkept).2
  have hblock : block.toList = [] := by
    rw [← flatten_lines block.toList]
    exact List.flatten_eq_nil_iff.mpr hempty
  exact h (String.toList_eq_nil_iff.mp hblock)

end Text

/-- Texts that are not empty are joined to a text that is not, unless there are none. -/
theorem intercalate_eq_empty_iff {separator : String} {texts : List String}
    (h : ∀ text ∈ texts, text ≠ "") : separator.intercalate texts = "" ↔ texts = [] := by
  cases texts with
  | nil => exact iff_of_true String.intercalate_nil rfl
  | cons text rest =>
    refine iff_of_false (fun hjoin => ?_) (List.cons_ne_nil text rest)
    have hfirst : text = "" := by
      cases rest with
      | nil => rwa [String.intercalate_singleton] at hjoin
      | cons next rest =>
        rw [String.intercalate_cons_cons, String.append_assoc] at hjoin
        exact (String.append_eq_empty_iff.mp hjoin).1
    exact h text List.mem_cons_self hfirst

namespace Source

open Plan
open Template (Value)

theorem argumentText_eq (argument : Argument) :
    argumentText argument = .ok (argument.name ++ " = " ++ argument.expression) :=
  fill_argumentStencil argument.name argument.expression

/-- Only the line feed at the end is removed from a text. -/
theorem dropEndLineFeeds_append (text : String) :
    dropEndLineFeeds (text ++ ")\n") = text ++ ")" := by
  rw [← String.toList_inj, dropEndLineFeeds, String.toList_ofList, String.toList_append,
    Text.dropEndWhile, List.reverse_append, String.toList_append]
  change (((')' :: text.toList.reverse)).reverse : List Char) = _
  rw [List.reverse_cons, List.reverse_reverse]
  rfl

theorem line_ne_empty (argument : Argument) : argument.line ≠ "" := by
  intro h
  exact absurd (String.append_eq_empty_iff.mp (String.append_eq_empty_iff.mp h).1).2 (by decide)

theorem constructionText_eq (construction : Construction) :
    constructionText construction = .ok construction.layout := by
  have harguments := mapM_eq_ok argumentText_eq construction.arguments
  have hlines : (construction.arguments.map fun argument =>
      argument.name ++ " = " ++ argument.expression).map (Text.margin ++ ·) =
        construction.arguments.map (·.line) := by
    simp only [List.map_map, Function.comp_def, Argument.line, Text.margin, String.append_assoc]
  have hempty : ",\n".intercalate (construction.arguments.map (·.line)) = "" ↔
      construction.arguments = [] := by
    rw [intercalate_eq_empty_iff, List.map_eq_nil_iff]
    intro line hline
    obtain ⟨argument, -, rfl⟩ := List.mem_map.mp hline
    exact line_ne_empty argument
  rw [constructionText, harguments, ok_bind, hlines, fill_constructionStencil, ok_bind,
    Construction.layout]
  by_cases hnone : construction.arguments = []
  · rw [if_pos (hempty.mpr hnone), if_pos hnone]
    have hclose := dropEndLineFeeds_append (construction.reference ++ "(")
    rw [String.append_assoc, String.append_assoc] at hclose
    exact congrArg Except.ok hclose
  · rw [if_neg (mt hempty.mp hnone), if_neg hnone]
    have hclose := dropEndLineFeeds_append (construction.reference ++ "(\n" ++
      ",\n".intercalate (construction.arguments.map (·.line)) ++ "\n")
    rw [@String.append_assoc _ "\n", @String.append_assoc _ "\n"] at hclose
    exact congrArg Except.ok hclose

theorem branchText_eq (branch : Branch) : branchText branch = .ok branch.layout := by
  rw [branchText, constructionText_eq, ok_bind, fill_branchStencil, Branch.layout]

theorem dispatchText_eq (factory : Factory) :
    dispatchText factory = .ok factory.dispatchLayout := by
  have hvalues : ((factory.branches.map (·.layout)).map fun branch =>
      Value.text (Text.indent branch)) =
        (factory.branches.map fun branch => Text.indent branch.layout).map .text := by
    rw [List.map_map, List.map_map]
    rfl
  rw [dispatchText, mapM_eq_ok branchText_eq, ok_bind, hvalues, fill_dispatchStencil]
  unfold Factory.dispatchLayout
  simp only [List.map_map, Function.comp_def]

theorem factoryText_eq (factory : Factory) : factoryText factory = .ok factory.layout := by
  unfold factoryText Factory.layout Factory.body
  cases factory.construction with
  | some construction => simp only [constructionText_eq, ok_bind, fill_factoryStencil]
  | none => simp only [dispatchText_eq, ok_bind, fill_factoryStencil]

theorem layout_ne_empty (factory : Factory) : factory.layout ≠ "" := by
  intro h
  exact absurd (String.append_eq_empty_iff.mp h).2 (by decide)

theorem result_moduleText (typing : Typing) (module : Plan.Module) :
    (moduleText typing module).result = .ok (module.layout typing.text) := by
  have hempty : "\n\n".intercalate (module.factories.map fun factory =>
      Text.indent factory.layout) = "" ↔ module.factories = [] := by
    rw [intercalate_eq_empty_iff, List.map_eq_nil_iff]
    intro text htext
    obtain ⟨factory, -, rfl⟩ := List.mem_map.mp htext
    exact Text.indent_ne_empty (layout_ne_empty factory)
  have hindented : (module.factories.map (·.layout)).map Text.indent =
      module.factories.map fun factory => Text.indent factory.layout :=
    List.map_map
  simp only [moduleText, Attempt.result_bind, Attempt.result_ofExcept, Attempt.result_record,
    mapM_eq_ok factoryText_eq, ok_bind, hindented, fill_moduleStencil, Plan.Module.layout, hempty]

theorem result_fileText (package : String) (module : Plan.Module) :
    (fileText package module).result = .ok (module.fileLayout package) := by
  rw [fileText, Attempt.result_bind, result_moduleText, ok_bind, Attempt.result_bind,
    Attempt.result_ofExcept, fill_fileStencil]
  rfl

/-- The imports are the handed types that have a package, sorted, and then the types of the
container, each of them where it comes first. -/
theorem exists_imports_eq (module : Plan.Module) :
    ∃ handed : List String, handed.Pairwise (· ≤ ·) ∧
      handed.Perm ([module.consumerBase, module.scopeType].filter (·.toList.contains '.')) ∧
      imports module = (handed ++ containerImports).eraseDups := by
  let handed := [module.consumerBase, module.scopeType].filter (·.toList.contains '.')
  exact ⟨handed.mergeSort fun a b => decide (a ≤ b), Text.pairwise_mergeSort id handed,
    List.mergeSort_perm handed _, distinct_eq_eraseDups _⟩

/-- Every plan is written, whatever the names in it are, and its text is what is put together
directly. -/
theorem text_eq_layout :
    (∀ construction : Construction, constructionText construction = .ok construction.layout) ∧
    (∀ factory : Factory, factoryText factory = .ok factory.layout) ∧
    (∀ (typing : Typing) (module : Plan.Module),
      (moduleText typing module).result = .ok (module.layout typing.text)) ∧
    ∀ (package : String) (module : Plan.Module), ∃ handed : List String,
      handed.Pairwise (· ≤ ·) ∧
      handed.Perm ([module.consumerBase, module.scopeType].filter (·.toList.contains '.')) ∧
      (fileText package module).result =
        .ok ("// @file:Suppress(\"UNUSED\")\npackage " ++ package ++ "\n\n" ++
          String.join ((handed ++ ["org.koin.core.module.Module",
            "org.koin.dsl.module"]).eraseDups.map fun type => "import " ++ type ++ "\n") ++ "\n" ++
          module.layout "Module" ++ "\n") := by
  refine ⟨constructionText_eq, factoryText_eq, result_moduleText, fun package module => ?_⟩
  obtain ⟨handed, hsorted, hperm, himports⟩ := exists_imports_eq module
  refine ⟨handed, hsorted, hperm, ?_⟩
  have hdeclared : Typing.declared.text = "Module" := rfl
  rw [result_fileText]
  unfold Plan.Module.fileLayout
  rw [hdeclared, himports, containerImports]

end Source

end HolderInjection
