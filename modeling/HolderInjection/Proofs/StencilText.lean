import HolderInjection.Source.Stencil

/-!
# The text of stencils

Every stencil is a well-formed template, and all values it names are given to it, so that it can
always be filled in. What comes out is a concatenation: a stencil never looks into the values.
-/

namespace HolderInjection

/-- Work that has come to a value goes on with it. -/
theorem ok_bind {α β ε : Type} (value : α) (next : α → Except ε β) :
    (Except.ok value : Except ε α) >>= next = next value :=
  rfl

/-- Work on the members of a list that never fails does not fail on the list. -/
theorem mapM_eq_ok {α β ε : Type} {work : α → Except ε β} {value : α → β}
    (h : ∀ item, work item = .ok (value item)) (items : List α) :
    items.mapM work = .ok (items.map value) := by
  rw [funext h]
  exact List.mapM_pure

namespace Template

/-- The tokens of a template, of which so many tags are looked for. -/
def tokensWithin (spacing : Spacing) : Nat → Bool → List Char → Except Problem (List Token)
  | 0, _, source => .ok (textToken source)
  | tags + 1, atLineStart, source =>
    match cutAtOpening? source with
    | none => .ok (textToken source)
    | some (before, kind, rest) =>
      match cutAtClosing? kind.closingMark rest with
      | none => .error (.unclosedTag kind)
      | some (inside, after) =>
        let expression := Text.trim inside
        if expression = [] then .error (.emptyTag kind)
        else
          let kept := keptAfter spacing kind after
          match tokensWithin spacing tags kept.2 kept.1 with
          | .error problem => .error problem
          | .ok tokens =>
            .ok (textToken (keptBefore spacing kind atLineStart before) ++
              kind.token expression :: tokens)

/-- There are no more tags than characters, so that it is enough to look for so many. -/
theorem tokensFrom_eq_tokensWithin {spacing : Spacing} {atLineStart : Bool} {source : List Char}
    {tags : Nat} (h : source.length ≤ tags) :
    tokensFrom spacing atLineStart source = tokensWithin spacing tags atLineStart source := by
  induction tags generalizing atLineStart source with
  | zero =>
    rw [List.eq_nil_of_length_eq_zero (Nat.le_zero.mp h), tokensFrom]
    rfl
  | succ tags ih =>
    rw [tokensFrom]
    split
    · rename_i hopen
      simp only [tokensWithin, hopen]
    · rename_i before kind rest hopen
      split
      · rename_i hclose
        simp only [tokensWithin, hopen, hclose]
      · rename_i inside after hclose
        have hshorter : (keptAfter spacing kind after).1.length ≤ tags := by
          have hkept := length_keptAfter_le spacing kind after
          have hsource := congrArg List.length (eq_of_cutAtOpening? hopen)
          have hrest := congrArg List.length (eq_of_cutAtClosing? hclose)
          simp only [List.length_append, List.length_cons] at hsource hrest
          omega
        cases htail : tokensWithin spacing tags (keptAfter spacing kind after).2
            (keptAfter spacing kind after).1 <;>
          simp only [tokensWithin, hopen, hclose, ih hshorter, htail]

theorem tokens_eq_tokensWithin (spacing : Spacing) (source : List Char) :
    tokens spacing source = tokensWithin spacing source.length true source :=
  tokensFrom_eq_tokensWithin (Nat.le_refl _)

end Template

namespace Source

open Template (Context Tree compile tokens_eq_tokensWithin)

/-! What the stencils are read as. -/

theorem compile_argumentStencil :
    compile {} argumentStencil =
      .ok (.insertion "name" (.text " = " (.insertion "expression" .done))) := by
  rw [compile, tokens_eq_tokensWithin, argumentStencil]
  simp only [String.reduceToList]
  rfl

theorem compile_constructionStencil :
    compile {} constructionStencil =
      .ok (.choice "arguments"
        (.insertion "class" (.text "(\n" (.insertion "arguments" (.text "\n)\n" .done))))
        (.insertion "class" (.text "()\n" .done)) .done) := by
  rw [compile, tokens_eq_tokensWithin, constructionStencil, ofLines, String.toList_intercalate]
  simp only [List.map_cons, List.map_nil, String.reduceToList]
  rfl

theorem compile_branchStencil :
    compile {} branchStencil =
      .ok (.text "is "
        (.insertion "consumer" (.text " -> " (.insertion "construction" .done)))) := by
  rw [compile, tokens_eq_tokensWithin, branchStencil]
  simp only [String.reduceToList]
  rfl

set_option maxRecDepth 1000 in
theorem compile_dispatchStencil :
    compile {} dispatchStencil =
      .ok (.text "when (viewModel) \x7b\n"
        (.loop "branch" "branches" (.insertion "branch" (.text "\n" .done))
          (.text "    else -> throw IllegalArgumentException(\"No mapping for "
            (.insertion "class"
              (.text " in $\x7bviewModel::class.simpleName\x7d\")\n\x7d" .done))))) := by
  rw [compile, tokens_eq_tokensWithin, dispatchStencil, ofLines, String.toList_intercalate]
  simp only [List.map_cons, List.map_nil, String.toList_append, String.reduceToList]
  rfl

set_option maxRecDepth 1000 in
theorem compile_factoryStencil :
    compile {} factoryStencil =
      .ok (.text "factory<" (.insertion "holder"
        (.text "> \x7b params ->\n    val viewModel = params.get<" (.insertion "consumer_base"
          (.text ">(0)\n    val scope = params.get<" (.insertion "scope_type"
            (.text ">(1)\n\n" (.insertion "body" (.text "\n\x7d" .done))))))))) := by
  rw [compile, tokens_eq_tokensWithin, factoryStencil, ofLines, String.toList_intercalate]
  simp only [List.map_cons, List.map_nil, String.reduceToList]
  rfl

theorem compile_moduleStencil :
    compile {} moduleStencil =
      .ok (.text "val " (.insertion "property"
        (.choice "type" (.text ": " (.insertion "type" .done)) .done
          (.text " = module \x7b\n"
            (.choice "factories" (.insertion "factories" (.text "\n" .done)) .done
              (.text "\x7d" .done)))))) := by
  rw [compile, tokens_eq_tokensWithin, moduleStencil, ofLines, String.toList_intercalate]
  simp only [List.map_cons, List.map_nil, String.reduceToList]
  rfl

theorem compile_fileStencil :
    compile {} fileStencil =
      .ok (.text "// @file:Suppress(\"UNUSED\")\npackage " (.insertion "package" (.text "\n\n"
        (.loop "type" "imports" (.text "import " (.insertion "type" (.text "\n" .done)))
          (.text "\n" (.insertion "module" .done)))))) := by
  rw [compile, tokens_eq_tokensWithin, fileStencil, ofLines, String.toList_intercalate]
  simp only [List.map_cons, List.map_nil, String.reduceToList]
  rfl

/-! What the stencils are filled in to. -/

theorem fill_eq_render {stencil : String} {tree : Tree} (h : compile {} stencil = .ok tree)
    (context : Context) : fill stencil context = tree.render context := by
  rw [fill, h]
  rfl

/-- A loop over texts is a join of what is made of the texts. -/
theorem render_loop {item items rest : String} {body next : Tree} {context : Context}
    {texts : List String} {line : String → String}
    (hitems : context.find items = .ok (.list (texts.map .text)))
    (hbody : ∀ text, body.render ((item, .text text) :: context) = .ok (line text))
    (hnext : next.render context = .ok rest) :
    (Tree.loop item items body next).render context =
      .ok (String.join (texts.map line) ++ rest) := by
  have hparts : ((texts.map Template.Value.text).mapM fun value =>
      body.render ((item, value) :: context)) = .ok (texts.map line) := by
    rw [List.mapM_map]
    exact mapM_eq_ok hbody texts
  rw [Tree.render, hitems, hnext]
  change ((texts.map Template.Value.text).mapM fun value =>
      body.render ((item, value) :: context)) >>= _ = _
  rw [hparts]
  rfl

/-- A choice by a text goes by whether the text is empty. -/
theorem render_choice {condition text y n rest : String} {yes no next : Tree} {context : Context}
    (hcondition : context.find condition = .ok (.text text))
    (hyes : yes.render context = .ok y) (hno : no.render context = .ok n)
    (hnext : next.render context = .ok rest) :
    (Tree.choice condition yes no next).render context =
      .ok ((if text = "" then n else y) ++ rest) := by
  rw [Tree.render, hcondition, hyes, hno, hnext]
  change (if (!text.isEmpty) = true then Except.ok (y ++ rest) else Except.ok (n ++ rest)) = _
  by_cases h : text = ""
  · rw [if_neg (by simp [h]), if_pos h]
  · rw [if_pos (by simp [h]), if_neg h]

theorem render_text {content rest : String} {next : Tree} {context : Context}
    (hnext : next.render context = .ok rest) :
    (Tree.text content next).render context = .ok (content ++ rest) := by
  rw [Tree.render, hnext]
  rfl

theorem render_insertion {name rest : String} {value : Template.Value} {next : Tree}
    {context : Context} (hvalue : context.find name = .ok value)
    (hnext : next.render context = .ok rest) :
    (Tree.insertion name next).render context = .ok (value.print ++ rest) := by
  rw [Tree.render, hvalue, hnext]
  rfl

theorem fill_argumentStencil (name expression : String) :
    fill argumentStencil [("name", .text name), ("expression", .text expression)] =
      .ok (name ++ " = " ++ expression) := by
  rw [fill_eq_render compile_argumentStencil]
  change Except.ok (name ++ (" = " ++ (expression ++ ""))) = _
  rw [String.append_empty, String.append_assoc]

theorem fill_constructionStencil (reference arguments : String) :
    fill constructionStencil [("class", .text reference), ("arguments", .text arguments)] =
      .ok (if arguments = "" then reference ++ "()\n"
        else reference ++ "(\n" ++ arguments ++ "\n)\n") := by
  rw [fill_eq_render compile_constructionStencil, render_choice rfl rfl rfl rfl]
  change Except.ok ((if arguments = "" then reference ++ ("()\n" ++ "")
    else reference ++ ("(\n" ++ (arguments ++ ("\n)\n" ++ "")))) ++ "") = _
  simp only [String.append_empty, String.append_assoc]

theorem fill_branchStencil (consumer construction : String) :
    fill branchStencil [("consumer", .text consumer), ("construction", .text construction)] =
      .ok ("is " ++ consumer ++ " -> " ++ construction) := by
  rw [fill_eq_render compile_branchStencil]
  change Except.ok ("is " ++ (consumer ++ (" -> " ++ (construction ++ "")))) = _
  simp only [String.append_empty, String.append_assoc]

theorem fill_dispatchStencil (className : String) (branches : List String) :
    fill dispatchStencil [("branches", .list (branches.map .text)), ("class", .text className)] =
      .ok ("when (viewModel) \x7b\n" ++ String.join (branches.map (· ++ "\n")) ++
        "    else -> throw IllegalArgumentException(\"No mapping for " ++ className ++
        " in $\x7bviewModel::class.simpleName\x7d\")\n\x7d") := by
  have hline (context : Context) (branch : String) :
      (Tree.insertion "branch" (.text "\n" .done)).render (("branch", .text branch) :: context) =
        .ok (branch ++ "\n") := by
    change Except.ok (branch ++ ("\n" ++ "")) = _
    rw [String.append_empty]
  rw [fill_eq_render compile_dispatchStencil, render_text (render_loop rfl (hline _) rfl)]
  change Except.ok (_ ++ (_ ++ (_ ++ (className ++ (_ ++ ""))))) = _
  simp only [String.append_empty, String.append_assoc]

theorem fill_factoryStencil (holder consumerBase scopeType body : String) :
    fill factoryStencil
        [("holder", .text holder), ("consumer_base", .text consumerBase),
          ("scope_type", .text scopeType), ("body", .text body)] =
      .ok ("factory<" ++ holder ++ "> \x7b params ->\n    val viewModel = params.get<" ++
        consumerBase ++ ">(0)\n    val scope = params.get<" ++ scopeType ++ ">(1)\n\n" ++ body ++
        "\n\x7d") := by
  rw [fill_eq_render compile_factoryStencil]
  change Except.ok (_ ++ (holder ++ (_ ++ (consumerBase ++ (_ ++ (scopeType ++
    (_ ++ (body ++ (_ ++ ""))))))))) = _
  simp only [String.append_empty, String.append_assoc]

theorem fill_moduleStencil (property type factories : String) :
    fill moduleStencil
        [("property", .text property), ("type", .text type), ("factories", .text factories)] =
      .ok ("val " ++ property ++ (if type = "" then "" else ": " ++ type) ++ " = module \x7b\n" ++
        (if factories = "" then "" else factories ++ "\n") ++ "\x7d") := by
  rw [fill_eq_render compile_moduleStencil,
    render_text (render_insertion rfl (render_choice rfl rfl rfl
      (render_text (render_choice rfl rfl rfl rfl))))]
  change Except.ok ("val " ++ (property ++ ((if type = "" then "" else ": " ++ (type ++ "")) ++
    (" = module \x7b\n" ++ ((if factories = "" then "" else factories ++ ("\n" ++ "")) ++
      ("\x7d" ++ "")))))) = _
  simp only [String.append_empty, String.append_assoc]

theorem fill_fileStencil (package module : String) (imports : List String) :
    fill fileStencil
        [("package", .text package), ("imports", .list (imports.map .text)),
          ("module", .text module)] =
      .ok ("// @file:Suppress(\"UNUSED\")\npackage " ++ package ++ "\n\n" ++
        String.join (imports.map ("import " ++ · ++ "\n")) ++ "\n" ++ module) := by
  have hline (context : Context) (type : String) :
      (Tree.text "import " (.insertion "type" (.text "\n" .done))).render
        (("type", .text type) :: context) = .ok ("import " ++ type ++ "\n") := by
    change Except.ok ("import " ++ (type ++ ("\n" ++ ""))) = _
    rw [String.append_empty, String.append_assoc]
  rw [fill_eq_render compile_fileStencil,
    render_text (render_insertion rfl (render_text (render_loop rfl (hline _) rfl)))]
  change Except.ok (_ ++ (package ++ (_ ++ (_ ++ (_ ++ (module ++ "")))))) = _
  simp only [String.append_empty, String.append_assoc]

end Source

end HolderInjection
