import HolderInjection.Template.Parser
import HolderInjection.Template.Render

/-!
# Stencils of source text

The generated source is put together from stencils, each a template of its own. A block tag on a
line of its own leaves no line behind.
-/

namespace HolderInjection.Source

open Template (Value Context Problem)

/-- A stencil of several lines. -/
def ofLines (lines : List String) : String :=
  "\n".intercalate lines

def fileStencil : String :=
  ofLines
    [r#"// @file:Suppress("UNUSED")"#,
      r"package {{ package }}",
      r"",
      r"{% for type in imports %}",
      r"import {{ type }}",
      r"{% endfor %}",
      r"",
      r"{{ module }}"]

/-- A module property, whose type may be left out. -/
def moduleStencil : String :=
  ofLines
    [r"val {{ property }}{% if type %}: {{ type }}{% endif %} = module {",
      r"{% if factories %}",
      r"{{ factories }}",
      r"{% endif %}",
      r"}"]

/-- A factory, which is handed the consumer and the scope. -/
def factoryStencil : String :=
  ofLines
    [r"factory<{{ holder }}> { params ->",
      r"    val viewModel = params.get<{{ consumer_base }}>(0)",
      r"    val scope = params.get<{{ scope_type }}>(1)",
      r"",
      r"{{ body }}",
      r"}"]

/-- A choice by the type of the consumer, which fails for a consumer of no given type. -/
def dispatchStencil : String :=
  ofLines
    [r"when (viewModel) {",
      r"{% for branch in branches %}",
      r"{{ branch }}",
      r"{% endfor %}",
      r#"    else -> throw IllegalArgumentException("No mapping for {{ class }} in "# ++
        r#"${viewModel::class.simpleName}")"#,
      r"}"]

/-- The case of one type of consumer. -/
def branchStencil : String :=
  r"is {{ consumer }} -> {{ construction }}"

/-- The call of a constructor, with every argument on a line of its own. -/
def constructionStencil : String :=
  ofLines
    [r"{% if arguments %}",
      r"{{ class }}(",
      r"{{ arguments }}",
      r")",
      r"{% else %}",
      r"{{ class }}()",
      r"{% endif %}"]

def argumentStencil : String :=
  r"{{ name }} = {{ expression }}"

def fill (stencil : String) (context : Context) : Except Problem String := do
  (← Template.compile {} stencil).render context

end HolderInjection.Source
