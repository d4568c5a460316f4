/-
The four ways in which a statement's arguments are given, and the one canonical
statement that each of them makes of a template.
-/
import SqlBind.Scope
import SqlBind.Template.Expression
import SqlBind.Template.Named

namespace SqlBind

/-- The arguments of a template. -/
inductive Params where
  /-- None: the SQL is taken as it is. -/
  | none
  /-- One for each question mark. -/
  | positional (args : List Arg)
  /-- By name, for `:name` markers. -/
  | named (args : NamedArgs)
  /-- By evaluation, for expressions in braces. -/
  | evaluated (eval : String → Except DbError Arg)

namespace Params

/-- Expressions as paths into named arguments. -/
def ofScope (scope : NamedArgs) : Params := .evaluated (Scope.eval scope)

/-- The arguments that a document denotes: a list by position, an object by name. -/
def ofJson : Json → Except DbError Params
  | .null => .ok .none
  | .arr items => (Arg.ofJsonList items).map .positional
  | .obj members => (Arg.ofMembers members).map fun args => .named (.ofList args)
  | j =>
    .error (.unsupportedArgumentShape ("expected an array, an object or null, got " ++ j.compact))

end Params

/-- The canonical statement of a template and its arguments. -/
def normalize (template : String) : Params → Except DbError Statement
  | .none => .ok (.bare template)
  | .positional args => .ok ⟨template, args⟩
  | .named args => .ok (Template.Named.bind template args)
  | .evaluated eval => Template.Expression.bind template eval

end SqlBind
