/-
Commands and how arguments make them up. The groups of a command's arguments are
taken one after the other, each of them changes one part of a draft, and a later
value of an option takes the place of an earlier one. The first fault decides,
and so does a request for help that comes before it.
-/
import SqlBind.CommandLine.Fault
import SqlBind.CommandLine.Group
import SqlBind.Dialect
import SqlBind.Text.Blank

namespace SqlBind.CommandLine

/-- What help is about. -/
inductive HelpTopic where
  | root
  | render
  | build
  deriving DecidableEq, Repr

/-- A template to be made a statement. -/
structure Render where
  sql : String
  /-- The document of the arguments. -/
  args : Option String
  /-- Whether numbered placeholders are shown too. -/
  numbered : Bool
  deriving DecidableEq, Repr

/-- A row to be written. -/
structure Build where
  kind : BuildKind
  table : String
  /-- The document of the row. -/
  row : String
  dialect : Dialect
  columns : Option String
  key : Option String
  unique : List String
  deriving DecidableEq, Repr

/-- What a command line asks for. -/
inductive Command where
  | help (topic : HelpTopic)
  | render (render : Render)
  | build (build : Build)
  deriving DecidableEq, Repr

/-- Why the arguments after a group are not looked at. -/
inductive Stop where
  | help
  | fault (fault : CommandFault)

namespace Render

/-- The options of the command. -/
inductive Setting where
  | sql
  | args

/-- The flags of the command. -/
inductive Switch where
  | numbered

/-- What the command knows. -/
def grammar : Grammar Setting Switch where
  options := [("--sql", .sql), ("--args", .args)]
  flags := [("--numbered", .numbered)]

/-- What is known of the template so far. -/
structure Draft where
  sql : Option String := none
  args : Option String := none
  numbered : Bool := false

/-- The draft after one more group. -/
def Draft.add (draft : Draft) : Group Setting Switch → Except Stop Draft
  | .help => .error .help
  | .flag .numbered => .ok { draft with numbered := true }
  | .option .sql value => .ok { draft with sql := some value }
  | .option .args value => .ok { draft with args := some value }
  | .incomplete option => .error (.fault (.valueMissing option))
  | .word arg => .error (.fault (.unknownArgument arg))

/-- The command that a draft makes, if nothing is missing. -/
def Draft.complete (draft : Draft) : Except Stop Render :=
  match draft.sql with
  | none => .error (.fault (.optionMissing "--sql"))
  | some sql => .ok { sql, args := draft.args, numbered := draft.numbered }

/-- The command of a list of arguments. -/
def ofArgs (args : List String) : Except Stop Render := do
  let draft ← (grammar.groups args).foldlM Draft.add {}
  draft.complete

end Render

namespace Build

/-- The options of the command. -/
inductive Setting where
  | table
  | row
  | dialect
  | columns
  | key
  | unique

/-- What the command knows; it has no flags. -/
def grammar : Grammar Setting Empty where
  options := [("--table", .table), ("--row", .row), ("--dialect", .dialect),
    ("--columns", .columns), ("--pk", .key), ("--unique", .unique)]
  flags := []

/-- What is known of the statement so far. -/
structure Draft where
  kind : Option BuildKind := none
  table : Option String := none
  row : Option String := none
  dialect : Dialect := .default
  columns : Option String := none
  key : Option String := none
  unique : List String := []

/-- The names in a list with commas between them, without blanks around them. -/
def names (list : String) : List String :=
  ((Text.split ',' list.toList).map fun piece => String.ofList (Text.trim piece)).filter (· ≠ "")

/-- The draft with another value of an option. -/
def Draft.put (draft : Draft) (setting : Setting) (value : String) : Except Stop Draft :=
  match setting with
  | .table => .ok { draft with table := some value }
  | .row => .ok { draft with row := some value }
  | .dialect =>
    match Dialect.ofName? value with
    | some dialect => .ok { draft with dialect }
    | none => .error (.fault (.unknownDialect value))
  | .columns => .ok { draft with columns := some value }
  | .key => .ok { draft with key := some value }
  | .unique => .ok { draft with unique := names value }

/-- The draft after one more group. The first argument without a dash is the kind
of statement. -/
def Draft.add (draft : Draft) : Group Setting Empty → Except Stop Draft
  | .help => .error .help
  | .option setting value => draft.put setting value
  | .incomplete option => .error (.fault (.valueMissing option))
  | .word arg =>
    if draft.kind.isSome || arg.toList.head? = some '-' then
      .error (.fault (.unknownArgument arg))
    else
      match BuildKind.ofWord? arg with
      | some kind => .ok { draft with kind := some kind }
      | none => .error (.fault (.unknownKind arg))

/-- The command that a draft makes, if nothing is missing. -/
def Draft.complete (draft : Draft) : Except Stop Build :=
  match draft.kind, draft.table, draft.row with
  | none, _, _ => .error (.fault .kindMissing)
  | _, none, _ => .error (.fault (.optionMissing "--table"))
  | _, _, none => .error (.fault (.optionMissing "--row"))
  | some kind, some table, some row =>
    if kind = .merge ∧ draft.unique = [] then .error (.fault .uniqueMissing)
    else
      .ok { kind, table, row, dialect := draft.dialect, columns := draft.columns,
            key := draft.key, unique := draft.unique }

/-- The command of a list of arguments. -/
def ofArgs (args : List String) : Except Stop Build := do
  let draft ← (grammar.groups args).foldlM Draft.add {}
  draft.complete

end Build

namespace Command

/-- A command, or the help that was asked for instead. -/
def orHelp {α : Type} (topic : HelpTopic) (command : α → Command) :
    Except Stop α → Except CommandFault Command
  | .ok a => .ok (command a)
  | .error .help => .ok (.help topic)
  | .error (.fault fault) => .error fault

/-- The command of the arguments after the program's name. -/
def ofArgs : List String → Except CommandFault Command
  | [] => .ok (.help .root)
  | first :: rest =>
    if isHelp first then .ok (.help .root)
    else if first = "render" then orHelp .render .render (Render.ofArgs rest)
    else if first = "build" then orHelp .build .build (Build.ofArgs rest)
    else .error (.unknownCommand first)

end Command
end SqlBind.CommandLine
