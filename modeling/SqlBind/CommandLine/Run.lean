/-
Commands carried out. A command answers the text that it prints: help, or the
canonical statement as a document.
-/
import SqlBind.CommandLine.Help
import SqlBind.Json.Read
import SqlBind.Params
import SqlBind.Write.Delete
import SqlBind.Write.Insert
import SqlBind.Write.Merge
import SqlBind.Write.Update

namespace SqlBind.CommandLine

/-- The document that is the value of an option. -/
def document (option text : String) : Except CommandFault Json :=
  match Json.parse? text with
  | some j => .ok j
  | none => .error (.notJson option)

/-- The arguments of a template. -/
def Render.params (render : Render) : Except CommandFault Params :=
  match render.args with
  | none => .ok .none
  | some text => do
    let j ← document "--args" text
    (Params.ofJson j).mapError .library

/-- The statement of a template, perhaps with numbered placeholders beside it. -/
def Render.run (render : Render) : Except CommandFault Json := do
  let params ← render.params
  let s ← (normalize render.sql params).mapError .library
  let numbered :=
    if render.numbered then [("numbered", Json.str (Placeholder.render s.sql))] else []
  .ok (.obj (s.toMembers ++ numbered))

/-- The statement that writes a row. On a merge the key is a protected column. -/
def Build.statement (build : Build) (row : Row) (columns : Option (List Column)) :
    Except DbError Statement :=
  let table := build.table
  let key := build.key
  match build.kind with
  | .insert => { table, row, columns, key : Insert }.build build.dialect
  | .update => { table, row, columns, key : Update }.build build.dialect
  | .delete => { table, row, key : Delete }.build
  | .merge =>
    { table, row, columns, unique := build.unique, protectedColumns := key.toList : Merge }.build
      build.dialect

/-- The statement of a row. -/
def Build.run (build : Build) : Except CommandFault Json := do
  let j ← document "--row" build.row
  let row ← (Row.ofJson j).mapError .library
  let columns ← (build.columns.mapM Column.parseList).mapError .library
  let s ← (build.statement row columns).mapError (.build build.kind build.table)
  .ok s.toJson

/-- What a command prints. -/
def Command.run : Command → Except CommandFault String
  | .help topic => .ok topic.text
  | .render command => command.run.map fun j => j.pretty ++ "\n"
  | .build command => command.run.map fun j => j.pretty ++ "\n"

/-- What the program prints for the arguments after its name. -/
def run (args : List String) : Except CommandFault String := do
  let command ← Command.ofArgs args
  command.run

end SqlBind.CommandLine
