/-
The texts that explain the command line.
-/
import SqlBind.CommandLine.Command

namespace SqlBind.CommandLine.HelpTopic

/-- The lines of a help text. -/
def lines : HelpTopic → List String
  | root =>
    ["sqlrow - render SQL templates and build row statements",
      "",
      "USAGE:",
      "  sqlrow <COMMAND> [OPTIONS]",
      "",
      "COMMANDS:",
      "  render        Normalize a template into canonical SQL and arguments",
      "  build         Build an insert/update/delete/merge statement for one row",
      "",
      "Run `sqlrow <command> --help` for more."]
  | render =>
    ["USAGE:",
      "  sqlrow render --sql <SQL> [OPTIONS]",
      "",
      "OPTIONS:",
      "  --sql <SQL>           Template with ?, :name or \x7bexpr\x7d markers",
      "  --args <JSON>         Array (positional) or object (named / expression scope)",
      "  --numbered            Also print the SQL with $1, $2, ... placeholders",
      "  -h, --help            Print help"]
  | build =>
    ["USAGE:",
      "  sqlrow build <insert|update|delete|merge> --table <T> --row <JSON> [OPTIONS]",
      "",
      "OPTIONS:",
      "  --dialect <NAME>      oracle | postgres (default: postgres)",
      "  --columns <CSV>       Columns to write, optionally typed: a,b:INT,c:DATE",
      "  --pk <COLUMN>         Primary key column (default: id); with merge, kept out of the update",
      "  --unique <CSV>        Match columns for merge",
      "  -h, --help            Print help"]

/-- A help text, with every line ended. -/
def text (topic : HelpTopic) : String := String.join (topic.lines.map (· ++ "\n"))

end SqlBind.CommandLine.HelpTopic
