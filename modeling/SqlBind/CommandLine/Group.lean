/-
Command line arguments in groups. An option and its value are one group, whether
they are written as two arguments or as one with an equals sign between them, so
that what follows never depends on the spelling.
-/
namespace SqlBind.CommandLine

/-- What a command knows: options, which take a value, and flags. -/
structure Grammar (ο φ : Type) where
  options : List (String × ο)
  flags : List (String × φ)

/-- A group of arguments. -/
inductive Group (ο φ : Type) where
  /-- A request for help. -/
  | help
  | flag (name : φ)
  | option (name : ο) (value : String)
  /-- An option at the end, where its value is missing. -/
  | incomplete (name : String)
  /-- Anything else. -/
  | word (text : String)

/-- Whether an argument asks for help. -/
def isHelp (arg : String) : Bool := arg = "-h" || arg = "--help"

namespace Grammar

variable {ο φ : Type}

/-- How an argument names an option: alone, or with a value behind it. -/
inductive Named (ο : Type) where
  | alone (spelling : String) (name : ο)
  | valued (name : ο) (value : String)

/-- The option that an argument names. -/
def named? : List (String × ο) → String → Option (Named ο)
  | [], _ => none
  | (spelling, name) :: rest, arg =>
    if arg = spelling then some (.alone spelling name)
    else match (spelling ++ "=").toList.isPrefixOf? arg.toList with
      | some value => some (.valued name (.ofList value))
      | none => named? rest arg

/-- The groups of a list of arguments. -/
def groups (grammar : Grammar ο φ) : List String → List (Group ο φ)
  | [] => []
  | arg :: rest =>
    if isHelp arg then .help :: grammar.groups rest
    else match grammar.flags.lookup arg with
      | some flag => .flag flag :: grammar.groups rest
      | none =>
        match named? grammar.options arg with
        | some (.valued name value) => .option name value :: grammar.groups rest
        | some (.alone spelling name) =>
          match rest with
          | [] => [.incomplete spelling]
          | value :: rest => .option name value :: grammar.groups rest
        | none => .word arg :: grammar.groups rest

end Grammar
end SqlBind.CommandLine
