/-
Text read as a document, in two steps: the text is cut into lexemes, and a row of
lexemes is a document if its brackets match. Of two members of one name the first
gives the place and the last the value. Documents nested more than `maxDepth`
deep are refused.
-/
import SqlBind.Json.Number
import SqlBind.Text.Hex

namespace SqlBind.Json

/-- A mark of the grammar or a whole scalar. -/
inductive Lexeme where
  | openArray
  | closeArray
  | openObject
  | closeObject
  | comma
  | colon
  | str (s : String)
  | scalar (j : Json)

/-- Four hexadecimal digits. -/
def codeUnit? (a b c d : Char) : Option Nat := do
  let a ← Hex.digitValue? a
  let b ← Hex.digitValue? b
  let c ← Hex.digitValue? c
  let d ← Hex.digitValue? d
  some (((a * 16 + b) * 16 + c) * 16 + d)

/-- The character of a short escape. -/
def shortEscape? (c : Char) : Option Char :=
  if c = '"' || c = '\\' || c = '/' then some c
  else if c = 'b' then some (.ofNat 8)
  else if c = 'f' then some (.ofNat 12)
  else if c = 'n' then some '\n'
  else if c = 'r' then some '\r'
  else if c = 't' then some '\t'
  else none

/-- The character of two code units, the first opening a pair and the second
closing it. -/
def pairedChar? (high low : Nat) : Option Char :=
  if 0xD800 ≤ high ∧ high < 0xDC00 ∧ 0xDC00 ≤ low ∧ low < 0xE000 then
    some (.ofNat (0x10000 + (high - 0xD800) * 0x400 + (low - 0xDC00)))
  else none

/-- The character of a code unit that belongs to no pair. -/
def singleChar? (unit : Nat) : Option Char :=
  if 0xD800 ≤ unit ∧ unit < 0xE000 then none else some (.ofNat unit)

/-- The rest of a string after its opening quote: its characters and what
follows the closing quote. -/
def string? : List Char → Option (List Char × List Char)
  | [] => none
  | '"' :: rest => some ([], rest)
  | '\\' :: 'u' :: a :: b :: c :: d :: rest =>
    match codeUnit? a b c d with
    | none => none
    | some unit =>
      match singleChar? unit with
      | some x => (string? rest).map fun (s, r) => (x :: s, r)
      | none =>
        match rest with
        | '\\' :: 'u' :: e :: f :: g :: h :: rest =>
          ((codeUnit? e f g h).bind (pairedChar? unit)).bind fun x =>
            (string? rest).map fun (s, r) => (x :: s, r)
        | _ => none
  | '\\' :: c :: rest =>
    (shortEscape? c).bind fun x => (string? rest).map fun (s, r) => (x :: s, r)
  | c :: rest =>
    if c.toNat < 32 || c = '\\' then none else (string? rest).map fun (s, r) => (c :: s, r)

theorem string?_length {cs s rest : List Char} (h : string? cs = some (s, rest)) :
    rest.length < cs.length := by
  fun_induction string? cs generalizing s <;>
    simp_all [Option.map_eq_some_iff, Option.bind_eq_some_iff] <;> grind

/-- The blanks between lexemes. -/
def isSpace (c : Char) : Bool := c = ' ' || c = '\n' || c = '\r' || c = '\t'

/-- The characters of which numerals are made. -/
def isNumberChar (c : Char) : Bool :=
  Numeral.isDigit c || c = '-' || c = '+' || c = '.' || c = 'e' || c = 'E'

/-- The mark of one character. -/
def mark? (c : Char) : Option Lexeme :=
  if c = '[' then some .openArray
  else if c = ']' then some .closeArray
  else if c = '\x7b' then some .openObject
  else if c = '\x7d' then some .closeObject
  else if c = ',' then some .comma
  else if c = ':' then some .colon
  else none

/-- The scalar that a word names. -/
def word? (cs : List Char) : Option Json :=
  if cs = "null".toList then some .null
  else if cs = "true".toList then some (.bool true)
  else if cs = "false".toList then some (.bool false)
  else none

/-- The lexemes of a text. -/
def lexemes? (cs : List Char) : Option (List Lexeme) :=
  match cs with
  | [] => some []
  | c :: rest =>
    if isSpace c then lexemes? rest
    else match mark? c with
    | some m => (lexemes? rest).map (m :: ·)
    | none =>
      if c = '"' then
        match h : string? rest with
        | none => none
        | some (s, r) =>
          have := string?_length h
          (lexemes? r).map (.str (.ofList s) :: ·)
      else if Numeral.isDigit c || c = '-' then
        have := (List.dropWhile_sublist isNumberChar (l := rest)).length_le
        (number? (c :: rest.takeWhile isNumberChar)).bind fun j =>
          (lexemes? (rest.dropWhile isNumberChar)).map (.scalar j :: ·)
      else
        have := (List.dropWhile_sublist Char.isAlpha (l := rest)).length_le
        (word? (c :: rest.takeWhile Char.isAlpha)).bind fun j =>
          (lexemes? (rest.dropWhile Char.isAlpha)).map (.scalar j :: ·)
termination_by cs.length
decreasing_by all_goals (simp only [List.length_cons]; omega)

/-- The deepest nesting that is read. -/
def maxDepth : Nat := 127

/-- An array or object that is not closed yet, with what it holds so far; the
items of an array stand in reverse. -/
inductive Frame where
  | array (items : List Json)
  | object (members : List (String × Json)) (key : String)

/-- What may stand next. -/
inductive Expected where
  | value
  | valueOrEnd
  | key (members : List (String × Json))
  | keyOrEnd
  | afterValue (j : Json)

/-- Reads lexemes inside the frames that are open, the innermost first. -/
def assemble? : List Lexeme → List Frame → Expected → Option Json
  | [], [], .afterValue j => some j
  | .closeArray :: rest, .array _ :: frames, .valueOrEnd =>
    assemble? rest frames (.afterValue (.arr []))
  | .closeObject :: rest, frames, .keyOrEnd => assemble? rest frames (.afterValue (.obj []))
  | .str key :: .colon :: rest, frames, .keyOrEnd =>
    assemble? rest (.object [] key :: frames) .value
  | .str key :: .colon :: rest, frames, .key members =>
    assemble? rest (.object members key :: frames) .value
  | .comma :: rest, .array items :: frames, .afterValue j =>
    assemble? rest (.array (j :: items) :: frames) .value
  | .closeArray :: rest, .array items :: frames, .afterValue j =>
    assemble? rest frames (.afterValue (.arr (j :: items).reverse))
  | .comma :: rest, .object members key :: frames, .afterValue j =>
    assemble? rest frames (.key (OrderedMap.put members key j))
  | .closeObject :: rest, .object members key :: frames, .afterValue j =>
    assemble? rest frames (.afterValue (.obj (OrderedMap.put members key j)))
  | lexeme :: rest, frames, expected =>
    match expected with
    | .value | .valueOrEnd =>
      match lexeme with
      | .scalar j => assemble? rest frames (.afterValue j)
      | .str s => assemble? rest frames (.afterValue (.str s))
      | .openArray =>
        if frames.length < maxDepth then assemble? rest (.array [] :: frames) .valueOrEnd else none
      | .openObject =>
        if frames.length < maxDepth then assemble? rest frames .keyOrEnd else none
      | _ => none
    | _ => none
  | _, _, _ => none

/-- The document that a text denotes. -/
def parse? (s : String) : Option Json :=
  (lexemes? s.toList).bind fun lexemes => assemble? lexemes [] .value

end SqlBind.Json
