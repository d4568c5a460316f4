/-
Templates with expressions in braces. A doubled brace stands for the brace itself,
in text and in expressions; any other brace opens or closes an expression. A
reading stops at the first brace that has no meaning, or at the end of the text
inside an expression; the expressions before that are evaluated all the same, and
a failure of one of them comes first.
-/
import SqlBind.Template

namespace SqlBind.Template.Expression

/-- What was read, and the fault that ended the reading with its offset in
characters, if one did. -/
structure Reading where
  segments : List Segment
  fault : Option (Nat × TemplateFault)
  deriving DecidableEq, Repr

/-- A reading with one more character of text before it. -/
def Reading.prepend (c : Char) (r : Reading) : Reading := ⟨Template.prepend c r.segments, r.fault⟩

/-- A reading with a marker before it. -/
def Reading.marker (label : List Char) (r : Reading) : Reading :=
  ⟨.marker label :: r.segments, r.fault⟩

/-- A reading that ends at once. -/
def Reading.stop (offset : Nat) (fault : TemplateFault) : Reading := ⟨[], some (offset, fault)⟩

mutual
/-- Reads text outside expressions, from the character at `offset` on. -/
def outside (offset : Nat) : List Char → Reading
  | [] => ⟨[], none⟩
  | '\x7b' :: '\x7b' :: rest => (outside (offset + 2) rest).prepend '\x7b'
  | '\x7d' :: '\x7d' :: rest => (outside (offset + 2) rest).prepend '\x7d'
  | '\x7b' :: rest => inside (offset + 1) offset [] rest
  | '\x7d' :: _ => .stop offset .strayClose
  | c :: rest => (outside (offset + 1) rest).prepend c

/-- Reads the rest of an expression that opened at `start`. -/
def inside (offset start : Nat) (expression : List Char) : List Char → Reading
  | [] => .stop start (.unterminated (.ofList expression))
  | '\x7b' :: '\x7b' :: rest => inside (offset + 2) start (expression ++ ['\x7b']) rest
  | '\x7d' :: '\x7d' :: rest => inside (offset + 2) start (expression ++ ['\x7d']) rest
  | '\x7d' :: rest => (outside (offset + 1) rest).marker expression
  | '\x7b' :: _ => .stop offset .nestedOpen
  | c :: rest => inside (offset + 1) start (expression ++ [c]) rest
end

/-- The reading of a template. -/
def read (template : String) : Reading := outside 0 template.toList

/-- The statement of a template whose expressions are evaluated in order, each
once, in any monad that knows the library's errors. -/
def bind {m : Type → Type} [Monad m] [MonadExceptOf DbError m] (template : String)
    (eval : String → m Arg) : m Statement := do
  let reading := read template
  let args ← (labels reading.segments).mapM eval
  match reading.fault with
  | some (offset, fault) => throw (.malformedTemplate offset fault)
  | none => pure ⟨sql reading.segments, args⟩

end SqlBind.Template.Expression
