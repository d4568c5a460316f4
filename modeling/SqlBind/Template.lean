/-
Templates: SQL with markers in it. Reading a template cuts it into segments, text
to be copied and labels of markers; the SQL is the text with a question mark for
each marker, and the labels say what to bind there.
-/
import SqlBind.Statement

namespace SqlBind.Template

/-- A stretch of text, or a marker with its label. -/
inductive Segment where
  | text (run : List Char)
  | marker (label : List Char)
  deriving DecidableEq, Repr

/-- Segments with one more character of text before them. -/
def prepend (c : Char) : List Segment → List Segment
  | .text run :: rest => .text (c :: run) :: rest
  | segments => .text [c] :: segments

/-- The characters a segment has in the SQL. -/
def Segment.chars : Segment → List Char
  | .text run => run
  | .marker _ => ['?']

/-- The label of a marker. -/
def Segment.label? : Segment → Option String
  | .text _ => none
  | .marker label => some (.ofList label)

/-- The SQL of a template. -/
def sql (segments : List Segment) : String := .ofList (segments.flatMap Segment.chars)

/-- The labels of a template's markers, in order. -/
def labels (segments : List Segment) : List String := segments.filterMap Segment.label?

end SqlBind.Template
