/-
The outline of a template: its first text, and each marker's label with the text
that follows it. Segments have one outline, in which texts that stand next to each
other are one text and a text that is missing is an empty one. So there is always
one more text than there are markers, and the SQL is the texts with a question
mark between each two.
-/
import SqlBind.Template

namespace SqlBind.Template

/-- A text, and labels of markers with the text after each. -/
structure Outline where
  first : List Char
  rest : List (List Char × List Char)
  deriving DecidableEq, Repr

namespace Outline

/-- The stretches of text before, between and after the markers. -/
def texts (o : Outline) : List (List Char) := o.first :: o.rest.map Prod.snd

/-- The labels of the markers, in order. -/
def labels (o : Outline) : List String := o.rest.map fun (label, _) => .ofList label

/-- The characters of the SQL: a question mark for each marker. -/
def chars (o : Outline) : List Char := o.first ++ o.rest.flatMap fun (_, text) => '?' :: text

/-- The SQL. -/
def sql (o : Outline) : String := .ofList o.chars

/-- An outline with more text before it. -/
def prepend (text : List Char) (o : Outline) : Outline := { o with first := text ++ o.first }

/-- An outline with a marker before it. -/
def marker (label : List Char) (o : Outline) : Outline := ⟨[], (label, o.first) :: o.rest⟩

/-- The outline of segments. -/
def ofSegments : List Segment → Outline
  | [] => ⟨[], []⟩
  | .text run :: rest => (ofSegments rest).prepend run
  | .marker label :: rest => (ofSegments rest).marker label

theorem prepend_append (xs ys : List Char) (o : Outline) :
    o.prepend (xs ++ ys) = (o.prepend ys).prepend xs := by
  simp only [prepend, List.append_assoc]

@[simp] theorem chars_prepend (text : List Char) (o : Outline) :
    (o.prepend text).chars = text ++ o.chars := by
  simp only [chars, prepend, List.append_assoc]

@[simp] theorem labels_prepend (text : List Char) (o : Outline) :
    (o.prepend text).labels = o.labels := rfl

@[simp] theorem chars_marker (label : List Char) (o : Outline) :
    (o.marker label).chars = '?' :: o.chars := rfl

@[simp] theorem labels_marker (label : List Char) (o : Outline) :
    (o.marker label).labels = .ofList label :: o.labels := rfl

theorem ofSegments_prepend (c : Char) (segments : List Segment) :
    ofSegments (Template.prepend c segments) = (ofSegments segments).prepend [c] := by
  cases segments with
  | nil => rfl
  | cons segment rest => cases segment <;> rfl

theorem chars_ofSegments (segments : List Segment) :
    (ofSegments segments).chars = segments.flatMap Segment.chars := by
  induction segments with
  | nil => rfl
  | cons segment rest ih =>
    cases segment with
    | text run => rw [ofSegments, chars_prepend, ih]; rfl
    | marker label => rw [ofSegments, chars_marker, ih]; rfl

/-- **Segments and their outline have the same SQL.** -/
theorem sql_ofSegments (segments : List Segment) :
    (ofSegments segments).sql = Template.sql segments :=
  congrArg String.ofList (chars_ofSegments segments)

/-- **Segments and their outline have the same labels.** -/
theorem labels_ofSegments (segments : List Segment) :
    (ofSegments segments).labels = Template.labels segments := by
  induction segments with
  | nil => rfl
  | cons segment rest ih =>
    cases segment with
    | text run =>
      rw [Template.labels, List.filterMap_cons_none rfl]
      exact ih
    | marker label =>
      have head :
          Template.labels (.marker label :: rest) = .ofList label :: Template.labels rest := rfl
      rw [head, ← ih]
      rfl

/-! ## What follows an outline -/

/-- Markers, each with the text after it, and an outline behind them. -/
def follow (rest : List (List Char × List Char)) (later : Outline) : Outline :=
  rest.foldr (fun (label, text) later => (later.prepend text).marker label) later

theorem follow_cons (label text : List Char) (rest : List (List Char × List Char))
    (later : Outline) :
    follow ((label, text) :: rest) later = ((follow rest later).prepend text).marker label := rfl

/-- An outline with another behind it: the last text of the one and the first of the
other are one text. -/
def append (o later : Outline) : Outline := (follow o.rest later).prepend o.first

/-- With nothing behind it, an outline is as it was. -/
theorem append_empty (o : Outline) : o.append ⟨[], []⟩ = o := by
  have same : follow o.rest ⟨[], []⟩ = ⟨[], o.rest⟩ := by
    induction o.rest with
    | nil => rfl
    | cons pair rest ih =>
      rw [follow_cons, ih]
      simp only [prepend, marker, List.append_nil]
  rw [append, same]
  simp only [prepend, List.append_nil]

theorem labels_append (o later : Outline) : (o.append later).labels = o.labels ++ later.labels := by
  have same : (follow o.rest later).labels = labels ⟨[], o.rest⟩ ++ later.labels := by
    induction o.rest with
    | nil => rfl
    | cons pair rest ih =>
      rw [follow_cons, labels_marker, labels_prepend, ih]
      rfl
  rw [append, labels_prepend, same]
  rfl

end Outline
end SqlBind.Template
