/-
Templates with `:name` markers. A name ends at the first of the `symbols`, and a
pair of colons is copied, so that a cast is no marker. Quotes have no meaning
here.
-/
import SqlBind.Template

namespace SqlBind.Template.Named

/-- The characters that end a name. -/
def symbols : List Char := "~!@#$%^&*()-+=[]\x7b\x7d|;:'\",.<>/? \r\n\t".toList

def isSymbol (c : Char) : Bool := symbols.contains c

mutual
/-- The segments of a text outside every name. -/
def outside : List Char → List Segment
  | [] => []
  | ':' :: ':' :: rest => prepend ':' (prepend ':' (outside rest))
  | ':' :: rest => inName [] rest
  | c :: rest => prepend c (outside rest)

/-- The segments of a text that continues a name. -/
def inName (name : List Char) : List Char → List Segment
  | [] => [.marker name]
  | ':' :: ':' :: rest => .marker name :: prepend ':' (prepend ':' (outside rest))
  | ':' :: rest => .marker name :: inName [] rest
  | c :: rest =>
    if isSymbol c then .marker name :: prepend c (outside rest) else inName (name ++ [c]) rest
end

/-- The segments of a template. -/
def segments (template : String) : List Segment := outside template.toList

/-- What a name binds: its argument, or `NULL` if there is none. -/
def lookup (args : NamedArgs) (name : String) : Arg := (args.get? name).getD .null

/-- The statement of a template whose names are bound by `args`. -/
def bind (template : String) (args : NamedArgs) : Statement :=
  ⟨sql (segments template), (labels (segments template)).map (lookup args)⟩

end SqlBind.Template.Named
