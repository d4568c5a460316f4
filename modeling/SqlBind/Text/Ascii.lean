/-
Comparison of names without regard to the case of ASCII letters. Tags, dialects
and sort directions are found this way; other letters keep their case.
-/
namespace SqlBind.Text

/-- Whether two strings differ at most in the case of ASCII letters. -/
def sameIgnoringCase (s t : String) : Bool :=
  s.toList.map Char.toLower == t.toList.map Char.toLower

/-- The entry of a table under a name, whatever its case. -/
def findIgnoringCase? {α : Type} (table : List (String × α)) (name : String) : Option α :=
  (table.find? fun entry => sameIgnoringCase entry.1 name).map Prod.snd

end SqlBind.Text
