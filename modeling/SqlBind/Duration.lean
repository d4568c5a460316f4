/-
Spans of time to the nanosecond, written in the greatest unit that does not
exceed them: seconds, milliseconds, microseconds or nanoseconds, with the
fraction that is left and no zeros after it.
-/
import SqlBind.Number.Numeral

namespace SqlBind

/-- A span of time. -/
structure Duration where
  nanos : Nat
  deriving DecidableEq, Repr

namespace Duration

def ofMillis (millis : Nat) : Duration := ⟨millis * 1000000⟩

/-- A quotient by `10 ^ places`, written with the places that are not zero. -/
def inUnit (nanos places : Nat) : List Char :=
  let fraction := Numeral.padded places (nanos % 10 ^ places)
  let kept := (fraction.reverse.dropWhile (· = '0')).reverse
  Numeral.ofNat (nanos / 10 ^ places) ++ (if kept.isEmpty then [] else '.' :: kept)

/-- The span in its unit. -/
def text (d : Duration) : String :=
  if 1000000000 ≤ d.nanos then .ofList (inUnit d.nanos 9) ++ "s"
  else if 1000000 ≤ d.nanos then .ofList (inUnit d.nanos 6) ++ "ms"
  else if 1000 ≤ d.nanos then .ofList (inUnit d.nanos 3) ++ "µs"
  else .ofList (Numeral.ofNat d.nanos) ++ "ns"

end Duration
end SqlBind
