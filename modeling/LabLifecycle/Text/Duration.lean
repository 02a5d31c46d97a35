import LabLifecycle.Text.Bytes

/-!
# Spans of time

A span is a number of nanoseconds. Its text uses the largest of the units s, ms, µs and
ns that is at least one, with a decimal fraction that has no trailing zeros.
-/
namespace LabLifecycle

/-- A span of time in nanoseconds. -/
structure Duration where
  nanos : Nat
  deriving DecidableEq, Repr

namespace Duration

/-- The span of a number of milliseconds. -/
def ofMillis (ms : Nat) : Duration := ⟨ms * 1000000⟩

/-- The fraction `part / 10 ^ width` after a point, without trailing zeros; nothing when
it is zero. -/
def fraction (width part : Nat) : String :=
  let digits := (zeroPadded width part).toList.reverse.dropWhile (· == '0')
  if digits.isEmpty then "" else "." ++ String.ofList digits.reverse

/-- The text of a span. -/
def text (d : Duration) : String :=
  let n := d.nanos
  if 1000000000 ≤ n then
    toString (n / 1000000000) ++ fraction 9 (n % 1000000000) ++ "s"
  else if 1000000 ≤ n then
    toString (n / 1000000) ++ fraction 6 (n % 1000000) ++ "ms"
  else if 1000 ≤ n then
    toString (n / 1000) ++ fraction 3 (n % 1000) ++ "µs"
  else toString n ++ "ns"

end Duration
end LabLifecycle
