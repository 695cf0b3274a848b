/-
# Telematics.Text.Elapsed -- lengths of time and how they are written

A length of time is written in the largest of the units second, millisecond,
microsecond and nanosecond in which it has a whole part, with as many decimal
places as it needs and no more: `0ns`, `1.5µs`, `20ms`, `1.000000001s`.

Its whole seconds are a 64-bit number.  Parts that come to more make no length of
time (`ofParts?`); `isSome_ofParts?` says that proper parts always make one.
-/
import Telematics.Text.Decimal

namespace Telematics

set_option autoImplicit false

/-- A length of time, counted in nanoseconds. -/
structure Span where
  nanoseconds : Nat
  deriving Repr, DecidableEq

namespace Span

def ofMilliseconds (n : Nat) : Span := ⟨n * 1000000⟩

/-- The first number of whole seconds that is too great. -/
def secondLimit : Nat := 18446744073709551616

/-- A number of seconds and of nanoseconds, of which some may make up further seconds. -/
def ofParts? (seconds nanoseconds : Nat) : Option Span :=
  let total := seconds * 1000000000 + nanoseconds
  if total < secondLimit * 1000000000 then some ⟨total⟩ else none

/-- Seconds within the limit and nanoseconds that make up none are a length of time. -/
theorem isSome_ofParts? {seconds nanoseconds : Nat} (whole : seconds < secondLimit)
    (part : nanoseconds < 1000000000) : (ofParts? seconds nanoseconds).isSome = true := by
  have : seconds * 1000000000 + nanoseconds < secondLimit * 1000000000 := by omega
  simp [ofParts?, this]

def milliseconds (t : Span) : Nat := t.nanoseconds / 1000000

/-- The decimal places of a fraction `part / 10 ^ width`, without trailing zeros. -/
def places (width part : Nat) : List Char :=
  ((Text.Decimal.padded width part).reverse.dropWhile (· = '0')).reverse

/-- A count of units of `10 ^ width` parts each, with the decimal places it needs. -/
def inUnit (width : Nat) (name : String) (parts : Nat) : String :=
  let fraction := places width (parts % Nat.pow 10 width)
  let point := if fraction.isEmpty then "" else "." ++ String.ofList fraction
  Text.Decimal.text (parts / Nat.pow 10 width) ++ point ++ name

/-- A length of time in the largest unit in which it has a whole part. -/
def text (t : Span) : String :=
  if 1000000000 ≤ t.nanoseconds then inUnit 9 "s" t.nanoseconds
  else if 1000000 ≤ t.nanoseconds then inUnit 6 "ms" t.nanoseconds
  else if 1000 ≤ t.nanoseconds then inUnit 3 "µs" t.nanoseconds
  else inUnit 0 "ns" t.nanoseconds

end Span

end Telematics
