/-
# Telematics.Text.Pattern.Atom -- the smallest parts of an expression

A backslash gives a character its special meaning or takes it away: punctuation
stands for itself behind it, some letters for a control character, a family of
characters or a place, and `x`, `u` and `U` for the character whose number
follows in two, four or eight hexadecimal digits.

Which of them are understood depends on the flags.  Letters of every script have
no other case here and make up no families, and a byte is not a character unless
it is an ASCII one.
-/
import Telematics.Text.Hex
import Telematics.Text.Pattern.Flags

namespace Telematics.Text.Pattern

set_option autoImplicit false

/-- The smallest parts of an expression. -/
inductive Atom where
  /-- A character; whether it is written as the number of a byte. -/
  | literal (c : Char) (asByte : Bool)
  | point
  /-- The digits, the blanks or the characters of words, or all others. -/
  | family (complement : Bool)
  /-- The beginning or the end of a line or of everything. -/
  | edge
  /-- The beginning or the end of a word, or the lack of both. -/
  | wordEdge
  deriving Repr, DecidableEq

namespace Atom

/-- Whether an atom is understood on its own. -/
def isAllowed (f : Flags) : Atom → Bool
  | .literal c asByte =>
    if f.unicode then !f.caseless else !(asByte && 0x80 ≤ c.toNat)
  | .point => f.unicode
  | .family complement => !f.unicode && !complement
  | .edge => true
  | .wordEdge => true

/-- Whether an atom is understood as a member of a class. -/
def isMember (f : Flags) : Atom → Bool
  | .literal c _ => if f.unicode then !f.caseless else c.toNat < 0x80
  | .family complement => !f.unicode && !complement
  | .point | .edge | .wordEdge => false

/-! ## Reading -/

/-- Whether a character stands for itself behind a backslash. -/
def isQuotable (c : Char) : Bool :=
  c.toNat < 0x80 && !c.isAlphanum && c ≠ '<' && c ≠ '>'

/-- What a letter, or a bracket, stands for behind a backslash. -/
def named? : Char → Option Atom
  | 'a' => some (.literal '\x07' false)
  | 'f' => some (.literal '\x0c' false)
  | 't' => some (.literal '\t' false)
  | 'n' => some (.literal '\n' false)
  | 'r' => some (.literal '\r' false)
  | 'v' => some (.literal '\x0b' false)
  | 'd' | 's' | 'w' => some (.family false)
  | 'D' | 'S' | 'W' => some (.family true)
  | 'A' | 'z' => some .edge
  | 'b' | 'B' | '<' | '>' => some .wordEdge
  | _ => none

/-- The number of digits behind a letter that announces some. -/
def digitCount? : Char → Option Nat
  | 'x' => some 2
  | 'u' => some 4
  | 'U' => some 8
  | _ => none

/-- Reads so many digits, of a number that has begun with `value`. -/
def readDigits (f : Flags) : Nat → Nat → List Char → Option (Nat × List Char)
  | 0, value, cs => some (value, cs)
  | n + 1, value, c :: cs =>
    (Hex.digitValue? c).bind fun d => readDigits f n (16 * value + d) (f.skip cs)
  | _ + 1, _, [] => none

def character? (n : Nat) : Option Char :=
  if n < 0xD800 || 0xDFFF < n && n < 0x110000 then some (Char.ofNat n) else none

def readQuoted (f : Flags) : List Char → Option (Atom × List Char)
  | [] => none
  | c :: cs =>
    match digitCount? c with
    | some count => do
      let (number, rest) ← readDigits f count 0 (f.skip cs)
      return (.literal (← character? number) (c = 'x'), rest)
    | none =>
      if isQuotable c then some (.literal c false, cs)
      else (named? c).map fun atom => (atom, cs)

end Atom

end Telematics.Text.Pattern
