/-
# Telematics.Text.Json -- strings, tagged values, objects and lists in JSON

Strings are written with the fewest escapes: the quote, the backslash and the
control characters, of which five have a letter and the others a number.

A reader takes characters from the front of a text and returns what is left.  It
refuses for one of two reasons (`Problem`): the text up to the point reached is
not JSON, or it is, but of another shape than wanted.  Whichever comes first in
the text is reported, so a tag that is not known is a matter of shape although
the text behind it may be anything.

A choice between alternatives is written as a bare tag, or as an object whose
only key is the tag (`tagged`); an alternative without content that is written
as an object has the content `null`.  An object with known keys is read member by
member (`member`), and a list item by item (`list`).

`readString_quoted` says that reading takes back every string that was written.
-/
import Telematics.Text.Decimal
import Telematics.Text.Double
import Telematics.Text.Hex

namespace Telematics.Text.Json

set_option autoImplicit false

/-! ## Writing -/

/-- One character inside a written string. -/
def escape (c : Char) : List Char :=
  if c = '"' then ['\\', '"']
  else if c = '\\' then ['\\', '\\']
  else if c = '\x08' then ['\\', 'b']
  else if c = '\x0c' then ['\\', 'f']
  else if c = '\n' then ['\\', 'n']
  else if c = '\r' then ['\\', 'r']
  else if c = '\t' then ['\\', 't']
  else if c.toNat < 0x20 then ['\\', 'u', '0', '0', Hex.digit (c.toNat / 16), Hex.digit c.toNat]
  else [c]

/-- The characters of a written string, its quotes included. -/
def quoted (cs : List Char) : List Char :=
  '"' :: (cs.flatMap escape ++ ['"'])

def quote (s : String) : String :=
  String.ofList (quoted s.toList)

/-! ## Reading -/

/-- Why a text is refused. -/
inductive Problem where
  /-- The text is not JSON. -/
  | malformed
  /-- The text is JSON as far as it was read, but not of the wanted shape. -/
  | shape
  deriving Repr, DecidableEq

/-- Takes a value from the front of a text and returns what is left. -/
abbrev Reader (α : Type) := List Char → Except Problem (α × List Char)

/-- The characters that may stand between two tokens. -/
def isGap (c : Char) : Bool :=
  c = ' ' || c = '\n' || c = '\t' || c = '\r'

def skipGap (cs : List Char) : List Char :=
  cs.dropWhile isGap

/-- The character that a letter stands for behind a backslash. -/
def unescape? : Char → Option Char
  | '"' => some '"'
  | '\\' => some '\\'
  | '/' => some '/'
  | 'b' => some '\x08'
  | 'f' => some '\x0c'
  | 'n' => some '\n'
  | 'r' => some '\r'
  | 't' => some '\t'
  | _ => none

/-- The first half of a character beyond the sixteen-bit range. -/
def isHighHalf (n : Nat) : Bool := 0xD800 ≤ n && n < 0xDC00

/-- The second half of a character beyond the sixteen-bit range. -/
def isLowHalf (n : Nat) : Bool := 0xDC00 ≤ n && n < 0xE000

def joinHalves (high low : Nat) : Char :=
  Char.ofNat (0x10000 + (high - 0xD800) * 0x400 + (low - 0xDC00))

/-- Reads the inside of a string and its closing quote. -/
def readString : List Char → Option (List Char × List Char)
  | [] => none
  | '"' :: rest => some ([], rest)
  | '\\' :: 'u' :: a :: b :: c :: d :: rest =>
    match Hex.word? a b c d with
    | none => none
    | some n =>
      if isHighHalf n then
        match rest with
        | '\\' :: 'u' :: e :: f :: g :: h :: rest =>
          match Hex.word? e f g h with
          | none => none
          | some m =>
            if isLowHalf m then
              (readString rest).map fun r => (joinHalves n m :: r.1, r.2)
            else none
        | _ => none
      else if isLowHalf n then none
      else (readString rest).map fun r => (Char.ofNat n :: r.1, r.2)
  | '\\' :: e :: rest =>
    match unescape? e with
    | none => none
    | some c => (readString rest).map fun r => (c :: r.1, r.2)
  | c :: rest =>
    if c.toNat < 0x20 || c = '\\' then none
    else (readString rest).map fun r => (c :: r.1, r.2)

/-- The digits at the front of a text, if there are any, and what is left. -/
def readDigits (cs : List Char) : Option (List Char × List Char) :=
  let ds := cs.takeWhile Char.isDigit
  if ds.isEmpty then none else some (ds, cs.dropWhile Char.isDigit)

/-- The greatest significand that a number is read into. -/
def significandLimit : Nat := 18446744073709551615

/-- Takes digits into a significand while there is room for them; the second number counts the
digits that are left. -/
def gather (significand : Nat) : List Char → Nat × Nat
  | [] => (significand, 0)
  | c :: cs =>
    let next := significand * 10 + (c.toNat - 48)
    if next ≤ significandLimit then gather next cs else (significand, cs.length + 1)

/-- Whether a number is too great for 64 bits of binary floating point. -/
def isOutOfRange (significand : Nat) (exponent : Int) : Bool :=
  significand ≠ 0 && 0 ≤ exponent &&
    (308 < exponent || Double.overflows significand exponent.toNat)

/-- Reads the decimal places of a number, if a point announces any. -/
def readPlaces : List Char → Option (List Char × List Char)
  | '.' :: rest => readDigits rest
  | cs => some ([], cs)

/-- Reads the exponent of a number, if a letter announces one. -/
def readExponent : List Char → Option (Int × List Char)
  | e :: rest =>
    if e = 'e' || e = 'E' then
      let (negative, rest) := match rest with
        | '+' :: rest => (false, rest)
        | '-' :: rest => (true, rest)
        | _ => (false, rest)
      (readDigits rest).map fun (ds, rest) =>
        let n : Int := ((Decimal.ofDigitsFrom 0 ds).getD 0 : Nat)
        (if negative then -n else n, rest)
    else some (0, e :: rest)
  | [] => some (0, [])

/-- Reads past an unsigned number; fails where there is none, and where it is out of range. -/
def skipMagnitude (cs : List Char) : Option (List Char) := do
  let (whole, rest) ← readDigits cs
  if whole.head? = some '0' && 1 < whole.length then none
  let (places, rest) ← readPlaces rest
  let (exponent, rest) ← readExponent rest
  let (significand, more) := gather 0 whole
  let (significand, left) := gather significand places
  if isOutOfRange significand (exponent + more - (places.length - left : Nat)) then none
  return rest

/-- Why the value at the front of a text is refused where one of another kind is wanted: an
array or an object at once for its shape, any other value once it has been read. -/
def refusal (cs : List Char) : Problem :=
  let expect (word : List Char) := if word.isPrefixOf cs then Problem.shape else .malformed
  match cs with
  | 'n' :: _ => expect ['n', 'u', 'l', 'l']
  | 't' :: _ => expect ['t', 'r', 'u', 'e']
  | 'f' :: _ => expect ['f', 'a', 'l', 's', 'e']
  | '"' :: rest => if (readString rest).isSome then .shape else .malformed
  | '[' :: _ => .shape
  | '\x7b' :: _ => .shape
  | '-' :: rest => if (skipMagnitude rest).isSome then .shape else .malformed
  | c :: rest =>
    if c.isDigit && (skipMagnitude (c :: rest)).isSome then .shape else .malformed
  | [] => .malformed

def string : Reader String := fun cs =>
  match skipGap cs with
  | '"' :: rest =>
    match readString rest with
    | some (s, rest) => .ok (String.ofList s, rest)
    | none => .error .malformed
  | cs => .error (refusal cs)

/-- Reads the key of an object, which can be nothing but a string. -/
def key : Reader String := fun cs =>
  match skipGap cs with
  | '"' :: rest => string ('"' :: rest)
  | _ => .error .malformed

def null {α : Type} (a : α) : Reader α := fun cs =>
  match skipGap cs with
  | 'n' :: 'u' :: 'l' :: 'l' :: rest => .ok (a, rest)
  | cs => .error (refusal cs)

/-- Reads one character behind a gap. -/
def expect (c : Char) (cs : List Char) : Except Problem (List Char) :=
  match skipGap cs with
  | d :: rest => if d = c then .ok rest else .error .malformed
  | [] => .error .malformed

/-- Reads one of several alternatives.  `bare` knows the tags that may stand alone and `content`
the readers of what the others hold. -/
def tagged {α : Type} (bare : String → Option α) (content : String → Option (Reader α)) :
    Reader α := fun cs =>
  match skipGap cs with
  | '"' :: rest => do
    let (tag, rest) ← string ('"' :: rest)
    match bare tag with
    | some a => return (a, rest)
    | none => throw .shape
  | '\x7b' :: rest => do
    let (tag, rest) ← key rest
    match content tag with
    | none => throw .shape
    | some read =>
      let rest ← expect ':' rest
      let (a, rest) ← read rest
      let rest ← expect '\x7d' rest
      return (a, rest)
  | _ => .error .malformed

/-- Reads one of several alternatives without content. -/
def choice {α : Type} (bare : String → Option α) : Reader α :=
  tagged bare fun tag => (bare tag).map null

/-- Reads what stands behind a key of an object. -/
def member {α : Type} (name : String) (read : Reader α) : Reader α := fun cs => do
  let (tag, rest) ← key cs
  if tag = name then read (← expect ':' rest) else throw .shape

/-- Reads items and the bracket behind the last of them, at most so many. -/
def items {α : Type} (read : Reader α) : Nat → Reader (List α)
  | 0, _ => .error .malformed
  | n + 1, cs => do
    let (a, rest) ← read cs
    match skipGap rest with
    | ',' :: rest =>
      let (more, rest) ← items read n rest
      return (a :: more, rest)
    | ']' :: rest => return ([a], rest)
    | _ => throw .malformed

/-- Reads a list of values of one kind.  No item is empty, so there are no more than characters. -/
def list {α : Type} (read : Reader α) : Reader (List α) := fun cs => do
  let rest ← expect '[' cs
  match skipGap rest with
  | ']' :: rest => return ([], rest)
  | _ => items read rest.length rest

/-- Reads a text that holds one value and nothing else. -/
def document {α : Type} (read : Reader α) (s : String) : Except Problem α := do
  let (a, rest) ← read s.toList
  if (skipGap rest).isEmpty then return a else throw .malformed

/-! ## Reading takes back what was written -/

theorem readString_escape (c : Char) (rest : List Char) :
    readString (escape c ++ rest) = (readString rest).map fun r => (c :: r.1, r.2) := by
  unfold escape
  split
  · subst_vars; simp [readString, unescape?]
  split
  · subst_vars; simp [readString, unescape?]
  split
  · subst_vars; simp [readString, unescape?]
  split
  · subst_vars; simp [readString, unescape?]
  split
  · subst_vars; simp [readString, unescape?]
  split
  · subst_vars; simp [readString, unescape?]
  split
  · subst_vars; simp [readString, unescape?]
  split
  · rename_i h
    have hz : Hex.digitValue? '0' = some 0 := by decide
    have hn : Hex.word? '0' '0' (Hex.digit (c.toNat / 16)) (Hex.digit c.toNat) = some c.toNat := by
      simp only [Hex.word?, hz, Hex.digitValue?_digit, Option.bind_eq_bind, Option.bind_some,
        pure, Option.some.injEq]
      omega
    have hh : isHighHalf c.toNat = false := by simp [isHighHalf]; omega
    have hl : isLowHalf c.toNat = false := by simp [isLowHalf]; omega
    simp only [List.cons_append, List.nil_append]
    rw [readString]
    simp [hn, hh, hl]
  · rename_i hq hb _ _ _ _ _ hc
    simp only [List.cons_append, List.nil_append]
    rw [readString]
    · simp [hb, hc]
    all_goals simp_all

/-- Reading takes back every string that was written. -/
theorem readString_quoted (cs rest : List Char) :
    readString (cs.flatMap escape ++ '"' :: rest) = some (cs, rest) := by
  induction cs with
  | nil => simp [readString]
  | cons c cs ih => simp [List.append_assoc, readString_escape, ih]

end Telematics.Text.Json
