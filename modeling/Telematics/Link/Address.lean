/-
# Telematics.Link.Address -- addresses of hosts

An address is a number of 32 bits or eight groups of 16 bits; one in groups may
be meant in a zone, which is the number of an interface, and zero means none.

A number is written as its four bytes between dots and read more liberally: the
last of at most four parts fills what the others leave, and a part is decimal,
octal behind a zero, or hexadecimal behind `0x`.  Groups are written in
hexadecimal between colons, the longest run of at least two zero groups as a
double colon, and a number among groups as a number; they are read with at most
one double colon, which stands for at least one group, and a number in place of
the last two.

`length_ofColons?` says that what is read has eight groups.
-/
import Telematics.Text.Cut
import Telematics.Text.Decimal
import Telematics.Text.Hex

namespace Telematics.Link

set_option autoImplicit false

open Text

/-- The address of a host. -/
inductive Address where
  | number (value : UInt32)
  | groups (values : List UInt16) (zone : UInt32)
  deriving Repr, DecidableEq

namespace Address

/-! ## Writing -/

/-- A number as its bytes between dots. -/
def dotted (value : UInt32) : String :=
  let byte (shift : UInt32) := Decimal.text ((value >>> shift) &&& 255).toNat
  ".".intercalate [byte 24, byte 16, byte 8, byte 0]

def colons (values : List UInt16) : String :=
  ":".intercalate (values.map fun g => String.ofList (Hex.digits g.toNat))

def zeros (values : List UInt16) : Nat :=
  (values.takeWhile (· = 0)).length

/-- Where the longest run of zero groups begins, the first of several, and its length. -/
def longestRun : List UInt16 → Nat × Nat
  | [] => (0, 0)
  | g :: rest =>
    let here := zeros (g :: rest)
    let (start, length) := longestRun rest
    if length ≤ here then (0, here) else (start + 1, length)

/-- An address as it is shown, without its zone. -/
def text : Address → String
  | .number value => dotted value
  | .groups [0, 0, 0, 0, 0, 0xFFFF, high, low] _ =>
    "::ffff:" ++ dotted (high.toUInt32 <<< 16 ||| low.toUInt32)
  | .groups values _ =>
    let (start, length) := longestRun values
    if 1 < length then
      colons (values.take start) ++ "::" ++ colons (values.drop (start + length))
    else colons values

/-! ## Reading -/

/-- Reads digits of a base; none is as good as zero. -/
def readBase (base : Nat) (cs : List Char) : Option Nat :=
  cs.foldlM (fun n c => do
    let d ← Hex.digitValue? c
    if d < base then some (n * base + d) else none) 0

def readPart : List Char → Option Nat
  | [] => none
  | '0' :: 'x' :: c :: rest => readBase 16 (c :: rest)
  | '0' :: 'X' :: c :: rest => readBase 16 (c :: rest)
  | '0' :: rest => readBase 8 rest
  | cs => readBase 10 cs

/-- The number that parts make up; the last one fills what the others leave of `room`. -/
def joinParts (room : Nat) : List Nat → Option Nat
  | [] => none
  | [last] => if last < room then some last else none
  | part :: rest =>
    if part < 256 then (joinParts (room / 256) rest).map (part * (room / 256) + ·) else none

/-- Reads a number in one to four parts between dots. -/
def ofDots? (cs : List Char) : Option UInt32 := do
  let parts ← (cut '.' cs).mapM readPart
  if 4 < parts.length then none
  (joinParts 4294967296 parts).map UInt32.ofNat

/-- Reads a number as its four bytes between dots, none with a zero in front. -/
def ofBytes? (cs : List Char) : Option (List UInt16) := do
  let [a, b, c, d] ← (cut '.' cs).mapM fun part => do
      let n ← Decimal.ofDigits part
      if n < 256 && part = Decimal.digits n then some n else none
    | none
  return [UInt16.ofNat (a * 256 + b), UInt16.ofNat (c * 256 + d)]

def readGroup (cs : List Char) : Option UInt16 :=
  if cs.isEmpty || 4 < cs.length then none else (readBase 16 cs).map UInt16.ofNat

/-- Reads the groups in a list of parts; `final` says whether a number may stand last. -/
def readGroups (final : Bool) : List (List Char) → Option (List UInt16)
  | [] => some []
  | [part] =>
    match readGroup part with
    | some g => some [g]
    | none => if final then ofBytes? part else none
  | part :: rest => do
    let g ← readGroup part
    let gs ← readGroups final rest
    return g :: gs

/-- Reads groups between colons, of which there may be none. -/
def readColons (final : Bool) (cs : List Char) : Option (List UInt16) :=
  if cs.isEmpty then some [] else readGroups final (cut ':' cs)

/-- The texts before and behind the first double colon. -/
def splitDouble? : List Char → Option (List Char × List Char)
  | ':' :: ':' :: rest => some ([], rest)
  | c :: rest => (splitDouble? rest).map fun (before, behind) => (c :: before, behind)
  | [] => none

/-- Reads eight groups. -/
def ofColons? (cs : List Char) : Option (List UInt16) :=
  match splitDouble? cs with
  | none => (readColons true cs).filter (·.length = 8)
  | some (before, behind) => do
    let front ← readColons false before
    let back ← readColons true behind
    if front.length + back.length < 8 then
      some (front ++ List.replicate (8 - (front.length + back.length)) 0 ++ back)
    else none

/-- Whether an address in groups is that of a host on the same link. -/
def isLocal (values : List UInt16) : Bool :=
  values.head?.any fun g => 0xFE80 ≤ g && g ≤ 0xFEBF

/-- Whether an address in groups is that of many hosts. -/
def isShared (values : List UInt16) : Bool :=
  values.head?.any (0xFF00 ≤ ·)

def isNumber (values : List UInt16) : Bool :=
  values.take 6 = [0, 0, 0, 0, 0, 0xFFFF]

/-- Whether the name of an interface may stand for the zone of an address: it means something on
one link only, or on this host only. -/
def takesInterface (values : List UInt16) : Bool :=
  isLocal values || values.head?.any fun g => 0xFF00 ≤ g && (g &&& 0xF = 1 || g &&& 0xF = 2)

/-- Reads a zone: the name of an interface, or a number. -/
def readZone (interfaces : List (String × UInt32)) (values : List UInt16) (cs : List Char) :
    Option UInt32 :=
  let named := if takesInterface values then interfaces.lookup (String.ofList cs) else none
  named.or (((Decimal.ofDigits cs).filter (· < 4294967296)).map UInt32.ofNat)

def ofText? (interfaces : List (String × UInt32)) (s : String) : Option Address :=
  let cs := s.toList
  match ofDots? cs with
  | some value => some (.number value)
  | none => do
    let values ← ofColons? (cs.takeWhile (· ≠ '%'))
    match cs.dropWhile (· ≠ '%') with
    | [] => return .groups values 0
    | _ :: zone => return .groups values (← readZone interfaces values zone)

/-- What is read has eight groups. -/
theorem length_ofColons? {cs : List Char} {values : List UInt16}
    (h : ofColons? cs = some values) : values.length = 8 := by
  unfold ofColons? at h
  split at h
  · simpa using (Option.filter_eq_some_iff.mp h).2
  · simp only [Option.bind_eq_bind, Option.bind_eq_some_iff] at h
    obtain ⟨front, _, back, _, h⟩ := h
    split at h
    · rw [Option.some.injEq] at h
      subst h
      simp only [List.length_append, List.length_replicate]
      omega
    · exact absurd h (by simp)

end Address

end Telematics.Link
