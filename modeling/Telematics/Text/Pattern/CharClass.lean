/-
# Telematics.Text.Pattern.CharClass -- classes of characters

A class is a list of members between square brackets: atoms, ranges with a dash
between their ends, families with a name between colons, and classes again.  A
circumflex at the beginning turns a class into its complement; dashes that come
first stand for themselves, and so does a closing bracket.  Two members of a kind
that would make no sense side by side, `&&`, `--` and `~~`, join what stands on
their left with what stands on their right.

Of a class only its depth is kept: the number of classes, lists of several
members and joined parts that stand within one another.
-/
import Telematics.Text.Pattern.Atom

namespace Telematics.Text.Pattern

set_option autoImplicit false

/-- A class, or what it joins, as far as it has been read. -/
structure CharClass where
  /-- The depth of what is joined with the members, if anything is. -/
  left : Option Nat := none
  members : Nat := 0
  depth : Nat := 0
  /-- Whether dashes stand for themselves, and a closing bracket if there is no member. -/
  atStart : Bool := true
  deriving Repr, DecidableEq

namespace CharClass

/-- The class with one more member. -/
def add (k : CharClass) (depth : Nat) : CharClass :=
  { k with members := k.members + 1, depth := max k.depth depth, atStart := false }

/-- The depth of all that stands between the brackets. -/
def total (k : CharClass) : Nat :=
  let list := if k.members ≤ 1 then k.depth else k.depth + 1
  match k.left with
  | none => list
  | some left => max left list + 1

/-- What is joined with all that there is so far. -/
def join (k : CharClass) : CharClass :=
  { left := some k.total, atStart := false }

/-! ## Reading -/

/-- Whether a character begins a sign that joins, `next` being what follows. -/
def isJoin (c : Char) (next : Option Char) : Bool :=
  (c = '&' || c = '-' || c = '~') && next = some c

def names : List (List Char) :=
  ["alnum", "alpha", "ascii", "blank", "cntrl", "digit", "graph", "lower", "print", "punct",
    "space", "upper", "word", "xdigit"].map String.toList

/-- Reads a family with a name behind its opening bracket; whether its complement is meant. -/
def readFamily? : List Char → Option (Bool × List Char)
  | ':' :: cs =>
    let complement := cs.head? = some '^'
    let cs := if complement then cs.tail else cs
    match cs.dropWhile (· ≠ ':') with
    | ':' :: ']' :: rest =>
      if names.contains (cs.takeWhile (· ≠ ':')) then some (complement, rest) else none
    | _ => none
  | _ => none

def allowsFamily (f : Flags) (complement : Bool) : Bool :=
  if f.unicode then !f.caseless else !complement

/-- Reads what stands behind an opening bracket up to the first member. -/
def readOpening (f : Flags) (cs : List Char) : Option (List Char) :=
  match f.skip cs with
  | '^' :: rest => if f.unicode then some rest else none
  | rest => some rest

/-- Reads one end of a range, or a member that is none. -/
def readAtom (f : Flags) : List Char → Option (Atom × List Char)
  | [] => none
  | '\\' :: cs => Atom.readQuoted f cs
  | c :: cs => some (.literal c false, cs)

def isRange (f : Flags) : Atom → Atom → Bool
  | .literal a asByte, .literal b asByte' =>
    (Atom.literal a asByte).isMember f && (Atom.literal b asByte').isMember f && a ≤ b
  | _, _ => false

/-- Reads an atom or a range, and returns what is left. -/
def readMember (f : Flags) (cs : List Char) : Option (List Char) := do
  let (first, rest) ← readAtom f cs
  match f.skip rest with
  | '-' :: more =>
    if f.ahead? more = some ']' || f.ahead? more = some '-' then
      if first.isMember f then some ('-' :: more) else none
    else
      let (last, rest) ← readAtom f (f.skip more)
      if isRange f first last then some rest else none
  | rest => if first.isMember f then some rest else none

/-- Reads members up to the closing bracket of the outermost class, in at most so many steps;
`outer` are the classes that are open around the class `k`.  Returns the depth and what is left. -/
def readMembers (f : Flags) : Nat → List CharClass → CharClass → List Char →
    Option (Nat × List Char)
  | 0, _, _, _ => none
  | n + 1, outer, k, cs =>
    match f.skip cs with
    | [] => none
    | c :: rest =>
      if k.atStart && (c = '-' || c = ']' && k.members = 0) then
        if (Atom.literal c false).isMember f then
          readMembers f n outer { k.add 0 with atStart := c = '-' } rest
        else none
      else if c = ']' then
        match outer with
        | [] => some (k.total + 1, rest)
        | parent :: outer => readMembers f n outer (parent.add (k.total + 1)) rest
      else if c = '[' then
        match readFamily? rest with
        | some (complement, rest) =>
          if allowsFamily f complement then readMembers f n outer (k.add 0) rest else none
        | none => do
          let rest ← readOpening f rest
          readMembers f n (k :: outer) {} rest
      else if isJoin c rest.head? then readMembers f n outer k.join rest.tail
      else do
        let rest ← readMember f (c :: rest)
        readMembers f n outer (k.add 0) rest

/-- Reads a class behind its opening bracket.  Every step takes a character at least. -/
def read (f : Flags) (cs : List Char) : Option (Nat × List Char) := do
  let rest ← readOpening f cs
  readMembers f (rest.length + 1) [] {} rest

end CharClass

end Telematics.Text.Pattern
