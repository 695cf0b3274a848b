/-
# Telematics.Text.Pattern.Flags -- how the parts of an expression are meant

Flags change what the parts behind them mean.  A change is written with letters:
those in front of a dash are turned on, and those behind it off; none stands
twice, and the dash not at the end.

With one flag, blanks and comments may stand between the parts of an expression.
A comment begins with a number sign and goes to the end of its line.
-/
import Telematics.Text.Blank

namespace Telematics.Text.Pattern

set_option autoImplicit false

/-- What is turned on where a part of an expression stands. -/
structure Flags where
  /-- A letter stands for its other case as well. -/
  caseless : Bool := false
  /-- Characters are those of every script, and not bytes. -/
  unicode : Bool := true
  /-- Blanks and comments may stand between the parts. -/
  spaced : Bool := false
  deriving Repr, DecidableEq

namespace Flags

/-! ## Changes -/

/-- The letters for flags; those of which nothing is kept here are about lines, about the point
and about how much is repeated. -/
def letters : List Char := "imsUuRx".toList

/-- Whether some characters are a change of flags, which may be empty. -/
def isChange (cs : List Char) : Bool :=
  cs.all (fun c => c = '-' || letters.contains c) && decide cs.Nodup && cs.getLast? ≠ some '-'

/-- The flags after one of them has been turned on or off. -/
def turn (f : Flags) (on : Bool) : Char → Flags
  | 'i' => { f with caseless := on }
  | 'u' => { f with unicode := on }
  | 'x' => { f with spaced := on }
  | _ => f

/-- The flags after a change; `on` says whether no dash has been met. -/
def change (f : Flags) (on : Bool) : List Char → Flags
  | [] => f
  | c :: cs => if c = '-' then f.change false cs else (f.turn on c).change on cs

/-! ## Blanks and comments -/

/-- A text without the blanks and comments that it begins with, or that it goes on with within a
comment. -/
def skipSpace (comment : Bool) : List Char → List Char
  | [] => []
  | c :: cs =>
    if comment then skipSpace (c ≠ '\n') cs
    else if isBlank c then skipSpace false cs
    else if c = '#' then skipSpace true cs
    else c :: cs

/-- What comes next in a text. -/
def skip (f : Flags) (cs : List Char) : List Char :=
  if f.spaced then skipSpace false cs else cs

/-- The first character that is not blank; one number sign is passed over. -/
def firstVisible? (comment : Bool) : List Char → Option Char
  | [] => none
  | c :: cs =>
    if isBlank c then firstVisible? comment cs
    else if c = '#' && !comment then firstVisible? true cs
    else some c

/-- The character by which a dash is judged that stands in front of a text. -/
def ahead? (f : Flags) (cs : List Char) : Option Char :=
  if f.spaced then (firstVisible? false cs).or cs.head? else cs.head?

/-- Without the flag for it nothing is passed over. -/
theorem skip_of_not_spaced {f : Flags} (h : f.spaced = false) (cs : List Char) :
    f.skip cs = cs := by
  simp [skip, h]

/-- Passing over blanks and comments leaves no more characters than there were. -/
theorem length_skipSpace_le (comment : Bool) (cs : List Char) :
    (skipSpace comment cs).length ≤ cs.length := by
  induction cs generalizing comment with
  | nil => exact Nat.le_refl _
  | cons c cs ih =>
    rw [skipSpace]
    split
    · exact Nat.le_succ_of_le (ih _)
    split
    · exact Nat.le_succ_of_le (ih _)
    split
    · exact Nat.le_succ_of_le (ih _)
    · exact Nat.le_refl _

end Flags

end Telematics.Text.Pattern
