/-
# Telematics.Text.Decimal -- unsigned decimal numbers

The written form of a number has no leading zero and no sign.  The reader is
more liberal: it takes one leading plus sign and any number of leading zeros,
and refuses everything else, an empty digit list and a number above its limit
included.

`ofDigits_digits` says that the reader takes back what the writer wrote.
-/
namespace Telematics.Text.Decimal

set_option autoImplicit false

def digit (n : Nat) : Char :=
  Char.ofNat (48 + n % 10)

def digitValue? (c : Char) : Option Nat :=
  if '0' ≤ c ∧ c ≤ '9' then some (c.toNat - 48) else none

/-- The digits of a number, most significant first. -/
def digits (n : Nat) : List Char :=
  if n < 10 then [digit n] else digits (n / 10) ++ [digit n]

def text (n : Nat) : String :=
  String.ofList (digits n)

/-- An integer in decimal notation, a minus sign before a negative one. -/
def signed (n : Int) : String :=
  if n < 0 then "-" ++ text n.natAbs else text n.natAbs

/-- Reads digits behind those that already made up `acc`. -/
def ofDigitsFrom (acc : Nat) : List Char → Option Nat
  | [] => some acc
  | c :: cs =>
    match digitValue? c with
    | some d => ofDigitsFrom (acc * 10 + d) cs
    | none => none

/-- The number that a list of digits stands for, if it is one and not empty. -/
def ofDigits (cs : List Char) : Option Nat :=
  if cs.isEmpty then none else ofDigitsFrom 0 cs

def read (limit : Nat) (cs : List Char) : Option Nat :=
  let unsigned := match cs with
    | '+' :: rest => rest
    | _ => cs
  (ofDigits unsigned).filter (· ≤ limit)

/-- The last `width` decimal digits of a number, zeros in front where it is shorter. -/
def padded : Nat → Nat → List Char
  | 0, _ => []
  | width + 1, n => padded width (n / 10) ++ [digit n]

theorem digitValue?_digit (n : Nat) : digitValue? (digit n) = some (n % 10) := by
  have h : n % 10 < 10 := Nat.mod_lt _ (by decide)
  unfold digit
  generalize n % 10 = d at h
  match d, h with
  | 0, _ | 1, _ | 2, _ | 3, _ | 4, _ | 5, _ | 6, _ | 7, _ | 8, _ | 9, _ => decide
  | d + 10, h => omega

theorem ofDigitsFrom_append (acc : Nat) (xs ys : List Char) :
    ofDigitsFrom acc (xs ++ ys) = (ofDigitsFrom acc xs).bind (ofDigitsFrom · ys) := by
  induction xs generalizing acc with
  | nil => rfl
  | cons x xs ih =>
    simp only [List.cons_append, ofDigitsFrom]
    cases digitValue? x with
    | none => rfl
    | some d => exact ih _

theorem ofDigitsFrom_digits (n : Nat) : ofDigitsFrom 0 (digits n) = some n := by
  induction n using Nat.strongRecOn with
  | _ n ih =>
    rw [digits]
    split
    · simp [ofDigitsFrom, digitValue?_digit]; omega
    · rw [ofDigitsFrom_append, ih _ (by omega)]
      simp [ofDigitsFrom, digitValue?_digit]; omega

theorem digits_ne_nil (n : Nat) : digits n ≠ [] := by
  rw [digits]; split <;> simp

/-- The reader takes back what the writer wrote. -/
theorem ofDigits_digits (n : Nat) : ofDigits (digits n) = some n := by
  simp [ofDigits, digits_ne_nil, ofDigitsFrom_digits]

theorem isSome_of_ofDigitsFrom {acc n : Nat} {cs : List Char}
    (read : ofDigitsFrom acc cs = some n) : ∀ c ∈ cs, (digitValue? c).isSome := by
  induction cs generalizing acc with
  | nil => simp
  | cons c cs ih =>
    rw [ofDigitsFrom] at read
    cases value : digitValue? c with
    | none => simp [value] at read
    | some d =>
      rw [value] at read
      rw [List.forall_mem_cons]
      exact ⟨by rw [value]; rfl, ih read⟩

/-- What is read as digits consists of digits. -/
theorem isSome_of_ofDigits {n : Nat} {cs : List Char} (read : ofDigits cs = some n) :
    ∀ c ∈ cs, (digitValue? c).isSome := by
  unfold ofDigits at read
  split at read
  · cases read
  · exact isSome_of_ofDigitsFrom read

theorem between_of_isSome {c : Char} (digit : (digitValue? c).isSome) :
    '0' ≤ c ∧ c ≤ '9' := by
  unfold digitValue? at digit
  split at digit
  · assumption
  · cases digit

end Telematics.Text.Decimal
