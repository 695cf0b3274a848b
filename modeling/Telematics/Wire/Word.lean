/-
# Telematics.Wire.Word -- 32-bit numbers as bytes

A word is four bytes, the least significant first.  `readWord_word` says that
reading takes back what was written.
-/
namespace Telematics.Wire

set_option autoImplicit false

def word (w : UInt32) : List UInt8 :=
  [UInt8.ofNat w.toNat, UInt8.ofNat (w.toNat / 0x100), UInt8.ofNat (w.toNat / 0x10000),
   UInt8.ofNat (w.toNat / 0x1000000)]

def wordOf (a b c d : UInt8) : UInt32 :=
  UInt32.ofNat (a.toNat + 0x100 * b.toNat + 0x10000 * c.toNat + 0x1000000 * d.toNat)

def readWord? : List UInt8 → Option (UInt32 × List UInt8)
  | a :: b :: c :: d :: rest => some (wordOf a b c d, rest)
  | _ => none

@[simp] theorem length_word (w : UInt32) : (word w).length = 4 := rfl

/-- Reading takes back what was written. -/
@[simp] theorem readWord?_word (w : UInt32) (rest : List UInt8) :
    readWord? (word w ++ rest) = some (w, rest) := by
  have hw : w.toNat < 4294967296 := w.toNat_lt
  simp only [word, List.cons_append, List.nil_append, readWord?, wordOf, Option.some.injEq,
    Prod.mk.injEq, and_true]
  rw [← UInt32.toNat_inj]
  simp only [UInt8.toNat_ofNat', UInt32.toNat_ofNat']
  omega

/-- Writing takes back what was read. -/
theorem word_wordOf (a b c d : UInt8) : word (wordOf a b c d) = [a, b, c, d] := by
  have ha := a.toNat_lt
  have hb := b.toNat_lt
  have hc := c.toNat_lt
  have hd := d.toNat_lt
  simp only [word, wordOf, UInt32.toNat_ofNat', List.cons.injEq, and_true]
  refine ⟨?_, ?_, ?_, ?_⟩ <;>
    · rw [← UInt8.toNat_inj, UInt8.toNat_ofNat']
      omega

theorem readWord?_eq_none_iff {bytes : List UInt8} :
    readWord? bytes = none ↔ bytes.length < 4 := by
  match bytes with
  | [] => simp [readWord?]
  | [_] => simp [readWord?]
  | [_, _] => simp [readWord?]
  | [_, _, _] => simp [readWord?]
  | _ :: _ :: _ :: _ :: _ => simp [readWord?]

end Telematics.Wire
