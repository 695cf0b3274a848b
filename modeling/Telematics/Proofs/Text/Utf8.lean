/-
# Telematics.Proofs.Text.Utf8 -- texts as bytes

The bytes of a text are those of its characters in turn, and they tell it from
every other text (`ofUtf8?_bytes`).  They also keep its place in the order: of
two characters the greater one has the greater bytes, whatever follows
(`encode_append_lt`), since the first byte says how many there are and the others
are the digits of the character from the highest on.  So to order texts by their
characters is to order them by their bytes (`lt_iff_utf8_lt`).
-/
import Mathlib.Tactic.SplitIfs
import Telematics.Environment

namespace Telematics.Text

set_option autoImplicit false

open String (utf8EncodeChar)

/-! ## The bytes of a text -/

theorem toList_loop (bytes : ByteArray) (i : Nat) (taken : List UInt8) :
    ByteArray.toList.loop bytes i taken = taken.reverse ++ bytes.data.toList.drop i := by
  fun_induction ByteArray.toList.loop bytes i taken with
  | case1 i taken more ih =>
    have here : i < bytes.data.toList.length := more
    have this : bytes.get! i = bytes.data.toList[i] := getElem!_pos bytes.data i more
    rw [ih, List.drop_eq_getElem_cons here, List.reverse_cons, List.append_assoc, this]
    rfl
  | case2 i taken none =>
    have past : bytes.data.toList.length ≤ i := Nat.le_of_not_lt none
    rw [List.drop_eq_nil_of_le past, List.append_nil]

theorem toList_eq (bytes : ByteArray) : bytes.toList = bytes.data.toList :=
  toList_loop bytes 0 []

theorem utf8_eq (s : String) : s.toUTF8.toList = s.toList.flatMap utf8EncodeChar := by
  rw [toList_eq, String.toUTF8_eq_toByteArray, ← String.utf8Encode_toList]
  exact List.toList_data_toByteArray

/-- The text that some bytes stand for. -/
def ofUtf8? (bytes : List UInt8) : Option String :=
  String.fromUTF8? ⟨bytes.toArray⟩

/-- The bytes of a text stand for it and for no other. -/
theorem ofUtf8?_bytes (s : String) : ofUtf8? s.toUTF8.toList = some s := by
  rw [ofUtf8?, toList_eq]
  exact Environment.fromUTF8?_utf8 s

/-! ## Their order -/

/-- The greater character has the greater bytes, whatever follows. -/
theorem encode_append_lt {c d : Char} (less : c < d) (xs ys : List UInt8) :
    utf8EncodeChar c ++ xs < utf8EncodeChar d ++ ys := by
  have order : c.val.toNat < d.val.toNat := less
  have top : d.val.toNat < 0x110000 := by
    rcases d.valid with low | ⟨-, high⟩
    · exact Nat.lt_trans low (by decide)
    · exact high
  have byte : ∀ m, m < 256 → m % 2 ^ 8 = m := fun m below => Nat.mod_eq_of_lt below
  -- The digits to the base 64, each by way of the one before.
  have second : ∀ m, m / 4096 = m / 64 / 64 := fun m => by omega
  have third : ∀ m, m / 262144 = m / 64 / 64 / 64 := fun m => by omega
  simp only [utf8EncodeChar]
  split_ifs <;>
    simp (disch := omega) only [List.cons_append, List.nil_append, List.cons_lt_cons_iff,
      UInt8.lt_iff_toNat_lt, ← UInt8.toNat_inj, UInt8.toNat_ofNat', byte, second, third] <;> omega

theorem flatMap_encode_lt {cs ds : List Char} (less : cs < ds) :
    cs.flatMap utf8EncodeChar < ds.flatMap utf8EncodeChar := by
  induction less with
  | @nil d ds =>
    obtain ⟨byte, more, some⟩ := List.exists_cons_of_ne_nil (String.utf8EncodeChar_ne_nil (c := d))
    rw [List.flatMap_cons, some]
    exact .nil
  | rel less => exact encode_append_lt less _ _
  | cons rest ih => exact List.append_left_lt ih

/-- **Texts are in the order of their bytes**. -/
theorem lt_iff_utf8_lt {s t : String} : s < t ↔ s.toUTF8.toList < t.toUTF8.toList := by
  rw [utf8_eq, utf8_eq]
  constructor
  · exact flatMap_encode_lt
  · intro less
    rw [← String.not_le]
    intro back
    by_cases same : s = t
    · subst same
      exact List.lt_irrefl _ less
    · have greater : t < s := String.not_le.1 fun forth => same (String.le_antisymm forth back)
      exact List.lt_asymm less (flatMap_encode_lt greater)

end Telematics.Text
