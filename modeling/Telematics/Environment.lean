/-
# Telematics.Environment -- settings from outside

The environment gives a text to some names and none to others; a value that is
not a text counts as none.  A number is an unsigned 64-bit number in decimal
notation, and what is none is as good as not set.

A value is handed over behind its name and an equals sign, and ends with a zero
byte.  So there are names and values that no environment can hold (`ofBytes?`).
`ofBytes?_utf8` says that all other texts are handed over as they are.
-/
import Telematics.Text.Elapsed

namespace Telematics

set_option autoImplicit false

/-- The texts that are set from outside, by name. -/
abbrev Environment := String → Option String

namespace Environment

/-- The environment that holds these texts and no others. -/
def ofList (texts : List (String × String)) : Environment :=
  fun name => texts.lookup name

def utf8 (text : String) : List UInt8 := text.toUTF8.data.toList

def isName (name : String) : Bool :=
  name ≠ "" && (utf8 name).all fun b => b ≠ 0 && b ≠ 0x3D

/-- The environment that holds these values and no others, if there can be one. -/
def ofBytes? (values : List (String × List UInt8)) : Option Environment :=
  if values.all fun (name, value) => isName name && !value.contains 0 then
    some fun name => values.lookup name >>= fun value => String.fromUTF8? ⟨value.toArray⟩
  else none

/-- A length of time given in milliseconds. -/
def span? (env : Environment) (name : String) : Option Span := do
  let text ← env name
  let count ← Text.Decimal.read 18446744073709551615 text.toList
  return Span.ofMilliseconds count

/-- A text that is not empty. -/
def nonempty? (env : Environment) (name : String) : Option String :=
  (env name).filter (· ≠ "")

/-! ## Texts are handed over as they are -/

/-- The bytes of a text are that text. -/
theorem fromUTF8?_utf8 (text : String) : String.fromUTF8? ⟨(utf8 text).toArray⟩ = some text := by
  simp only [utf8, Array.toArray_toList, String.fromUTF8?]
  exact dif_pos text.isValidUTF8

/-- Looking up bytes is looking up a text. -/
theorem lookup_utf8 (texts : List (String × String)) (name : String) :
    (texts.map fun t => (t.1, utf8 t.2)).lookup name = (texts.lookup name).map utf8 := by
  induction texts with
  | nil => rfl
  | cons t texts ih =>
    rw [List.map_cons, List.lookup_cons, List.lookup_cons]
    cases name == t.1
    · exact ih
    · rfl

/-- Texts that an environment can hold are found in it. -/
theorem ofBytes?_utf8 {texts : List (String × String)}
    (h : ∀ t ∈ texts, isName t.1 = true ∧ 0 ∉ utf8 t.2) :
    ofBytes? (texts.map fun t => (t.1, utf8 t.2)) = some (ofList texts) := by
  have proper : (texts.map fun t => (t.1, utf8 t.2)).all
      (fun (name, value) => isName name && !value.contains 0) = true := by
    simp only [List.all_map, List.all_eq_true]
    intro t ht
    simp [h t ht]
  rw [ofBytes?, if_pos proper]
  congr 1
  funext name
  rw [lookup_utf8]
  cases h : texts.lookup name <;> simp [ofList, h, fromUTF8?_utf8]

end Environment

end Telematics
