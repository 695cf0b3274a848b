/-
# Telematics.Text.Quoted -- text shown in a diagnostic

A diagnostic shows a text between double quotes so that no character of it can
be mistaken: quotes and backslashes have a backslash before them, tab, line feed,
carriage return and the null character have a letter of their own, and every
other character that cannot be told by looking is written by its number.
-/
import Telematics.Text.Hex
import Telematics.Text.Unseen

namespace Telematics.Text.Quoted

set_option autoImplicit false

def numbered (c : Char) : List Char :=
  ['\\', 'u', '\x7b'] ++ Hex.digits c.toNat ++ ['\x7d']

/-- One character as a diagnostic shows it. -/
def escape (c : Char) : List Char :=
  if c = '"' then ['\\', '"']
  else if c = '\\' then ['\\', '\\']
  else if c = '\t' then ['\\', 't']
  else if c = '\n' then ['\\', 'n']
  else if c = '\r' then ['\\', 'r']
  else if c.toNat = 0 then ['\\', '0']
  else if isUnseen c then numbered c
  else [c]

def encode (s : String) : String :=
  String.ofList ('"' :: s.toList.flatMap escape ++ ['"'])

end Telematics.Text.Quoted
