import Atreides.Foundation.Dict
import Atreides.Foundation.Text

/-!
# Texts of objects

An object of texts is written with its members in the order they were set, and every
character outside the printable ASCII range as an escape.

## Main definitions

* `jsonText`, `jsonObject` — the written form of a text and of an object of texts
-/

/-- A code unit as an escape. -/
def jsonUnit (unit : ℕ) : List Char := backslash :: 'u' :: hexDigits 4 unit

/-- One character of a written text. -/
def jsonChar (c : Char) : List Char :=
  if c = doubleQuote ∨ c = backslash then [backslash, c]
  else if c.toNat = 8 then [backslash, 'b']
  else if c.toNat = 9 then [backslash, 't']
  else if c.toNat = 10 then [backslash, 'n']
  else if c.toNat = 12 then [backslash, 'f']
  else if c.toNat = 13 then [backslash, 'r']
  else if 32 ≤ c.toNat ∧ c.toNat ≤ 126 then [c]
  else if c.toNat ≤ 65535 then jsonUnit c.toNat
  else
    -- a pair of surrogates
    let rest := c.toNat - 65536
    jsonUnit (55296 + rest / 1024) ++ jsonUnit (56320 + rest % 1024)

/-- A text, in double quotes. -/
def jsonText (s : String) : String :=
  String.ofList (doubleQuote :: s.toList.flatMap jsonChar ++ [doubleQuote])

/-- An object of texts. -/
def jsonObject (d : Dict String String) : String :=
  "\x7b" ++ String.intercalate ", " (d.items.map fun item =>
    jsonText item.1 ++ ": " ++ jsonText item.2) ++ "\x7d"
