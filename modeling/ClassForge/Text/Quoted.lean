import ClassForge.Text.Unprintable

/-!
# Quoted Texts

A text between double quotes, in a form that shows every character: what would
be invisible or would end the quotation is escaped.

## Main definitions

* `escaped`: A character as it stands inside a quotation.
* `quoted`: A text between double quotes.
-/

namespace ClassForge

namespace Text

/-- A number in lower-case hexadecimal digits. -/
def hexadecimal (n : Nat) : String := String.ofList (Nat.toDigits 16 n)

/-- A character as it stands inside a quotation. -/
def escaped (c : Char) : String :=
  if c = '\x00' then "\\0"
  else if c = '\t' then "\\t"
  else if c = '\r' then "\\r"
  else if c = '\n' then "\\n"
  else if c = '\\' then "\\\\"
  else if c = '"' then "\\\""
  else if isUnprintable c then "\\u\x7b" ++ hexadecimal c.toNat ++ "\x7d"
  else c.toString

/-- A text between double quotes. -/
def quoted (text : String) : String :=
  "\"" ++ String.join (text.toList.map escaped) ++ "\""

end Text

end ClassForge
