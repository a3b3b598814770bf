import GatewayAdmission.Text.Printable

/-!
# Quoted text

`quoted` puts a text between double quotes. Quotes, backslashes and the usual control characters
have short escapes, other characters that would not be seen are shown by their number, as in
`\u\x7b200b\x7d`, and everything else stands as it is.
-/

namespace GatewayAdmission

namespace Text

/-- A character inside quotes. -/
def quoteChar (c : Char) : List Char :=
  if c = '"' ∨ c = '\\' then ['\\', c]
  else if c = '\n' then ['\\', 'n']
  else if c = '\r' then ['\\', 'r']
  else if c = '\t' then ['\\', 't']
  else if c.toNat = 0 then ['\\', '0']
  else if CharSet.unprinted.contains c then
    ['\\', 'u', '\x7b'] ++ Nat.toDigits 16 c.toNat ++ ['\x7d']
  else [c]

/-- The text in double quotes. -/
def quoted (s : String) : String := String.ofList ('"' :: (s.toList.flatMap quoteChar ++ ['"']))

end Text

end GatewayAdmission
