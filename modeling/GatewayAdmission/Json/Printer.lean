import GatewayAdmission.Decimal.Shortest
import GatewayAdmission.Json.Basic

/-!
# Compact JSON text

`Json.render` writes a value without blanks, the entries of objects in the order they stand in.
In strings only quotes, backslashes and characters below U+0020 are escaped, those with a short
escape by it and the others as four lower-case hexadecimal digits.
-/

namespace GatewayAdmission

namespace Json

/-- The lower-case hexadecimal digit of a number below 16. -/
def hexDigit (n : Nat) : Char := Nat.digitChar n

/-- A character inside a string. -/
def escapeChar (c : Char) : List Char :=
  if c = '"' then ['\\', '"']
  else if c = '\\' then ['\\', '\\']
  else if c.toNat = 0x08 then ['\\', 'b']
  else if c.toNat = 0x0C then ['\\', 'f']
  else if c = '\n' then ['\\', 'n']
  else if c = '\r' then ['\\', 'r']
  else if c = '\t' then ['\\', 't']
  else if c.toNat < 0x20 then
    ['\\', 'u', '0', '0', hexDigit (c.toNat / 16), hexDigit (c.toNat % 16)]
  else [c]

def stringChars (s : String) : List Char := '"' :: (s.toList.flatMap escapeChar ++ ['"'])

def wholeChars (n : Int) : List Char :=
  if n < 0 then '-' :: Nat.toDigits 10 n.natAbs else Nat.toDigits 10 n.natAbs

/-- Doubles from 1e-5 up to 1e16 are written without an exponent, and integral ones of these
end in `.0`. An exponent always has a sign: `1e+16`, `2.5e-7`. -/
def doubleLayout : DecimalLayout where
  smallest := -5
  largest := 16
  integralEnd := ".0"
  exponentMark := "e"
  plusSign := true

def numberChars : Number → List Char
  | .whole n => wholeChars n.val
  | .double d => (doubleLayout.text d).toList

mutual

/-- The characters of the compact text. -/
def chars : Json → List Char
  | .null => ['n', 'u', 'l', 'l']
  | .bool true => ['t', 'r', 'u', 'e']
  | .bool false => ['f', 'a', 'l', 's', 'e']
  | .num n => numberChars n
  | .str s => stringChars s
  | .arr items => '[' :: (itemChars items ++ [']'])
  | .obj entries => '\x7b' :: (entryChars entries ++ ['\x7d'])

def itemChars : List Json → List Char
  | [] => []
  | [j] => j.chars
  | j :: rest => j.chars ++ ',' :: itemChars rest

def entryChars : List (String × Json) → List Char
  | [] => []
  | [(k, j)] => stringChars k ++ ':' :: j.chars
  | (k, j) :: rest => stringChars k ++ ':' :: (j.chars ++ ',' :: entryChars rest)

end

/-- The compact text. -/
def render (j : Json) : String := String.ofList j.chars

end Json

end GatewayAdmission
