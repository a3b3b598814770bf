import GatewayAdmission.Text.Split
import GatewayAdmission.Time.Clock

/-!
# Annotations of a time

Behind its offset a time may have annotations in brackets: first a time zone, by name or by
offset, then properties, each a key with values. None of them changes the time. A mark `!` asks
readers not to overlook an annotation; since no property is understood here, a property with it
is refused.
-/

namespace GatewayAdmission

namespace Time

/-- Whether the text is not empty, its first character being in one class and the others in
another. -/
def isWord (first more : Char → Bool) : List Char → Bool
  | [] => false
  | c :: rest => first c && rest.all more

/-- A part of the name of a time zone. -/
def isZonePart (cs : List Char) : Bool :=
  isWord (fun c => c = '_' || c = '.' || c.isAlpha)
    (fun c => c = '_' || c = '.' || c = '+' || c = '-' || c.isAlphanum) cs

def isZoneName (cs : List Char) : Bool := (Text.splitAt '/' cs).all isZonePart

/-- A time zone given by its offset, in hours and minutes. -/
def isZoneOffset (cs : List Char) : Bool :=
  (cs.head? == some '+' || cs.head? == some '-') &&
    match ranged? 2 0 25 cs.tail with
    | none => false
    | some (_, rest) =>
      rest.isEmpty ||
        match ranged? 2 0 59 (if rest.head? == some ':' then rest.tail else rest) with
        | none => false
        | some (_, rest) => rest.isEmpty

def isZone (cs : List Char) : Bool :=
  let cs := if cs.head? == some '!' then cs.tail else cs
  isZoneOffset cs || isZoneName cs

/-- A key of small letters, digits, dashes and underlines, and values of letters and digits. -/
def isProperty (cs : List Char) : Bool :=
  match Text.splitAt '=' cs with
  | [key, values] =>
    isWord (fun c => c = '_' || c.isLower)
        (fun c => c = '_' || c = '-' || c.isLower || c.isDigit) key &&
      (Text.splitAt '-' values).all (isWord Char.isAlphanum Char.isAlphanum)
  | _ => false

/-- Whether a test holds of what follows the opening bracket. -/
def isBracketed (test : List Char → Bool) : List Char → Bool
  | '[' :: content => test content
  | _ => false

/-- Whether a text consists of annotations. -/
def isAnnotations (cs : List Char) : Bool :=
  let parts := Text.splitAt ']' cs
  let annotations := parts.dropLast
  parts.getLast? == some [] &&
    (annotations.take 1).all (isBracketed fun content => isZone content || isProperty content) &&
    (annotations.drop 1).all (isBracketed isProperty)

end Time

end GatewayAdmission
