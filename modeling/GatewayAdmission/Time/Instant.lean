import GatewayAdmission.Time.Calendar
import GatewayAdmission.Time.Annotation

/-!
# Instants

An `Instant` is a whole second, counted from the start of 1970 in universal time. Its written form
is RFC 3339 in universal time, `2024-05-01T12:30:00Z`. Reading takes any offset, a blank or a
small letter in place of `T`, annotations of RFC 9557, and a fraction of a second, which is
dropped.

A year before the first one has a sign and six digits where it is read, but a sign and three
digits at least where it is written.
-/

namespace GatewayAdmission

/-- Seconds since the start of 1970. -/
structure Instant where
  seconds : Int
deriving DecidableEq

namespace Instant

/-! ## Writing -/

/-- A number with zeros in front up to a width. -/
def padded (width : Nat) (n : Nat) : String :=
  let ds := Nat.toDigits 10 n
  String.ofList (List.replicate (width - ds.length) '0' ++ ds)

/-- At least four characters, the sign among them. -/
def yearText (year : Int) : String :=
  if year < 0 then "-" ++ padded 3 year.natAbs else padded 4 year.toNat

/-- The written form, in universal time. -/
def text (t : Instant) : String :=
  let days := t.seconds.fdiv 86400
  let rest := (t.seconds - days * 86400).toNat
  let (year, month, day) := Calendar.dateOfDays days
  yearText year ++ "-" ++ padded 2 month.toNat ++ "-" ++ padded 2 day.toNat
    ++ "T" ++ padded 2 (rest / 3600) ++ ":" ++ padded 2 (rest / 60 % 60) ++ ":"
    ++ padded 2 (rest % 60) ++ "Z"

/-! ## Reading -/

/-- A date, with or without dashes: the days it stands for. -/
def date? (cs : List Char) : Option (Int × List Char) := do
  let (year, rest) ← match cs with
    | '-' :: cs => do
      let (y, rest) ← Time.digits? 6 cs
      if y = 0 then none else some (-y, rest)
    | '+' :: cs => Time.digits? 6 cs
    | cs => Time.digits? 4 cs
  let dashed := rest.head? == some '-'
  let (month, rest) ← Time.ranged? 2 1 12 (if dashed then rest.tail else rest)
  let rest ← if dashed then (if rest.head? == some '-' then some rest.tail else none)
    else some rest
  let (day, rest) ← Time.ranged? 2 1 (Calendar.daysInMonth year month) rest
  return (Calendar.daysOfDate year month day, rest)

/-- The instants that can be told: a little over a day is left free at both ends of the years
-9999 to 9999. -/
def inRange (seconds : Int) : Bool := -377705023201 ≤ seconds && seconds ≤ 253402207200

/-- The instant that a text stands for. -/
def parse? (s : String) : Option Instant := do
  let (days, rest) ← date? s.toList
  let rest ← match rest with
    | 'T' :: rest | 't' :: rest | ' ' :: rest => some rest
    | _ => none
  let (clock, rest) ← Time.clock? 23 60 rest
  let (offset, rest) ← Time.offset? rest
  let seconds := days * 86400 + clock.seconds - offset
  if Time.isAnnotations rest && inRange seconds then some ⟨seconds⟩ else none

end Instant

end GatewayAdmission
