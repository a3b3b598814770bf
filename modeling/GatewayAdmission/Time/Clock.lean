/-!
# Reading times of day

A time of day is an hour, possibly with minutes and seconds, with or without colons between them;
a fraction may follow the seconds. An offset from universal time is a sign and such a time, or the
letter Z. `clock?` and `offset?` read one from the front of a text and give what follows it.
-/

namespace GatewayAdmission

namespace Time

/-- A number of exactly `n` digits at the front. -/
def digits? (n : Nat) (cs : List Char) : Option (Int × List Char) :=
  let ds := cs.take n
  if ds.length = n ∧ ds.all Char.isDigit then
    some (ds.foldl (fun acc c => acc * 10 + ((c.toNat : Int) - 48)) 0, cs.drop n)
  else none

/-- A number of `n` digits, in a range. -/
def ranged? (n : Nat) (low high : Int) (cs : List Char) : Option (Int × List Char) := do
  let (v, rest) ← digits? n cs
  if low ≤ v ∧ v ≤ high then some (v, rest) else none

/-- What stands in front of the next part of a time: a colon, or nothing but then a digit has to
follow. `none` if there is no further part. -/
def nextPart? (coloned : Bool) (cs : List Char) : Option (List Char) :=
  match cs with
  | [] => none
  | c :: rest =>
    if coloned then (if c = ':' then some rest else none)
    else if c.isDigit then some cs else none

/-- The digits of a fraction, one to nine of them. -/
def fraction? (cs : List Char) : Option (List Char × List Char) :=
  match cs with
  | mark :: rest =>
    if mark = '.' ∨ mark = ',' then
      let ds := rest.takeWhile Char.isDigit
      if 1 ≤ ds.length ∧ ds.length ≤ 9 then some (ds, rest.drop ds.length) else none
    else some ([], cs)
  | [] => some ([], [])

structure Clock where
  /-- The whole seconds since midnight. -/
  seconds : Int
  /-- The digits of the fraction behind them. -/
  fraction : List Char
deriving DecidableEq

/-- The seconds, half a second and more counting as one. -/
def Clock.rounded (t : Clock) : Int :=
  if '5' ≤ t.fraction.headD '0' then t.seconds + 1 else t.seconds

/-- A time of day, the sixtieth second being taken for the one before it. -/
def clock? (hourMax secondMax : Int) (cs : List Char) : Option (Clock × List Char) := do
  let (hour, rest) ← ranged? 2 0 hourMax cs
  let coloned := rest.head? == some ':'
  match nextPart? coloned rest with
  | none => return (⟨hour * 3600, []⟩, rest)
  | some rest =>
    let (minute, rest) ← ranged? 2 0 59 rest
    match nextPart? coloned rest with
    | none => return (⟨hour * 3600 + minute * 60, []⟩, rest)
    | some rest =>
      let (second, rest) ← ranged? 2 0 secondMax rest
      let (fraction, rest) ← fraction? rest
      return (⟨hour * 3600 + minute * 60 + min second 59, fraction⟩, rest)

/-- The offsets from universal time lie less than 26 hours apart from it. -/
def offsetMax : Int := 93599

/-- The offset that a time of day stands for behind its sign. -/
def signedOffset? (sign : Int) (cs : List Char) : Option (Int × List Char) := do
  let (clock, rest) ← clock? 25 59 cs
  if clock.rounded ≤ offsetMax then some (sign * clock.rounded, rest) else none

/-- The offset from universal time, in seconds. -/
def offset? : List Char → Option (Int × List Char)
  | 'Z' :: rest | 'z' :: rest => some (0, rest)
  | '+' :: rest => signedOffset? 1 rest
  | '-' :: rest => signedOffset? (-1) rest
  | _ => none

end Time

end GatewayAdmission
