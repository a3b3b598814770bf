import GatewayAdmission.Text.Split

/-!
# IP addresses and endpoints

The literals of IPv4 are four decimal octets without leading zeros. Those of IPv6 are eight groups
of one to four hexadecimal digits, or fewer with `::` in place of one or more groups of zero; the
last two groups may be written as an IPv4 literal. Zones and brackets are no part of an address,
but an endpoint puts an IPv6 address in brackets, possibly with a numeric zone.
-/

namespace GatewayAdmission

inductive IpAddress where
  | v4 (octets : Vector UInt8 4)
  | v6 (groups : Vector UInt16 8)
deriving DecidableEq

namespace IpAddress

/-! ## Reading -/

def octet? (cs : List Char) : Option UInt8 :=
  if 3 < cs.length ∨ (1 < cs.length ∧ cs.head? = some '0') then none
  else (Text.decimal? cs).bind fun n => if n ≤ 255 then some (UInt8.ofNat n) else none

/-- The values as a vector, if there are exactly `n`. -/
def exactly? {α : Type} (n : Nat) (values : List α) : Option (Vector α n) :=
  if h : values.length = n then some ⟨values.toArray, by simpa using h⟩ else none

def octets? (cs : List Char) : Option (Vector UInt8 4) :=
  ((Text.splitAt '.' cs).mapM octet?).bind (exactly? 4)

def hexValue? (c : Char) : Option Nat :=
  if c.isDigit then some (c.toNat - '0'.toNat)
  else if 'a' ≤ c ∧ c ≤ 'f' then some (c.toNat - 'a'.toNat + 10)
  else if 'A' ≤ c ∧ c ≤ 'F' then some (c.toNat - 'A'.toNat + 10)
  else none

def group? (cs : List Char) : Option UInt16 :=
  if cs = [] ∨ 4 < cs.length then none
  else (cs.mapM hexValue?).map fun ds => UInt16.ofNat (ds.foldl (fun acc d => acc * 16 + d) 0)

/-- The two groups that an IPv4 literal stands for. -/
def groupsOfOctets (os : Vector UInt8 4) : List UInt16 :=
  [UInt16.ofNat (os[0].toNat * 256 + os[1].toNat), UInt16.ofNat (os[2].toNat * 256 + os[3].toNat)]

/-- The groups of parts between colons; the last part may be an IPv4 literal if `mixed`. -/
def groups? (mixed : Bool) : List (List Char) → Option (List UInt16)
  | [] => some []
  | [part] =>
    match group? part with
    | some g => some [g]
    | none => if mixed then (octets? part).map groupsOfOctets else none
  | part :: parts => (group? part).bind fun g => (groups? mixed parts).map (g :: ·)

/-- The groups of one side of `::`, which may be none. -/
def side? (mixed : Bool) (cs : List Char) : Option (List UInt16) :=
  if cs = [] then some [] else groups? mixed (Text.splitAt ':' cs)

def allGroups? (cs : List Char) : Option (Vector UInt16 8) :=
  match Text.breakAtPair ':' ':' cs with
  | none => (groups? true (Text.splitAt ':' cs)).bind (exactly? 8)
  | some (before, after) => (side? false before).bind fun head =>
      (side? true after).bind fun tail =>
        if head.length + tail.length ≤ 7 then
          exactly? 8 (head ++ List.replicate (8 - head.length - tail.length) 0 ++ tail)
        else none

def ofChars? (cs : List Char) : Option IpAddress :=
  ((octets? cs).map .v4).or ((allGroups? cs).map .v6)

/-- The address that a text is the literal of. -/
def parse? (s : String) : Option IpAddress := ofChars? s.toList

/-! ## Writing -/

def hexText (g : UInt16) : String := String.ofList (Nat.toDigits 16 g.toNat)

def joined (sep : String) (parts : List String) : String := sep.intercalate parts

/-- Where the first longest run of zeros starts, and its length. -/
def longestZeros (gs : List UInt16) : Nat × Nat :=
  let runs := (List.range gs.length).map fun i => (i, ((gs.drop i).takeWhile (· == 0)).length)
  runs.foldl (fun best run => if best.2 < run.2 then run else best) (0, 0)

def octetsText (os : List UInt8) : String := joined "." (os.map fun o => toString o.toNat)

def groupsText (gs : List UInt16) : String :=
  match gs with
  | [0, 0, 0, 0, 0, 0xFFFF, a, b] =>
    "::ffff:" ++ octetsText [(a / 256).toUInt8, a.toUInt8, (b / 256).toUInt8, b.toUInt8]
  | gs =>
    let (start, length) := longestZeros gs
    if length < 2 then joined ":" (gs.map hexText)
    else joined ":" ((gs.take start).map hexText) ++ "::"
      ++ joined ":" ((gs.drop (start + length)).map hexText)

/-- The usual literal: a run of at least two groups of zero is left out, the first longest. -/
def text : IpAddress → String
  | v4 octets => octetsText octets.toList
  | v6 groups => groupsText groups.toList

end IpAddress

/-- An address with a port, and a zone if it is an IPv6 address. -/
structure Endpoint where
  address : IpAddress
  zone : UInt32
  port : UInt16
deriving DecidableEq

namespace Endpoint

def port? (cs : List Char) : Option UInt16 :=
  (Text.decimal? cs).bind fun n => if n < UInt16.size then some (UInt16.ofNat n) else none

def zone? (cs : List Char) : Option UInt32 :=
  (Text.decimal? cs).bind fun n => if n < UInt32.size then some (UInt32.ofNat n) else none

/-- What is between brackets: an address and a zone. -/
def bracketed? (cs : List Char) : Option (Vector UInt16 8 × UInt32) :=
  match Text.splitAt '%' cs with
  | [address] => (IpAddress.allGroups? address).map (·, 0)
  | [address, zone] => (IpAddress.allGroups? address).bind fun gs => (zone? zone).map (gs, ·)
  | _ => none

def ofChars? (cs : List Char) : Option Endpoint :=
  match cs with
  | '[' :: rest =>
    (Text.breakAtPair ']' ':' rest).bind fun (inner, port) =>
      (bracketed? inner).bind fun (gs, zone) => (port? port).map fun p => ⟨.v6 gs, zone, p⟩
  | cs =>
    match Text.splitAt ':' cs with
    | [address, port] => (IpAddress.octets? address).bind fun os =>
        (port? port).map fun p => ⟨.v4 os, 0, p⟩
    | _ => none

/-- The endpoint that a text is the literal of. -/
def parse? (s : String) : Option Endpoint := ofChars? s.toList

def text (e : Endpoint) : String :=
  match e.address with
  | .v4 os => IpAddress.octetsText os.toList ++ ":" ++ toString e.port.toNat
  | .v6 gs =>
    let zone := if e.zone = 0 then "" else "%" ++ toString e.zone.toNat
    "[" ++ IpAddress.groupsText gs.toList ++ zone ++ "]:" ++ toString e.port.toNat

end Endpoint

end GatewayAdmission
