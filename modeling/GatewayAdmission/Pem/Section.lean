import GatewayAdmission.Pem.Base64

/-!
# Labelled sections

A text may hold sections between a line that opens them and a line that closes them, both with the
label of the section. `PemSection.list` gives the sections of a text that are complete, in their
order, with their content as it stands there; text outside them is skipped.

A section that opens inside another one takes its place and keeps its content. An opening line
that is not well formed ends what is open.
-/

namespace GatewayAdmission

structure PemSection where
  label : List UInt8
  content : List UInt8
deriving DecidableEq

namespace PemSection

/-- The lines of a text; a carriage return ends a line as a line feed does. -/
def lines : List UInt8 → List (List UInt8)
  | [] => []
  | [b] => if b = 10 ∨ b = 13 then [[]] else [[b]]
  | b :: rest =>
    if b = 10 ∨ b = 13 then [] :: lines rest
    else match lines rest with
      | [] => [[b]]
      | line :: more => (b :: line) :: more

def dash : UInt8 := 45

def dashes : List UInt8 := List.replicate 5 dash

def opening : List UInt8 := dashes ++ "BEGIN ".toUTF8.data.toList

def closing (label : List UInt8) : List UInt8 :=
  dashes ++ "END ".toUTF8.data.toList ++ label ++ dashes

/-- The label of an opening line: what is in front of its dashes at the end, which have to be
five. Blanks between and behind the dashes do not count. -/
def label? (line : List UInt8) : Option (List UInt8) :=
  let ending := line.reverse.takeWhile fun b => b = dash || b = 32
  if ending.count dash = 5 then
    let blanksInFront := (ending.reverse.takeWhile (· = 32)).length
    some ((line.take (line.length - ending.length + blanksInFront)).drop opening.length)
  else none

/-- The section that is open, if any, and the sections that are complete, the last one first. -/
structure Progress where
  current : Option PemSection
  done : List PemSection

namespace Progress

def readLine (p : Progress) (line : List UInt8) : Progress :=
  if opening.isPrefixOf line then
    { p with current := (label? line).map fun label =>
        ⟨label, (p.current.map (·.content)).getD []⟩ }
  else match p.current with
    | none => p
    | some s =>
      if (closing s.label).isPrefixOf line then ⟨none, s :: p.done⟩
      else { p with current := some { s with content := s.content ++ line } }

end Progress

/-- The complete sections of a text. -/
def list (text : List UInt8) : List PemSection :=
  ((lines text).foldl Progress.readLine ⟨none, []⟩).done.reverse

/-- The bytes in the sections with one of the labels. A section whose content is no Base64 is
skipped. -/
def decoded (labels : List String) (text : List UInt8) : List (List UInt8) :=
  ((list text).filter fun s => labels.any (·.toUTF8.data.toList == s.label)).filterMap fun s =>
    Base64.decode? s.content

end PemSection

end GatewayAdmission
