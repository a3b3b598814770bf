import GatewayAdmission.Text.CaseTable

/-!
# Lower case

`lowerCase` takes every letter to its small form. One letter has two characters there, the dotted
capital I, and one depends on where it stands: the Greek capital sigma is a final sigma after a
letter unless a letter follows, marks without case being looked through on both sides.
-/

namespace GatewayAdmission

namespace Text

/-- The small form of a character whatever its neighbours are. -/
def lowerChar (c : Char) : List Char :=
  if c.toNat < 0x80 then [c.toLower]
  else if c.toNat = 0x130 then ['i', Char.ofNat 0x307]
  else
    let run := caseRuns.find? fun (first, last, step, _) =>
      first ≤ c.toNat && c.toNat ≤ last && (c.toNat - first) % step == 0
    match run with
    | some (_, _, _, distance) => [Char.ofNat (c.toNat + distance).toNat]
    | none => [c]

/-- Whether the first character that is not looked through is a letter with case. -/
def startsWithLetter (cs : List Char) : Bool :=
  match cs.dropWhile CharSet.caseIgnorable.contains with
  | [] => false
  | c :: _ => CharSet.cased.contains c

/-- The small form of characters, `before` being those in front of them in reverse. -/
def lowerChars (before : List Char) : List Char → List Char
  | [] => []
  | c :: rest =>
    let small :=
      if c = 'Σ' then [if startsWithLetter before && !startsWithLetter rest then 'ς' else 'σ']
      else lowerChar c
    small ++ lowerChars (c :: before) rest

/-- The text in lower case. -/
def lowerCase (s : String) : String := String.ofList (lowerChars [] s.toList)

end Text

end GatewayAdmission
