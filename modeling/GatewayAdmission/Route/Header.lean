import GatewayAdmission.Field.Error
import GatewayAdmission.Json.Record
import GatewayAdmission.Occurrence
import GatewayAdmission.Scan
import GatewayAdmission.Text.LowerCase

/-!
# Headers

What a route does to headers and how it matches them. Names of headers are compared in lower case.
A header that is the target of several actions of one modifier is reported once, at the second
action; a header that is matched several times is reported once, by its canonical name.
-/

namespace GatewayAdmission

structure HttpHeader where
  name : String
  value : String

/-- Headers to set, to add and to remove. -/
structure HeaderModifier where
  set : List HttpHeader := []
  add : List HttpHeader := []
  remove : List String := []

structure HeaderMatch where
  type : Option String
  name : String
  value : String

namespace HttpHeader

def fields : Fields HttpHeader :=
  .iso (.cons (.defaulted "name" .text "") <| .cons (.defaulted "value" .text "") .nil)
    (fun (name, value, ()) => { name, value })
    (fun h => (h.name, h.value, ()))

def codec : Codec HttpHeader := .record .plain fields

end HttpHeader

namespace HeaderMatch

def fields : Fields HeaderMatch :=
  .iso (.cons (.optional "type" .text) <|
      .cons (.defaulted "name" .text "") <|
      .cons (.defaulted "value" .text "") .nil)
    (fun (type, name, value, ()) => { type, name, value })
    (fun m => (m.type, m.name, m.value, ()))

def codec : Codec HeaderMatch := .record .plain fields

end HeaderMatch

namespace HeaderModifier

def fields : Fields HeaderModifier :=
  .iso (.cons (.someList "set" HttpHeader.codec) <|
      .cons (.someList "add" HttpHeader.codec) <|
      .cons (.someList "remove" .text) .nil)
    (fun (set, add, remove, ()) => { set, add, remove })
    (fun m => (m.set, m.add, m.remove, ()))

def codec : Codec HeaderModifier := .record .plain fields

/-! ## One action per header -/

/-- An action on a header: its name in lower case, the list it stands in, its entry there. -/
structure Action where
  name : String
  list : String
  entry : Json

def Action.ofHeader (list : String) (h : HttpHeader) : Action :=
  ⟨Text.lowerCase h.name, list, (HttpHeader.codec.write h).sorted⟩

/-- The actions in the order in which they are looked at. -/
def actions (m : HeaderModifier) : List Action :=
  m.add.map (.ofHeader "add") ++ m.set.map (.ofHeader "set")
    ++ m.remove.map fun name => ⟨Text.lowerCase name, "remove", .str name⟩

/-- The error at a second action on a header. -/
def actionError (path : FieldPath) (a : Action) : FieldError :=
  .invalid (path.child a.list) a.entry "cannot specify multiple actions for header"

/-- Looks at an action. Kept of a header that has been the target of one is whether another is still
to be reported. -/
def look (path : FieldPath) (due : List (String × Bool)) (_index : Nat) (a : Action) :
    List FieldError × List (String × Bool) :=
  match due.lookup a.name with
  | none => ([], (a.name, true) :: due)
  | some needsError => (if needsError then [actionError path a] else [], (a.name, false) :: due)

/-- An error for every header that several actions are about. -/
def check (path : FieldPath) (m : HeaderModifier) : List FieldError :=
  scan (look path) [] m.actions

end HeaderModifier

namespace HeaderName

/-! ## Canonical names -/

/-- Whether a character may stand in the name of a header. -/
def isTokenChar (c : Char) : Bool := c.isAlphanum || "!#$%&'*+-.^_\x60|~".toList.contains c

/-- Capital letters where a word starts and small ones elsewhere; `start` says whether a word
starts. -/
def capitalize (start : Bool) : List Char → List Char
  | [] => []
  | c :: rest => (if start then c.toUpper else c.toLower) :: capitalize (c == '-') rest

/-- The canonical spelling of a name. A text that is no name is left as it is. -/
def canonical (name : String) : String :=
  if name.isEmpty || !name.toList.all isTokenChar then name
  else String.ofList (capitalize true name.toList)

end HeaderName

namespace HeaderMatch

/-- An error for every header that is matched more than once. -/
def check (path : FieldPath) (ms : List HeaderMatch) : List FieldError :=
  (secondOccurrences id (ms.map fun m => Text.lowerCase m.name)).map fun name =>
    .invalid path (.str (HeaderName.canonical name))
      "cannot match the same header multiple times in the same rule"

end HeaderMatch

end GatewayAdmission
