import GatewayAdmission.Json.Basic
import GatewayAdmission.Json.Token

/-!
# Documents

A `Document` is the tree of a JSON text with nothing lost or judged: entries stand in the order of
the text, repeated keys included, and a string or number without a value is still there, as
`none`. What a text may hold is decided by whoever reads the tree, part by part.

`Document.parse?` builds the tree of a text with a stack of the arrays and objects still open, so
nesting is bounded by nothing here. `Document.ofJson` is the tree of a value.
-/

namespace GatewayAdmission

inductive Document where
  | null
  | bool (value : Bool)
  | num (value : Option Number)
  | str (value : Option String)
  | arr (items : List Document)
  | obj (entries : List (Option String × Document))

namespace Document

/-! ## Building -/

/-- An open array or object, with what is complete of it in reverse. -/
inductive Frame where
  | arr (done : List Document)
  | obj (done : List (Option String × Document)) (key : Option String)

/-- What may come next. -/
inductive Place where
  | value
  | itemOrClose
  | keyOrClose (done : List (Option String × Document))
  | key (done : List (Option String × Document))
  | colon (done : List (Option String × Document)) (key : Option String)
  | after (value : Document)

/-- The value of a token that is a value by itself. -/
def ofToken? : Token → Option Document
  | .null => some .null
  | .bool b => some (.bool b)
  | .num n => some (.num n)
  | .str s => some (.str s)
  | _ => none

/-- Where a value starts: the place after it, or inside it if it opens. -/
def start? (t : Token) (stack : List Frame) : Option (Place × List Frame) :=
  match t with
  | .openArr => some (.itemOrClose, stack)
  | .openObj => some (.keyOrClose [], stack)
  | t => (ofToken? t).map fun d => (.after d, stack)

/-- One token at a place. -/
def step? (t : Token) : Place → List Frame → Option (Place × List Frame)
  | .value, stack => start? t stack
  | .itemOrClose, stack =>
    if t = .closeArr then some (.after (.arr []), stack) else start? t (.arr [] :: stack)
  | .keyOrClose done, stack =>
    match t with
    | .closeObj => some (.after (.obj done.reverse), stack)
    | .str k => some (.colon done k, stack)
    | _ => none
  | .key done, stack =>
    match t with
    | .str k => some (.colon done k, stack)
    | _ => none
  | .colon done k, stack => if t = .colon then some (.value, .obj done k :: stack) else none
  | .after d, .arr done :: stack =>
    match t with
    | .comma => some (.value, .arr (d :: done) :: stack)
    | .closeArr => some (.after (.arr (d :: done).reverse), stack)
    | _ => none
  | .after d, .obj done k :: stack =>
    match t with
    | .comma => some (.key ((k, d) :: done), stack)
    | .closeObj => some (.after (.obj ((k, d) :: done).reverse), stack)
    | _ => none
  | .after _, [] => none

/-- The value of the tokens, if they are exactly one. -/
def build? : List Token → Place → List Frame → Option Document
  | [], .after d, [] => some d
  | [], _, _ => none
  | t :: ts, place, stack =>
    match step? t place stack with
    | some (place', stack') => build? ts place' stack'
    | none => none

/-- The tree of a text, if the text is one value with only blanks around it. -/
def parse? (text : List UInt8) : Option Document :=
  (Token.list? text).bind fun ts => build? ts .value []

/-! ## The tree of a value -/

mutual

def ofJson : Json → Document
  | .null => .null
  | .bool b => .bool b
  | .num n => .num (some n)
  | .str s => .str (some s)
  | .arr items => .arr (ofItems items)
  | .obj entries => .obj (ofEntries entries)

def ofItems : List Json → List Document
  | [] => []
  | j :: rest => ofJson j :: ofItems rest

def ofEntries : List (String × Json) → List (Option String × Document)
  | [] => []
  | (k, j) :: rest => (some k, ofJson j) :: ofEntries rest

end

/-! ## The value of a tree -/

/-- How many more arrays and objects may open around a value that is kept; `none` sets no bound. -/
abbrev Room := Option Nat

/-- The room inside one more array or object. -/
def Room.enter? : Room → Option Room
  | none => some none
  | some 0 => none
  | some (n + 1) => some (some n)

/-- The room for a text: at most 127 levels. -/
def Room.ofText : Room := some 127

mutual

/-- The value of a tree whose strings and numbers all have one and whose nesting fits the room;
entries in the order of the text. -/
def toJson? (room : Room) : Document → Option Json
  | .null => some .null
  | .bool b => some (.bool b)
  | .num n => n.map .num
  | .str s => s.map .str
  | .arr items => room.enter?.bind fun inner => (itemsToJson? inner items).map .arr
  | .obj entries => room.enter?.bind fun inner => (entriesToJson? inner entries).map .obj

def itemsToJson? (room : Room) : List Document → Option (List Json)
  | [] => some []
  | d :: rest => (toJson? room d).bind fun j => (itemsToJson? room rest).map (j :: ·)

def entriesToJson? (room : Room) :
    List (Option String × Document) → Option (List (String × Json))
  | [] => some []
  | (k, d) :: rest => k.bind fun key => (toJson? room d).bind fun j =>
      (entriesToJson? room rest).map ((key, j) :: ·)

end

end Document

namespace Json

/-- The value of a text; a text that nests too deeply or holds an unreadable part has none. -/
def parse? (text : List UInt8) : Option Json :=
  (Document.parse? text).bind (Document.toJson? .ofText)

end Json

end GatewayAdmission
