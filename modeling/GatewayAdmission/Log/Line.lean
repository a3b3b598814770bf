import GatewayAdmission.Log.Event

/-!
# Lines of the log

One line for each event that the threshold lets through, as a JSON value or as text. The time in
front of a line is left to whoever prints it.
-/

namespace GatewayAdmission

/-- How the log is written. -/
structure LogSettings where
  threshold : LogLevel
  format : LogFormat
  noColor : Bool
deriving DecidableEq

inductive LogLine where
  | text (s : String)
  | json (j : Json)

/-- What is written to the log. -/
structure LogOutput where
  lines : List LogLine
  /-- Whether the lines are written in color. -/
  colored : Bool

/-- Why there is no log. -/
inductive LogSetupError where
  | unknownLevel
  | unknownFormat
deriving DecidableEq

def LogSetupError.message : LogSetupError → String
  | unknownLevel => "Unknown log level"
  | unknownFormat => "Unknown log message format"

namespace LogValue

/-- The value on a line of text. -/
def lineText : LogValue → String
  | text s => Text.quoted s
  | shown s => s
  | count n => toString n

/-- The value on a line of JSON. -/
def json : LogValue → Json
  | text s | shown s => .str s
  | count n => ((WholeNumber.ofInt? n).map fun w => .num (.whole w)).getD .null

end LogValue

/-- A character of a message on a line of text. Control characters that a terminal may act upon
are shown by their number. -/
def messageChar (c : Char) : List Char :=
  let n := c.toNat
  if n = 0x1B ∨ n = 0x07 ∨ n = 0x08 ∨ n = 0x0C ∨ n = 0x7F then
    ['\\', 'x', Nat.digitChar (n / 16), Nat.digitChar (n % 16)]
  else if 0x80 ≤ n ∧ n ≤ 0x9F then ['\\', 'u', '\x7b'] ++ Nat.toDigits 16 n ++ ['\x7d']
  else [c]

namespace Event

/-- The line of text: level, target, message and fields. -/
def lineText (e : Event) : String :=
  e.level.heading ++ " " ++ e.target ++ ": " ++ String.ofList (e.message.toList.flatMap messageChar)
    ++ String.join (e.fields.map fun (name, value) => " " ++ name ++ "=" ++ value.lineText)

/-- The line of JSON, in which the message is one of the fields. -/
def json (e : Event) : Json :=
  .obj [("level", .str e.level.heading),
    ("fields", .obj (("message", .str e.message) ::
      e.fields.map fun (name, value) => (name, value.json))),
    ("target", .str e.target)]

end Event

namespace LogSettings

/-- The settings by the names of level and format. -/
def ofNames (level format : String) (noColor : Bool) : Except LogSetupError LogSettings :=
  match LogLevel.ofName? level, LogFormat.ofName? format with
  | none, _ => .error .unknownLevel
  | some _, none => .error .unknownFormat
  | some threshold, some format => .ok { threshold, format, noColor }

def line (s : LogSettings) (e : Event) : LogLine :=
  match s.format with
  | .text => .text e.lineText
  | .json => .json e.json

/-- What is written about events, in their order. -/
def write (s : LogSettings) (events : List Event) : LogOutput :=
  let lines := (events.filter fun e => s.threshold.admits e.level).map s.line
  ⟨lines, s.format == .text && !s.noColor && !lines.isEmpty⟩

end LogSettings

namespace LogOutput

/-- A log without lines. -/
def silent : LogOutput := ⟨[], false⟩

/-- A line as it is printed. -/
def printed (o : LogOutput) : LogLine → String
  | .text s => if o.colored then "\x1b[2m" ++ s ++ "\x1b[0m" else s
  | .json j => j.render

end LogOutput

def Config.logSettings (c : Config) : LogSettings := ⟨c.logLevel, c.logFormat, c.noColor⟩

end GatewayAdmission
