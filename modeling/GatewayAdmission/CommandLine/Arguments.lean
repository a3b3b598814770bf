import GatewayAdmission.CommandLine.Setting

/-!
# Arguments

Reads the arguments from left to right up to the first one that ends the reading: a request for
help or for the version, or a fault. An option has its value behind an equals sign or in the next
argument. A value that stands apart is looked at only when the next option comes or the arguments
end, so an argument that is no option at all is reported before it.

`Options.ofArguments` is the outcome together with the environment, which counts where an option is
missing.
-/

namespace GatewayAdmission

/-- Why no options come out. -/
inductive Stop where
  | help
  /-- The version is asked for, in its long form or in its short one. -/
  | version (long : Bool)
  | refused (error : UsageError)
deriving DecidableEq

/-- An argument by its form. -/
inductive Argument where
  /-- Two dashes alone: what follows is no option. -/
  | separator
  | long (name : String) (value : Option String)
  /-- A dash and at least one character. -/
  | short (first : Char)
  | word (text : String)
deriving DecidableEq

namespace Argument

def ofLongChars (cs : List Char) : Argument :=
  match cs.dropWhile (· ≠ '=') with
  | [] => .long (String.ofList cs) none
  | _ :: value =>
    .long (String.ofList (cs.takeWhile (· ≠ '='))) (some (String.ofList value))

def ofText (s : String) : Argument :=
  match s.toList with
  | ['-', '-'] => .separator
  | '-' :: '-' :: rest => ofLongChars rest
  | '-' :: first :: _ => .short first
  | _ => .word s

end Argument

/-- The options read so far, and the one whose value stands apart, with that value if it has
come. -/
structure Reading where
  options : Options
  pending : Option (Setting × Option String)

namespace Reading

def give (o : Options) (setting : Setting) (value : String) : Except Stop Options :=
  if o.holds setting then .error (.refused .repeated) else (o.put setting value).mapError .refused

/-- Takes in the option that is pending. -/
def settle (r : Reading) : Except Stop Options :=
  match r.pending with
  | none => .ok r.options
  | some (_, none) => .error (.refused .missingValue)
  | some (setting, some value) => give r.options setting value

/-- Ends the reading, once the pending option is in order. -/
def stop (r : Reading) (s : Stop) : Except Stop Reading := do
  let _ ← r.settle
  .error s

/-- An option by its name. -/
def readLong (r : Reading) (name : String) (value : Option String) : Except Stop Reading :=
  let switch (next : Except Stop Reading) : Except Stop Reading :=
    if value.isSome then .error (.refused .needlessValue) else next
  if name = "help" then switch (r.stop .help)
  else if name = "version" then switch (r.stop (.version true))
  else match Setting.ofName? name with
    | none => .error (.refused .unknownArgument)
    | some setting =>
      if setting.isSwitch then
        switch do
          let settled ← r.settle
          let options ← give settled setting "true"
          return ⟨options, none⟩
      else do
        let settled ← r.settle
        match value with
        | some value => return ⟨← give settled setting value, none⟩
        | none => return ⟨settled, some (setting, none)⟩

/-- An argument in front of any separator. -/
def step (r : Reading) : Argument → Except Stop Reading
  | .separator => .ok r
  | .long name value => r.readLong name value
  | .short 'h' => r.stop .help
  | .short 'V' => r.stop (.version false)
  | .short _ => .error (.refused .unknownArgument)
  | .word text =>
    match r.pending with
    | some (setting, none) => .ok { r with pending := some (setting, some text) }
    | _ => .error (.refused .unknownArgument)

/-- Reads all arguments. Nothing may follow the separator. -/
def read (r : Reading) : List Argument → Except Stop Options
  | [] => r.settle
  | [.separator] => r.settle
  | .separator :: _ => .error (.refused .unknownArgument)
  | a :: rest => do (← r.step a).read rest

end Reading

namespace Options

/-- Adds what the environment says of settings that have no value. -/
def addEnvironment (environment : List (String × String)) :
    List Setting → Options → Except Stop Options
  | [], o => .ok o
  | setting :: rest, o =>
    match environment.lookup setting.environmentVariable with
    | some value =>
      if o.holds setting then addEnvironment environment rest o
      else do addEnvironment environment rest (← (o.put setting value).mapError .refused)
    | none => addEnvironment environment rest o

/-- The options of a command line and an environment. -/
def ofArguments (arguments : List String) (environment : List (String × String)) :
    Except Stop Options := do
  let options ← Reading.read ⟨{}, none⟩ (arguments.map Argument.ofText)
  options.addEnvironment environment Setting.all

end Options

end GatewayAdmission
