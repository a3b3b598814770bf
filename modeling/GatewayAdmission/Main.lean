import GatewayAdmission.Program

/-!
# The command line program

Starts the program with the arguments, the environment and the files that they name, then takes
each line of the standard input for the body of a request and prints the body of the answer.
-/

namespace GatewayAdmission

/-- The variables of the environment that the program looks at. -/
def readEnvironment : IO (List (String × String)) :=
  Setting.all.filterMapM fun s =>
    return (← IO.getEnv s.environmentVariable).map (s.environmentVariable, ·)

def contents? (file : String) : IO (Option ByteArray) :=
  try return some (← IO.FS.readBinFile file) catch _ => return none

def printLog (o : LogOutput) : IO Unit :=
  for line in o.lines do IO.println (o.printed line)

def finish (e : Ending) : IO UInt32 := do
  printLog e.log
  IO.print e.output
  IO.eprint e.complaint
  return e.exitCode

/-- Answers the lines of a stream until it ends. -/
def answerLines (p : Program) (input : IO.FS.Stream) : IO Unit := do
  repeat
    let line ← input.getLine
    if line.isEmpty then break
    let body := line.toUTF8
    printLog (p.requestLog body)
    IO.println (Service.validate p.server.engine body).1.body

def runProgram (arguments : List String) : IO UInt32 := do
  match Program.configure arguments (← readEnvironment) with
  | .error e => finish e
  | .ok config =>
    match Program.load config (← contents? config.certFile) (← contents? config.keyFile) with
    | .error e => finish e
    | .ok p =>
      printLog p.startLog
      answerLines p (← IO.getStdin)
      return 0

end GatewayAdmission

def main (arguments : List String) : IO UInt32 := GatewayAdmission.runProgram arguments
