import GatewayAdmission.CommandLine.Arguments
import GatewayAdmission.Http.Server
import GatewayAdmission.Log.Line

/-!
# The program

From the command line to a server: the arguments and the environment make a configuration, the
configuration names the files of the keypair, and the keypair makes the server. Whatever goes
wrong on the way ends the program; `Program.configure` and `Program.load` say how.
-/

namespace GatewayAdmission

/-- How the program ends before it serves anything. -/
structure Ending where
  exitCode : UInt32
  /-- What goes to the standard output beside the log. -/
  output : String := ""
  /-- What goes to the standard error. -/
  complaint : String := ""
  log : LogOutput := .silent

/-- A server and the configuration that it was made by. -/
structure Program where
  config : Config
  server : Server

namespace Program

def version : String := "0.1.0"

/-- The name of the program with its version, the long form saying what kind of build it is. -/
def versionText (long : Bool) : String :=
  if long then "admission-server gateway-api-admission-webhook version: " ++ version ++ " (dev)\n"
  else "admission-server " ++ version ++ "\n"

/-- The options, one on a line. -/
def usage : String :=
  let option (s : Setting) : String :=
    "  --" ++ s.name ++ (if s.isSwitch then "" else " <VALUE>") ++ " [env: "
      ++ s.environmentVariable ++ "]\n"
  "Usage: admission-server [OPTIONS]\n\nOptions:\n" ++ String.join (Setting.all.map option)
    ++ "  -h, --help\n  -V, --version\n"

/-- The end after a command line that gives no options. -/
def stopped : Stop → Ending
  | .help => { exitCode := 0, output := usage }
  | .version long => { exitCode := 0, output := versionText long }
  | .refused error => { exitCode := 2, complaint := "error: " ++ error.message ++ "\n" }

/-- The configuration of a command line and an environment. -/
def configure (arguments : List String) (environment : List (String × String)) :
    Except Ending Config :=
  match Options.ofArguments arguments environment with
  | .error stop => .error (stopped stop)
  | .ok options => (Config.ofOptions options).mapError fun e =>
      { exitCode := 1, complaint := "Error: " ++ e.message ++ "\n" }

/-- The program with a configuration and the contents of the files it names. -/
def load (config : Config) (certFile keyFile : Option ByteArray) : Except Ending Program :=
  match Keypair.load certFile keyFile with
  | .ok keypair => .ok ⟨config, .new keypair⟩
  | .error e => .error {
      exitCode := 1
      log := config.logSettings.write
        [.configured config, .failed (e.message config.certFile config.keyFile)] }

/-- What is told about a start that went well. -/
def startLog (p : Program) : LogOutput :=
  p.config.logSettings.write
    (.configured p.config :: p.server.engine.announcements
      ++ [.ready p.server.engine.registry.size])

/-- What is told about a posted text that has been read. -/
def requestLog (p : Program) (body : ByteArray) : LogOutput :=
  let failure : List Event := match p.server.engine.review body with
    | .ok _ => []
    | .error e => if e.isClientError then [] else [.requestFailed 500 e.message]
  p.config.logSettings.write (p.server.engine.reviewEvents body ++ failure)

end Program

end GatewayAdmission
