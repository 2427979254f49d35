import LobbyPlacement.CommandLine.Course
import LobbyPlacement.Http.Api
import LobbyPlacement.Product

/-!
# The program

Reads the command line, the environment and a settings file, and runs what they ask for. A service
at work takes requests from standard input, a method and a target on each line, and answers them on
standard output; the end of the input asks it to terminate.
-/

namespace LobbyPlacement.Program

def usage : String := "Usage: game-coordinator [OPTIONS]

Options:
  -c, --config FILE            path to a settings file
      --health-check           ask the service at work for its health and exit
  -l, --log-level LEVEL        trace, debug, info, warn or error
      --http-port PORT         port of the assignment API
      --metrics-port PORT      port of the metrics server
      --servers ADDRS          game server addresses with commas between them
      --event-backend BACKEND  local or amqp
  -d, --debug                  set the log level to debug
      --dry-run                try the settings out and exit
  -h, --help                   print this text
  -V, --version                print the version"

/-- The variables that the settings and the journal look at. -/
def environment : IO Environment := do
  let found ← (Variable.all.map (·.name) ++ [Course.filterVariable]).mapM fun name => do
    return (← IO.getEnv name).map fun value => (name, value)
  return found.filterMap id

def settingsFile (path : String) : IO SettingsFile := do
  match ← (IO.FS.readBinFile path).toBaseIO with
  | .ok bytes => return ⟨path, .ok bytes.toList⟩
  | .error (.noFileOrDirectory ..) =>
    return ⟨path, .error "No such file or directory (os error 2)"⟩
  | .error e => return ⟨path, .error (toString e)⟩

def lineText : OutputLine → String
  | .journal line => line.level.label ++ " " ++ line.text
  | .plain s => s

def printLines (threshold : Nat) (lines : List OutputLine) : IO Unit :=
  (lines.filter (·.isShown threshold)).forM fun line => IO.println (lineText line)

def bodyText : Http.Body → String
  | .json v => v.compact
  | .text s => s

def answerText : Option Http.Answer → String
  | some a => Text.decimal a.status ++ " " ++ bodyText a.body
  | none => ""

/-- Prints what the journal has told since `printed` lines, and says how many there are now. -/
def printNews (threshold printed : Nat) (s : Session) : IO Nat := do
  printLines threshold (OutputLine.ofJournal (s.service.journal.drop printed))
  return s.service.journal.length

partial def serve (threshold printed started : Nat) (s : Session) : IO Unit := do
  let printed ← printNews threshold printed s
  let line ← (← IO.getStdin).getLine
  let s := s.advance ((← IO.monoMsNow) - started - s.service.now)
  match line.trimAscii.toString.splitOn " " with
  | [method, target] =>
    let (service, answer) := s.service.serve fun desk =>
      Http.api desk (.ofText method) (.ofText target)
    IO.println (answerText answer)
    serve threshold printed started { s with service := service }
  | _ =>
    if line.isEmpty then
      printLines threshold ((s.close .terminate).lines.drop printed)
    else serve threshold printed started s

def finish (threshold : Nat) (f : Finish) : IO UInt32 := do
  printLines threshold f.lines
  return UInt32.ofNat f.code

def refusedConnection (_ : String) : Except String Nat :=
  .error "Connection refused (os error 111)"

def run (o : Options) : IO UInt32 := do
  let file ← o.config.mapM settingsFile
  match Course.ofOptions o file (← environment) refusedConnection .unreachable with
  | .refused fault =>
    IO.eprintln ("Configuration error: " ++ fault.message)
    return 1
  | .finished threshold f => finish threshold f
  | .waiting threshold journal => finish threshold ⟨1, OutputLine.ofJournal journal⟩
  | .started threshold session =>
    serve threshold 0 ((← IO.monoMsNow) - session.service.now) session
    return 0

end LobbyPlacement.Program

open LobbyPlacement in
def main (arguments : List String) : IO UInt32 := do
  match Options.ofArguments arguments with
  | .ok o => Program.run o
  | .error e =>
    match e with
    | .help => IO.println Program.usage
    | .version => IO.println (Product.name ++ " " ++ Product.version)
    | .misuse => IO.eprintln Program.usage
    return UInt32.ofNat e.code
