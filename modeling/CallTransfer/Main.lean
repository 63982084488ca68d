import CallTransfer.Program

/-!
    The command line. It gathers what the program finds when it is started, shows what it leaves
    behind, and decides nothing. No network can be reached from here.
-/

namespace CallTransfer.Main

/-- The variables that the program looks at. -/
def variableNames : List String :=
  ["HTTP_MAX_RETRIES", "HTTP_RETRY_BASE_DELAY", "HTTP_CLIENT_TIMEOUT", "LOG_LEVEL",
    "DEBUG_LOGGING", "LAMBDA_VERSION"] ++ Program.hostVariables ++ Transfer.ownKeys

/-- The environment, as far as the program looks at it. -/
def environment : IO Environment := do
  let values ← variableNames.filterMapM fun name => do
    return (← IO.getEnv name).map (name, ·)
  return ⟨values⟩

/-- The files among the names given that can be read. -/
def filesNamed (names : List String) : IO (List (String × String)) :=
  names.filterMapM fun (name : String) => do
    try return some (name, ← IO.FS.readFile name)
    catch _ => return none

/-- The world at the start, which is cut off from everything else. -/
def world : IO World := do
  let now ← IO.monoMsNow
  return ⟨⟨true, [], []⟩, TokenDesk.opened now, ⟨true, .binary, []⟩⟩

/-- All that comes in, if it is asked for. -/
def inputFor (args : List String) : IO String := do
  match CommandLine.parse args none with
  | .ok ⟨true, none, _⟩ => (← IO.getStdin).readToEnd
  | _ => return ""

/-- Runs the program and shows what it leaves behind. -/
def run (args : List String) : IO UInt32 := do
  let files ← filesNamed (".env" :: args)
  let input ← inputFor args
  let env ← environment
  let ((finish, _), _) := (Program.run ⟨args, env, files, input⟩ []).run (← world)
  IO.print finish.output
  match finish.error with
  | some error => IO.eprintln error
  | none => pure ()
  return UInt32.ofNat finish.code

end CallTransfer.Main

/-- The program. -/
def main (args : List String) : IO UInt32 := CallTransfer.Main.run args
