import CallTransfer.Gateway.World
import CallTransfer.Settings.CommandLine
import CallTransfer.Settings.EnvFile.Basic

/-!
    The program: the command line says whether to show the version, to handle one event that stands
    in a file or comes in, or to wait for events to be handed out. Variables in the file `.env` are
    added to the environment.
-/

namespace CallTransfer.Program

/-- What the program finds when it is started. -/
structure Start where
  args : List String
  env : Environment
  files : List (String × String)
  input : String

/-- What it leaves behind. -/
structure Finish where
  code : Nat
  output : String
  error : Option String
  deriving DecidableEq, Repr

/-- What the program is called. -/
def name : String := "pstn-transfer"

/-- An end without an answer. -/
def failed (error : String) : Finish := ⟨1, "", some ("Error: " ++ error)⟩

/-- An end without so much as an error. -/
def collapsed : Finish := ⟨101, "", none⟩

/-- The end after a command line that asks for no invocation. -/
def declined : CommandLine.Fault → Finish
  | .displayVersion => ⟨0, name ++ " " ++ Settings.ownVersion ++ "\n", none⟩
  | .displayHelp => ⟨0, "", none⟩
  | _ => ⟨2, "", none⟩

/-- The settings, with the environment file. -/
def settings (start : Start) : Settings :=
  Settings.ofEnvironment <| match start.files.lookup ".env" with
    | some file => EnvFile.load start.env file
    | none => start.env

/-- The text of the event. -/
def eventText (start : Start) (file : Option String) : Except String String :=
  match file with
  | none => .ok start.input
  | some name =>
    match start.files.lookup name with
    | some text => .ok text
    | none => .error ("Error reading event file " ++ name)

/-- Handles one event and shows the answer. -/
def handleOne (start : Start) (file : Option String) : StateM World Finish := fun w =>
  match eventText start file with
  | .error error => (failed error, w)
  | .ok text =>
    match Event.decode? text with
    | none => (failed "Error decoding event", w)
    | some event =>
      match World.handle (settings start) event w with
      | (.ok answer, w) => (⟨0, Transfer.renderAnswer answer ++ "\n", none⟩, w)
      | (.error (.failed failure), w) => (failed failure.message, w)
      | (.error (.crashed _), w) => (collapsed, w)

/-- What comes of an event that is handed out: an answer, or why there is none. -/
def handleNext (settings : Settings) (event : Event) : StateM World (Except String String) :=
  fun w =>
    match World.handle settings event w with
    | (.ok answer, w) => (.ok (Transfer.renderAnswer answer), w)
    | (.error (.failed failure), w) => (.error failure.message, w)
    | (.error (.crashed crash), w) => (.error crash.message, w)

/-- The variables that whoever hands events out has to set. -/
def hostVariables : List String :=
  ["AWS_LAMBDA_FUNCTION_NAME", "AWS_LAMBDA_FUNCTION_MEMORY_SIZE", "AWS_LAMBDA_FUNCTION_VERSION",
    "AWS_LAMBDA_RUNTIME_API"]

/-- Waits for events until no more are handed out, which is an error. Whoever hands them out cannot
    be reached over an isolated network. -/
def handleAll (start : Start) (events : List Event) :
    StateM World (Finish × List (Except String String)) := do
  let reached := if (← get).network.isolated then [] else events
  let results ← reached.mapM (handleNext (settings start))
  return (failed "Lambda runtime error: connection error", results)

/-- Runs the program. -/
def run (start : Start) (events : List Event) :
    StateM World (Finish × List (Except String String)) :=
  match CommandLine.parse start.args (start.env.var? "LOG_LEVEL") with
  | .error fault => pure (declined fault, [])
  | .ok arguments =>
    if arguments.test then do return (← handleOne start arguments.eventFile, [])
    else if hostVariables.all fun name => (start.env.var? name).isSome then
      handleAll start events
    else pure (collapsed, [])

end CallTransfer.Program
