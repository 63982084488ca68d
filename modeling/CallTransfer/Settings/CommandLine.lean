import CallTransfer.Text.Search

/-!
    The command line: `--test`, `--log-level LEVEL`, `--help` or `-h`, `--version` or `-V`, and a
    file that only goes with `--test`. Words are read in order and the FIRST fault counts. A word
    that is kept for a later check, the level after its option or the file, is settled when the
    next known option, the next file or the end is reached.
-/

namespace CallTransfer.CommandLine

/-- Why a command line is not followed. -/
inductive Fault where
  | missingRequiredArgument
  | unknownArgument
  | tooManyValues
  | invalidValue
  | argumentConflict
  | displayHelp
  | displayVersion
  deriving DecidableEq, Repr

/-- What a command line asks for. -/
structure Arguments where
  test : Bool
  eventFile : Option String
  logLevel : Option String
  deriving DecidableEq, Repr

/-- A word that is kept for a later check. -/
inductive Pending where
  | nothing
  | level (word : Option String)
  | file (word : String)
  deriving DecidableEq, Repr

/-- How far a command line has been read: after `--` every word is a file. -/
structure Progress where
  args : Arguments
  pending : Pending
  filesOnly : Bool
  hasFile : Bool
  deriving Repr

/-- Before the first word. -/
def start : Progress := ⟨⟨false, none, none⟩, .nothing, false, false⟩

/-- Settles a level: it must have come and be the first. -/
def setLevel (p : Progress) (word : Option String) : Except Fault Progress :=
  match word, p.args.logLevel with
  | none, _ => .error .invalidValue
  | some _, some _ => .error .argumentConflict
  | some w, none =>
    .ok { p with args := { p.args with logLevel := some w }, pending := .nothing }

/-- Settles the word that is kept. -/
def settle (p : Progress) : Except Fault Progress :=
  match p.pending with
  | .nothing => .ok p
  | .level word => setLevel p word
  | .file word =>
    if word = "" then .error .invalidValue
    else .ok { p with args := { p.args with eventFile := some word }, pending := .nothing }

/-- A file. -/
def readFile (p : Progress) (word : String) : Except Fault Progress :=
  if p.hasFile then .error .unknownArgument
  else do
    let p ← settle p
    return { p with pending := .file word, hasFile := true }

/-- A long option with what follows its equals sign. -/
def readLong (p : Progress) (name : List Char) (value : Option String) : Except Fault Progress :=
  let flag (use : Progress → Except Fault Progress) : Except Fault Progress :=
    match value with
    | some _ => .error .tooManyValues
    | none => settle p >>= use
  if name = "test".toList then
    flag fun p =>
      if p.args.test then .error .argumentConflict
      else .ok { p with args := { p.args with test := true } }
  else if name = "help".toList then flag fun _ => .error .displayHelp
  else if name = "version".toList then flag fun _ => .error .displayVersion
  else if name = "log-level".toList then do
    let p ← settle p
    match value with
    | some v => setLevel p (some v)
    | none => return { p with pending := .level none }
  else .error .unknownArgument

/-- Short options; the first one decides. -/
def readShort (p : Progress) : List Char → Except Fault Progress
  | 'h' :: _ => settle p >>= fun _ => .error .displayHelp
  | 'V' :: _ => settle p >>= fun _ => .error .displayVersion
  | _ => .error .unknownArgument

/-- A word that is no option: the level that is waited for, or a file. -/
def readPlain (p : Progress) (word : String) : Except Fault Progress :=
  match p.pending with
  | .level none => .ok { p with pending := .level (some word) }
  | _ => readFile p word

/-- One word. -/
def readWord (p : Progress) (word : String) : Except Fault Progress :=
  if p.filesOnly then readFile p word
  else match word.toList with
    | ['-', '-'] => .ok { p with filesOnly := true }
    | '-' :: '-' :: option =>
      let name := option.takeWhile (· ≠ '=')
      match option.drop name.length with
      | _ :: value => readLong p name (some (String.ofList value))
      | [] => readLong p name none
    | '-' :: c :: letters => readShort p (c :: letters)
    | _ => readPlain p word

/-- A whole command line; a level that is not given is taken from the environment. -/
def parse (words : List String) (levelDefault : Option String) : Except Fault Arguments := do
  let p ← words.foldlM readWord start
  let p ← settle p
  if p.args.eventFile.isSome && !p.args.test then throw .missingRequiredArgument
  return { p.args with logLevel := p.args.logLevel.orElse fun _ => levelDefault }

end CallTransfer.CommandLine
