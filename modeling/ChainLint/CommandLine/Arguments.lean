/-!
# Arguments

`Request.ofArguments args` is what the arguments of the program ask for, or why they are not accepted.
Options may stand before and behind paths.  A short option takes its value from the rest of its
argument, with or without an equals sign, or from the next argument; a long one takes it behind an
equals sign or from the next argument.  Behind `--` everything is a path.  No option may stand twice,
and arguments are taken in their order, so help that is asked for comes before later mistakes.
-/

namespace ChainLint.CommandLine

/-- How reports are written. -/
inductive Format
  | pretty
  | json
deriving DecidableEq, Inhabited

/-- The format of a name. -/
def Format.ofText? : String → Option Format
  | "pretty" => some .pretty
  | "json" => some .json
  | _ => none

/-- The options. -/
inductive Switch
  | listRules
  | config
  | format
  | quiet
  | help
deriving DecidableEq, Inhabited

namespace Switch

/-- Every option with its long name and, if it has one, its letter. -/
def names : List (Switch × String × Option Char) :=
  [(.listRules, "list-rules", none), (.config, "config", some 'c'), (.format, "format", some 'f'),
    (.quiet, "quiet", some 'q'), (.help, "help", some 'h')]

/-- The option of a long name. -/
def ofName? (name : String) : Option Switch :=
  (names.find? fun n => n.2.1 = name).map (·.1)

/-- The option of a letter. -/
def ofLetter? (c : Char) : Option Switch :=
  (names.find? fun n => n.2.2 = some c).map (·.1)

/-- The long name of an option. -/
def name (s : Switch) : String :=
  ((names.find? fun n => n.1 = s).map (·.2.1)).getD ""

/-- Whether an option has a value. -/
def takesValue : Switch → Bool
  | .config | .format => true
  | _ => false

end Switch

/-- Why arguments are not accepted. -/
inductive UsageError
  | unknownOption (argument : String)
  | repeated (s : Switch)
  | missingValue (s : Switch)
  | unexpectedValue (s : Switch)
  | unknownFormat (text : String)
  | emptyPath
  | noPaths
deriving DecidableEq, Inhabited

/-- The wording of an error. -/
def UsageError.message : UsageError → String
  | .unknownOption argument => "unexpected argument '" ++ argument ++ "' found"
  | .repeated s => "the argument '--" ++ s.name ++ "' cannot be used multiple times"
  | .missingValue s => "a value is required for '--" ++ s.name ++ "' but none was supplied"
  | .unexpectedValue s => "unexpected value for '--" ++ s.name ++ "' found"
  | .unknownFormat text => "invalid value '" ++ text ++ "' for '--format'"
  | .emptyPath => "a path may not be empty"
  | .noPaths => "no paths were provided"

/-- What files are to be linted and how the outcome is shown. -/
structure LintRequest where
  paths : List String
  config : Option String
  format : Format
  quiet : Bool
deriving DecidableEq, Inhabited

/-- What the arguments ask for. -/
inductive Request
  | lint (request : LintRequest)
  | listRules
  | help
deriving DecidableEq, Inhabited

/-- The arguments that have been taken. -/
structure Draft where
  paths : List String
  listRules : Bool
  config : Option String
  format : Option Format
  quiet : Bool
  help : Bool
deriving DecidableEq, Inhabited

namespace Draft

/-- No argument has been taken. -/
def empty : Draft := ⟨[], false, none, none, false, false⟩

/-- Takes a path. -/
def addPath (d : Draft) (path : String) : Except UsageError Draft :=
  if path = "" then .error .emptyPath else .ok { d with paths := d.paths ++ [path] }

/-- Takes paths. -/
def addPaths (d : Draft) : List String → Except UsageError Draft
  | [] => .ok d
  | path :: rest =>
    match d.addPath path with
    | .ok d => addPaths d rest
    | .error e => .error e

/-- Takes an option that has no value. -/
def addFlag (d : Draft) (s : Switch) : Except UsageError Draft :=
  match s with
  | .listRules => if d.listRules then .error (.repeated s) else .ok { d with listRules := true }
  | .quiet => if d.quiet then .error (.repeated s) else .ok { d with quiet := true }
  | .help => .ok { d with help := true }
  | .config | .format => .error (.missingValue s)

/-- Takes an option with its value. -/
def addValue (d : Draft) (s : Switch) (text : String) : Except UsageError Draft :=
  match s with
  | .config =>
    if d.config.isSome then .error (.repeated s)
    else if text = "" then .error .emptyPath
    else .ok { d with config := some text }
  | .format =>
    if d.format.isSome then .error (.repeated s)
    else
      match Format.ofText? text with
      | some f => .ok { d with format := some f }
      | none => .error (.unknownFormat text)
  | _ => .error (.unexpectedValue s)

/-- What the arguments ask for when no more follow. -/
def request (d : Draft) : Except UsageError Request :=
  if d.help then .ok .help
  else if d.listRules then .ok .listRules
  else if d.paths.isEmpty then .error .noPaths
  else .ok (.lint ⟨d.paths, d.config, d.format.getD .pretty, d.quiet⟩)

end Draft

/-- Options that have been taken, and the one whose value is the next argument. -/
abbrev Taken := Draft × Option Switch

/-- Takes letters of one argument; the rest of a letter that has a value is its value. -/
def takeLetters (d : Draft) : List Char → Except UsageError Taken
  | [] => .ok (d, none)
  | c :: cs =>
    if d.help then .ok (d, none)
    else
      match Switch.ofLetter? c with
      | none => .error (.unknownOption (String.ofList ['-', c]))
      | some s =>
        if s.takesValue then
          match cs with
          | [] => .ok (d, some s)
          | '=' :: value => (d.addValue s (String.ofList value)).map (·, none)
          | value => (d.addValue s (String.ofList value)).map (·, none)
        else
          match d.addFlag s with
          | .ok d => takeLetters d cs
          | .error e => .error e

/-- Takes an option by its long name, with the value behind an equals sign. -/
def takeName (d : Draft) (text : List Char) : Except UsageError Taken :=
  let name := text.takeWhile (· ≠ '=')
  match Switch.ofName? (String.ofList name), text.drop name.length with
  | none, _ => .error (.unknownOption (String.ofList ('-' :: '-' :: name)))
  | some s, '=' :: value => (d.addValue s (String.ofList value)).map (·, none)
  | some s, _ => if s.takesValue then .ok (d, some s) else (d.addFlag s).map (·, none)

/-- Takes one argument other than the double hyphen. -/
def takeArgument (d : Draft) (arg : String) : Except UsageError Taken :=
  match arg.toList with
  | '-' :: '-' :: text => takeName d text
  | '-' :: c :: cs => takeLetters d (c :: cs)
  | _ => (d.addPath arg).map (·, none)

/-- Whether an argument can be the value of the option before it. -/
def isValue (arg : String) : Bool :=
  match arg.toList with
  | '-' :: _ :: _ => false
  | _ => true

/-- What the arguments ask for, some having been taken. -/
def readArguments (d : Draft) : List String → Except UsageError Request
  | [] => d.request
  | arg :: rest =>
    if d.help then .ok .help
    else if arg = "--" then (d.addPaths rest).bind Draft.request
    else
      match takeArgument d arg with
      | .error e => .error e
      | .ok (d, none) => readArguments d rest
      | .ok (d, some s) =>
        match rest with
        | [] => .error (.missingValue s)
        | value :: rest =>
          if isValue value then
            match d.addValue s value with
            | .ok d => readArguments d rest
            | .error e => .error e
          else .error (.missingValue s)

/-- What arguments ask for. -/
def Request.ofArguments (args : List String) : Except UsageError Request :=
  readArguments .empty args

end ChainLint.CommandLine
