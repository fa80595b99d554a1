import CardSearch.CommandLine.Arguments
import CardSearch.CommandLine.Run

/-!
# The command

Reads the arguments and the files, runs the command line and writes what came out of it. Results
go to the standard output; events, refusals and failures go to the standard error.
-/

namespace CardSearch.CommandLine

/-! ### Texts -/

/-- The name of the command and its version. -/
def versionText : String := "cardsearch 0.1.0\n"

/-- How the command is called. -/
def helpText : String :=
  "Search a card collection.\n\n" ++
  "Usage: cardsearch [OPTIONS] [QUERY]\n\n" ++
  "  -c, --cards PATH             JSON file with cards, or a directory of such files\n" ++
  "      --sort FIELD[:asc|:desc] Sort key, most significant first (repeatable)\n" ++
  "      --group FIELD            Group results by a field (repeatable)\n" ++
  "      --unique cards|printings One row for each name or each printing\n" ++
  "      --filter ALIASES=FIELD   Extra filter (repeatable)\n" ++
  "      --strict                 Refuse malformed queries\n" ++
  "      --explain                Show the query instead of searching\n" ++
  "      --json                   Show results as a JSON array\n" ++
  "  -v, --verbose                Show more events (repeatable)\n" ++
  "  -h, --help                   Show this text\n" ++
  "  -V, --version                Show the version\n"

/-- How a setting is written. -/
def Setting.write : Setting → String
  | .cards  => "--cards"
  | .sort   => "--sort"
  | .group  => "--group"
  | .unique => "--unique"
  | .filter => "--filter"

/-- How a switch is written. -/
def Switch.write : Switch → String
  | .strict  => "--strict"
  | .explain => "--explain"
  | .json    => "--json"
  | .verbose => "--verbose"
  | .help    => "--help"
  | .version => "--version"

/-- The text of a refusal. -/
def Refusal.message : Refusal → String
  | .unknown argument          => "unexpected argument '" ++ argument ++ "'"
  | .missingValue s            => "a value is required for '" ++ s.write ++ "'"
  | .badValue s value          => "invalid value '" ++ value ++ "' for '" ++ s.write ++ "'"
  | .badFilter value fault     =>
    "invalid value '" ++ value ++ "' for '--filter': " ++ fault.message value
  | .unexpectedValue s value   => "unexpected value '" ++ value ++ "' for '" ++ s.write ++ "'"
  | .repeatedSetting s         => "'" ++ s.write ++ "' cannot be used more than once"
  | .repeatedSwitch s          => "'" ++ s.write ++ "' cannot be used more than once"
  | .help                      => helpText
  | .version                   => versionText

/-- A detail of an event in a line. -/
def detailText : String × Detail → String
  | (name, .number n) => " " ++ name ++ "=" ++ toString n
  | (name, .text s)   => " " ++ name ++ "=" ++ Text.quoted s

/-- An event on one line. -/
def eventText (e : Event) : String :=
  e.level.token ++ " " ++ e.message ++ String.join (e.details.map detailText)

/-! ### Files -/

/-- Takes a value, if no error comes up. -/
def attempt {α : Type} (act : IO α) : IO (Option α) := do
  try return some (← act) catch _ => return none

/-- Looks at a path. Nothing is found under one that is no text. -/
def lookAt (path : Path) : IO (Option Entry) := do
  let some name := String.fromUTF8? ⟨path.toArray⟩ | return none
  let place := (← IO.currentDir) / name
  match ← attempt place.metadata with
  | none      => return none
  | some info =>
    match info.type with
    | .dir  =>
      return some (.directory ((← attempt place.readDir).map fun entries =>
        entries.toList.map fun entry => Text.bytes entry.fileName))
    | .file => return some (.file (← attempt (IO.FS.readBinFile place)))
    | _     => return some (.device (← attempt (IO.FS.readBinFile place)))

/-- Looks at everything that belongs to the database under a path. -/
def lookAround (path : Path) : IO FileSystem := do
  match ← lookAt path with
  | none       => return FileSystem.ofList []
  | some entry =>
    let names :=
      match entry with
      | .directory (some names) => names.filter (Path.hasExtension Database.extension)
      | _                       => []
    let members ← (names.map (Path.join path)).filterMapM fun member => do
      return (← lookAt member).map fun found => (member, found)
    return FileSystem.ofList ((path, entry) :: members)

/-- Looks at the database, if the command line gets to use it. -/
def lookFor (o : Options) : IO FileSystem :=
  match o.cards? with
  | some path => if o.explain then return FileSystem.ofList [] else lookAround path
  | none      => return FileSystem.ofList []

/-! ### The command -/

/-- Runs a command line and writes what comes out. The result is the exit code. -/
def perform (o : Options) : IO UInt32 := do
  let (result, console) := (o.run (← lookFor o)).run.run .blank
  for e in console.log do
    if e.level.verbosity ≤ o.verbosity then IO.eprintln (eventText e)
  IO.print console.out
  match result with
  | .ok ()         => return 0
  | .error failure =>
    IO.eprintln ("Error: " ++ failure.message)
    if let some cause := failure.cause? then IO.eprintln ("Caused by: " ++ cause.message)
    return failure.exitCode.toUInt32

end CardSearch.CommandLine

open CardSearch.CommandLine in
/-- Runs the command with its arguments. -/
def main (arguments : List String) : IO UInt32 := do
  match Options.ofArguments arguments with
  | .ok o           => perform o
  | .error .help    =>
    IO.print helpText
    return 0
  | .error .version =>
    IO.print versionText
    return 0
  | .error refusal  =>
    IO.eprintln ("error: " ++ refusal.message)
    return 2
