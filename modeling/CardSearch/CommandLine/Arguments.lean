import CardSearch.CommandLine.Options

/-!
# Arguments

The options that the arguments of a command line stand for. Arguments are taken one after the
other. An option can have its value attached or as the next argument; such a value is looked at
only when the argument behind it is taken, so an argument that stands for nothing is reported
before a value in front of it that is wrong.
-/

namespace CardSearch.CommandLine

/-! ### Names of options -/

/-- An option with a value. -/
inductive Setting where
  | cards
  | sort
  | group
  | unique
  | filter
deriving DecidableEq, Repr

/-- An option without a value. -/
inductive Switch where
  | strict
  | explain
  | json
  | verbose
  | help
  | version
deriving DecidableEq, Repr

/-- An option of either kind. -/
inductive OptionName where
  | setting (s : Setting)
  | switch (s : Switch)
deriving DecidableEq, Repr

/-- The option with a long name, which stands behind two dashes. -/
def OptionName.ofLong? : String → Option OptionName
  | "cards"   => some (.setting .cards)
  | "sort"    => some (.setting .sort)
  | "group"   => some (.setting .group)
  | "unique"  => some (.setting .unique)
  | "filter"  => some (.setting .filter)
  | "strict"  => some (.switch .strict)
  | "explain" => some (.switch .explain)
  | "json"    => some (.switch .json)
  | "verbose" => some (.switch .verbose)
  | "help"    => some (.switch .help)
  | "version" => some (.switch .version)
  | _         => none

/-- The option with a short name, which stands behind one dash. -/
def OptionName.ofShort? : Char → Option OptionName
  | 'c' => some (.setting .cards)
  | 'v' => some (.switch .verbose)
  | 'h' => some (.switch .help)
  | 'V' => some (.switch .version)
  | _   => none

/-! ### Refusals -/

/-- Why arguments are not read as options. -/
inductive Refusal where
  /-- The argument stands for nothing. -/
  | unknown (argument : String)
  | missingValue (s : Setting)
  | badValue (s : Setting) (value : String)
  | badFilter (value : String) (fault : FilterSpecFault)
  | unexpectedValue (s : Switch) (value : String)
  /-- The option can be given only once. -/
  | repeatedSetting (s : Setting)
  /-- The option can be given only once. -/
  | repeatedSwitch (s : Switch)
  /-- Help was asked for. -/
  | help
  /-- The version was asked for. -/
  | version
deriving DecidableEq, Repr

/-! ### Options one by one -/

/-- How often more details can be asked for. -/
def verbosityLimit : Nat := 255

namespace Options

/-- Gives a setting a value. -/
def set (o : Options) (s : Setting) (value : String) : Except Refusal Options :=
  match s with
  | .sort   => .ok { o with sorting := o.sorting ++ [SortKey.read value] }
  | .group  => .ok { o with grouping := o.grouping ++ [value] }
  | .cards  =>
    if o.cards?.isSome then .error (.repeatedSetting .cards)
    else if value.isEmpty then .error (.badValue .cards value)
    else .ok { o with cards? := some (Text.bytes value) }
  | .unique =>
    if o.unique?.isSome then .error (.repeatedSetting .unique)
    else
      match Unique.ofToken? value with
      | none   => .error (.badValue .unique value)
      | some u => .ok { o with unique? := some u }
  | .filter =>
    match FilterSpec.read value with
    | .error fault => .error (.badFilter value fault)
    | .ok spec     => .ok { o with filters := o.filters ++ [spec] }

/-- Turns a switch on. -/
def turnOn (o : Options) (s : Switch) : Except Refusal Options :=
  match s with
  | .strict  => if o.strict then .error (.repeatedSwitch s) else .ok { o with strict := true }
  | .explain => if o.explain then .error (.repeatedSwitch s) else .ok { o with explain := true }
  | .json    => if o.json then .error (.repeatedSwitch s) else .ok { o with json := true }
  | .verbose => .ok { o with verbosity := min verbosityLimit (o.verbosity + 1) }
  | .help    => .error .help
  | .version => .error .version

end Options

/-! ### Arguments one by one -/

/-- A setting whose value has not been looked at. -/
inductive Pending where
  | nothing
  /-- The value has still to come. -/
  | awaiting (s : Setting)
  | holding (s : Setting) (value : String)

/-- What has been read of the arguments. -/
structure Reader where
  options : Options
  pending : Pending

namespace Reader

/-- Before the first argument. -/
def start : Reader := ⟨{}, .nothing⟩

/-- The options, with the pending value. -/
def settle (r : Reader) : Except Refusal Options :=
  match r.pending with
  | .nothing         => .ok r.options
  | .awaiting s      => .error (.missingValue s)
  | .holding s value => r.options.set s value

/-- Goes on with a setting whose value is attached. -/
def set (r : Reader) (s : Setting) (value : String) : Except Refusal Reader := do
  let o ← r.settle
  return ⟨← o.set s value, .nothing⟩

/-- Goes on with a setting whose value is the next argument. -/
def await (r : Reader) (s : Setting) : Except Refusal Reader := do
  return ⟨← r.settle, .awaiting s⟩

/-- Goes on with a switch. -/
def turnOn (r : Reader) (s : Switch) : Except Refusal Reader := do
  let o ← r.settle
  return ⟨← o.turnOn s, .nothing⟩

/-- Goes on with an argument that is not an option. Only one can be the query. -/
def takeQuery (r : Reader) (argument : String) : Except Refusal Reader :=
  if r.options.query?.isSome then .error (.unknown argument)
  else do
    let o ← r.settle
    return ⟨{ o with query? := some argument }, .nothing⟩

/-- Goes on with an argument that has no dash: a value that is awaited, or the query. -/
def takePlain (r : Reader) (argument : String) : Except Refusal Reader :=
  match r.pending with
  | .awaiting s => .ok { r with pending := .holding s argument }
  | _           => r.takeQuery argument

/-- Goes on with a long name. An equals sign attaches a value. -/
def takeLong (r : Reader) (cs : List Char) : Except Refusal Reader :=
  let name := String.ofList (cs.takeWhile (· ≠ '='))
  match OptionName.ofLong? name, cs.dropWhile (· ≠ '=') with
  | none,              _          => .error (.unknown ("--" ++ name))
  | some (.setting s), []         => r.await s
  | some (.setting s), _ :: value => r.set s (String.ofList value)
  | some (.switch s),  []         => r.turnOn s
  | some (.switch s),  _ :: value => .error (.unexpectedValue s (String.ofList value))

/-- Goes on with short names. What stands behind the name of a setting is its value, with or
without an equals sign. -/
def takeShort (r : Reader) : List Char → Except Refusal Reader
  | []      => .ok r
  | c :: cs =>
    match OptionName.ofShort? c, cs with
    | none,              _            => .error (.unknown (String.ofList ['-', c]))
    | some (.switch s),  _            => do (← r.turnOn s).takeShort cs
    | some (.setting s), []           => r.await s
    | some (.setting s), '=' :: value => r.set s (String.ofList value)
    | some (.setting s), value        => r.set s (String.ofList value)

/-- Goes on with arguments of which none is an option. -/
def takeQueries (r : Reader) : List String → Except Refusal Reader
  | []                    => .ok r
  | argument :: arguments => do (← r.takeQuery argument).takeQueries arguments

/-- Goes on with arguments. Two dashes end the options. -/
def takeAll (r : Reader) : List String → Except Refusal Reader
  | []                    => .ok r
  | argument :: arguments =>
    match argument.toList with
    | ['-', '-']       => r.takeQueries arguments
    | '-' :: '-' :: cs => do (← r.takeLong cs).takeAll arguments
    | '-' :: c :: cs   => do (← r.takeShort (c :: cs)).takeAll arguments
    | _                => do (← r.takePlain argument).takeAll arguments

end Reader

/-- The options that arguments stand for. -/
def Options.ofArguments (arguments : List String) : Except Refusal Options :=
  (Reader.start.takeAll arguments).bind Reader.settle

end CardSearch.CommandLine
