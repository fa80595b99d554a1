import CardSearch.Filter

/-!
# Filter specifications

A filter that is given on the command line: its aliases between commas, an equals sign, and the
field that it reads. Blanks around an alias or the field do not count, and neither do aliases that
are blank.
-/

namespace CardSearch.CommandLine

/-- Aliases for a field. -/
structure FilterSpec where
  aliases : List String
  field : String
deriving DecidableEq, Repr

/-- What is wrong with a specification. -/
inductive FilterSpecFault where
  | noEquals
  | noAlias
  | noField
deriving DecidableEq, Repr

/-- The text of a fault in a specification. -/
def FilterSpecFault.message (given : String) : FilterSpecFault → String
  | .noEquals => "expected ALIASES=FIELD, got '" ++ given ++ "'"
  | .noAlias  => "no alias given in '" ++ given ++ "'"
  | .noField  => "no field given in '" ++ given ++ "'"

namespace FilterSpec

/-- The filter that is specified. -/
def toFilter (spec : FilterSpec) : Filter := ⟨spec.aliases, .field spec.field⟩

/-- The aliases in the part before the equals sign. -/
def readAliases (cs : List Char) : List String :=
  ((cs.splitOn ',').map fun piece => String.ofList (Text.trimList piece)).filter (!·.isEmpty)

/-- The specification that a text stands for. The first equals sign ends the aliases. -/
def read (s : String) : Except FilterSpecFault FilterSpec :=
  match s.toList.dropWhile (· ≠ '=') with
  | []        => .error .noEquals
  | _ :: rest =>
    let aliases := readAliases (s.toList.takeWhile (· ≠ '='))
    let field := String.ofList (Text.trimList rest)
    if aliases.isEmpty then .error .noAlias
    else if field.isEmpty then .error .noField
    else .ok ⟨aliases, field⟩

/-- A specification as text. -/
def write (spec : FilterSpec) : String := ",".intercalate spec.aliases ++ "=" ++ spec.field

end FilterSpec

end CardSearch.CommandLine
