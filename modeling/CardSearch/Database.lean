import CardSearch.Card
import CardSearch.Event
import CardSearch.FileSystem.Basic
import CardSearch.Json.Reader

/-!
# Card databases

A database is a file with one card or an array of cards, or a directory of such files, which are
read in the order of their names. Loading it succeeds as a whole or fails at the first file that
holds no cards.
-/

namespace CardSearch.Database

/-- Why a database cannot be loaded. -/
inductive LoadError where
  /-- The directory cannot be listed. -/
  | unlisted (path : Path)
  /-- The file cannot be read as text. -/
  | unread (path : Path)
  /-- The file holds something other than cards. -/
  | noCards (path : Path)
deriving DecidableEq, Repr

/-- The text of an error. -/
def LoadError.message : LoadError → String
  | .unlisted path => "Failed to read directory " ++ Text.ofBytes path
  | .unread path   => "Failed to read " ++ Text.ofBytes path
  | .noCards path  => "Failed to parse cards in " ++ Text.ofBytes path

/-- How deep the arrays and objects of a document may lie inside one another. -/
def depthLimit : Nat := 127

/-- The cards that a text holds: one card, or an array of cards. -/
def cards? (text : String) : Option (List Card) :=
  match Json.read? depthLimit text with
  | some (.array items) => items.mapM Card.ofJson?
  | some v              => (Card.ofJson? v).map ([·])
  | none                => none

/-- The cards of a file. -/
def readFile (fs : FileSystem) (path : Path) : Except LoadError (List Card) :=
  match fs.text? path with
  | none      => .error (.unread path)
  | some text =>
    match cards? text with
    | none       => .error (.noCards path)
    | some cards => .ok cards

/-- The extension of the files of a database. -/
def extension : Path := Text.bytes "json"

/-- Whether a name in a directory stands for a file of the database. -/
def isMember (fs : FileSystem) (directory name : Path) : Bool :=
  Path.hasExtension extension name && (fs (Path.join directory name)).any Entry.isFile

/-- The files of a database, in the order in which they are read. -/
def files (fs : FileSystem) (path : Path) : Except LoadError (List Path) :=
  match fs path with
  | some (.directory none)         => .error (.unlisted path)
  | some (.directory (some names)) =>
    .ok (((names.filter (isMember fs path)).mergeSort (· ≤ ·)).map (Path.join path))
  | _                              => .ok [path]

/-- The cards of some files, one file after the other. -/
def readFiles (fs : FileSystem) : List Path → Except LoadError (List Card)
  | []            => .ok []
  | path :: paths =>
    match readFile fs path with
    | .error e  => .error e
    | .ok cards => (readFiles fs paths).map (cards ++ ·)

/-- The cards of a database. -/
def load (fs : FileSystem) (path : Path) : Except LoadError (List Card) :=
  (files fs path).bind (readFiles fs)

/-- Reported while a database is loaded: every file that was read, and the whole at the end. -/
def events (fs : FileSystem) (path : Path) : List Event :=
  match files fs path with
  | .error _   => []
  | .ok paths  =>
    (paths.takeWhile fun p => (readFile fs p).isOk).map .fileRead ++
      match readFiles fs paths with
      | .error _  => []
      | .ok cards => [.databaseLoaded path cards.length]

end CardSearch.Database
