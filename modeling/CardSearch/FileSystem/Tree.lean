import CardSearch.FileSystem.Basic

/-!
# File trees

Files and directories that are held in memory. A path is followed from the root step by step, and
every step but the last has to lead into a directory.
-/

namespace CardSearch

/-- Files and directories, each under the names that lead to it. The directories around them are
there as well. -/
structure FileTree where
  files : List (List Path × ByteArray)
  directories : List (List Path)

namespace FileTree

/-- Everything that is named in a tree. -/
def places (t : FileTree) : List (List Path) := t.files.map Prod.fst ++ t.directories

/-- Whether names lead to a directory. -/
def isDirectory (t : FileTree) (names : List Path) : Bool :=
  t.directories.contains names ||
    t.places.any fun place => names.isPrefixOf place && names != place

/-- The names in a directory. -/
def children (t : FileTree) (names : List Path) : List Path :=
  (t.places.filterMap fun place =>
    if names.isPrefixOf place then (place.drop names.length).head? else none).eraseDups

/-- Where the steps of a path lead. A single dot stays and two dots go back. -/
def follow (t : FileTree) (here : List Path) : List Path → Option (List Path)
  | []            => some here
  | step :: steps =>
    if t.isDirectory here then
      if step = [] ∨ step = [Path.dot] then t.follow here steps
      else if step = [Path.dot, Path.dot] then t.follow here.dropLast steps
      else t.follow (here ++ [step]) steps
    else none

/-- The steps of a path. -/
def steps (path : Path) : List Path := List.splitOn Path.separator path

/-- What stands where some names lead. -/
def entry? (t : FileTree) (names : List Path) : Option Entry :=
  if t.isDirectory names then some (.directory (some (t.children names)))
  else (t.files.lookup names).map fun bytes => .file (some bytes)

/-- The file system that a tree makes. The empty path leads nowhere. -/
def fileSystem (t : FileTree) : FileSystem := fun path =>
  if path.isEmpty then none else (t.follow [] (steps path)).bind t.entry?

end FileTree

end CardSearch
