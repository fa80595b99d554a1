import CardSearch.Text.Encoding

/-!
# File systems

What a search can see of the disk: what stands under each path, with the bytes of files and the
names in directories.
-/

namespace CardSearch

/-- A path, or a name in a directory. These are bytes, most often those of a text. -/
abbrev Path := List UInt8

namespace Path

/-- The byte between the names of a path. -/
def separator : UInt8 := 0x2F

/-- The byte in front of an extension. -/
def dot : UInt8 := 0x2E

/-- The path of a name in a directory. -/
def join (directory name : Path) : Path :=
  if directory.getLast? = some separator then directory ++ name
  else directory ++ separator :: name

/-- Whether the part of a name after its last dot, which has to stand behind another part, is the
given extension. -/
def hasExtension (extension name : Path) : Bool :=
  let ending := dot :: extension
  ending.isSuffixOf name && name != ending

end Path

/-- What stands under a path. -/
inductive Entry where
  /-- A regular file, unless it cannot be read with its bytes. -/
  | file (content : Option ByteArray)
  /-- Something that is read like a file but is none, such as a pipe. -/
  | device (content : Option ByteArray)
  /-- A directory, unless it cannot be listed with the names in it. -/
  | directory (names : Option (List Path))

/-- Whether this is a regular file. -/
def Entry.isFile : Entry → Bool
  | .file _ => true
  | _       => false

/-- What stands under each path, if anything does. -/
abbrev FileSystem := Path → Option Entry

namespace FileSystem

/-- The file system with these entries. -/
def ofList (entries : List (Path × Entry)) : FileSystem := fun path => entries.lookup path

/-- The text under a path: something that can be read, in UTF-8. -/
def text? (fs : FileSystem) (path : Path) : Option String :=
  match fs path with
  | some (.file (some bytes))   => String.fromUTF8? bytes
  | some (.device (some bytes)) => String.fromUTF8? bytes
  | _                           => none

end FileSystem

end CardSearch
