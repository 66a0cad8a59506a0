import PredicateIndex.Path.Basic

/-!
# Files and directories

A disk is the list of the files and directories that are known. A path is followed name by name: two
points go back to the directory that holds the one before, which must exist, and a path that ends in
a slash leads to a directory only.
-/
namespace PredicateIndex

/-- A file or directory. -/
structure DiskEntry where
  /-- Whether it is a directory. -/
  isDirectory : Bool := false
  /-- The permission bits. -/
  mode : Nat := 0o644
  /-- What a file holds. -/
  bytes : List UInt8 := []
  deriving DecidableEq, Repr

/-- Whether a file can be run by anyone. -/
def DiskEntry.canRun (entry : DiskEntry) : Bool := entry.mode &&& 0o111 != 0

/-- The known files and directories under their absolute paths; what holds them exists too. -/
abbrev Disk := List (FilePath × DiskEntry)

namespace Disk

/-- Whether a list of names is a directory of a disk. -/
def isDirectory (disk : Disk) (names : List String) : Bool :=
  names.isEmpty || disk.any fun (path, entry) =>
    (path.names == names && entry.isDirectory) ||
      (names.length < path.names.length && names.isPrefixOf path.names)

/-- The names that a path leads to from a directory. -/
def follow (disk : Disk) (done : List String) : List String → Option (List String)
  | [] => some done
  | name :: rest =>
    if name == ".." then
      if isDirectory disk done then follow disk done.dropLast rest else none
    else follow disk (done ++ [name]) rest

/-- The entry with a list of names. -/
def named? (disk : Disk) (names : List String) : Option DiskEntry :=
  (disk.find? fun (known, _) => known.names == names).map Prod.snd

/-- The entry that an absolute path leads to. -/
def lookup? (disk : Disk) (path : FilePath) : Option DiskEntry := do
  named? disk (← if path.isAbsolute then follow disk [] path.names else none)

/-- The file that an absolute path leads to. -/
def file? (disk : Disk) (path : FilePath) : Option DiskEntry :=
  (lookup? disk path).filter fun entry => !entry.isDirectory

/-- What a path leads to. -/
inductive Place where
  /-- Nothing. -/
  | missing
  /-- A directory. -/
  | directory
  /-- A file, with its absolute path and its bytes. -/
  | file (path : FilePath) (bytes : List UInt8)
  deriving DecidableEq, Repr

/-- Whether a written path can lead to a directory only. -/
def wantsDirectory (text : String) : Bool := text.endsWith "/" || text.endsWith "/."

/-- What a written path leads to from a working directory. The empty path leads to nothing. -/
def place (disk : Disk) (working : FilePath) (text : String) : Place :=
  match follow disk [] (working.join (.ofText text)).names with
  | none => .missing
  | some names =>
    if text.isEmpty then .missing
    else if isDirectory disk names then .directory
    else match named? disk names with
      | some entry =>
        if wantsDirectory text then .missing else .file { root := "/", names } entry.bytes
      | none => .missing

end Disk

end PredicateIndex
