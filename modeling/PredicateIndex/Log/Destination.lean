import PredicateIndex.Config.Basic
import PredicateIndex.Path.Disk
import PredicateIndex.Text.Quoted

/-!
# Opening log files

The log files are opened in turn before anything is logged: the directories above a file are made
where they are missing, and the file is made unless it is there. The first that cannot be opened is
a fault, which names the path on which the attempt failed.
-/
namespace PredicateIndex.LogFile

/-- Why a log file cannot be opened. -/
inductive Fault where
  /-- Its path has a null character. -/
  | nullCharacter
  /-- Its path cannot be encoded. -/
  | unencodable (fault : Utf8.EncodeFault)
  /-- A directory is missing that cannot be made. -/
  | missing (path : String)
  /-- A file stands where a directory is needed. -/
  | fileExists (path : String)
  /-- A file stands on the way to a directory. -/
  | notDirectory (path : String)
  /-- A directory stands where the file should be. -/
  | isDirectory (path : String)
  /-- A name or the whole path is too long. -/
  | nameTooLong (path : String)
  deriving DecidableEq, Repr

/-- The words of a fault. -/
def Fault.message : Fault → String
  | .nullCharacter => "embedded null byte"
  | .unencodable fault => fault.message
  | .missing path => "[Errno 2] No such file or directory: " ++ Text.quoted path
  | .fileExists path => "[Errno 17] File exists: " ++ Text.quoted path
  | .notDirectory path => "[Errno 20] Not a directory: " ++ Text.quoted path
  | .isDirectory path => "[Errno 21] Is a directory: " ++ Text.quoted path
  | .nameTooLong path => "[Errno 36] File name too long: " ++ Text.quoted path

/-- The file that loses what is written to it. -/
def nullDevice : FilePath := { root := "/", names := ["dev", "null"] }

/-- Whether nothing can be made under names: they lead into the directory that shows processes. -/
def isFixed (names : List String) : Bool := names.head? == some "proc" && 1 < names.length

/-- The most bytes of a name. -/
def nameLimit : Nat := 255

/-- The most bytes of a whole path. -/
def pathLimit : Nat := 4095

/-- What following names from a directory comes to. -/
inductive Walk where
  /-- A directory. -/
  | reached (names : List String)
  /-- Nothing stands under a name. -/
  | missing
  /-- A file stands under a name. -/
  | blocked
  /-- A name is too long. -/
  | tooLong
  deriving DecidableEq, Repr

/-- Follow the names of directories. -/
def walk (disk : Disk) (done : List String) : List String → Walk
  | [] => .reached done
  | name :: rest =>
    if name == ".." then walk disk done.dropLast rest
    else if nameLimit < Utf8.byteCount name then .tooLong
    else
      let names := done ++ [name]
      if Disk.isDirectory disk names then walk disk names rest
      else if (Disk.named? disk names).isSome then .blocked
      else .missing

/-- What making one directory comes to. -/
inductive Making where
  /-- It is made. -/
  | made (disk : Disk)
  /-- What should hold it is missing. -/
  | orphan
  /-- A directory stands there. -/
  | present
  /-- It cannot be made. -/
  | failed (fault : Fault)

/-- Make one directory. -/
def makeOne (disk : Disk) (path : FilePath) : Making :=
  if Utf8.byteCount path.text > pathLimit then .failed (.nameTooLong path.text)
  else match walk disk [] path.names with
    | .reached _ => .present
    | .tooLong => .failed (.nameTooLong path.text)
    | .missing =>
      match walk disk [] path.names.dropLast with
      | .reached above =>
        let names := above ++ [path.name]
        if isFixed names then .failed (.missing path.text)
        else .made (disk ++ [({ root := "/", names }, { isDirectory := true })])
      | _ => .orphan
    | .blocked =>
      match walk disk [] path.names.dropLast with
      | .reached _ => .failed (.fileExists path.text)
      | _ => .failed (.notDirectory path.text)

/-- Make a directory and those above it where they are missing; the names are given from the last
to the first. -/
def makeAll (root : String) (disk : Disk) : List String → Except Fault Disk
  | [] => .ok disk
  | name :: above =>
    let path : FilePath := { root, names := (name :: above).reverse }
    match makeOne disk path with
    | .made made => .ok made
    | .present => .ok disk
    | .failed fault => .error fault
    | .orphan =>
      match makeAll root disk above with
      | .error fault => .error fault
      | .ok prepared =>
        match makeOne prepared path with
        | .made made => .ok made
        | .failed fault => .error fault
        | _ => .ok prepared

/-- Names without `..`, each of which takes away the name before it. -/
def collapsed (names : List String) : List String :=
  names.foldl (fun done name => if name == ".." then done.dropLast else done ++ [name]) []

/-- Refuse a path that the system does not take. -/
def refuse (path : String) : Except Fault Unit := do
  if let some fault := Utf8.nameFault? path then throw (.unencodable fault)
  if path.contains '\x00' then throw .nullCharacter

/-- Open one log file. -/
def openOne (disk : Disk) (destination : String) : Except Fault Disk := do
  let path := FilePath.ofText destination
  refuse path.parent.text
  let prepared ← makeAll path.root disk path.names.dropLast.reverse
  let names := collapsed path.names
  let target : FilePath := { path with names }
  refuse target.text
  if Utf8.byteCount target.text > pathLimit ||
      names.any fun name => nameLimit < Utf8.byteCount name then
    throw (.nameTooLong target.text)
  if Disk.isDirectory prepared names then throw (.isDirectory target.text)
  if (Disk.named? prepared names).isSome then return prepared
  if isFixed names then throw (.missing target.text)
  return prepared ++ [({ root := "/", names }, ({} : DiskEntry))]

/-- Open the log files of all outputs. -/
def openAll (disk : Disk) (settings : LogSettings) : Except Fault Disk :=
  (settings.outputs.map LogOutput.destination).foldlM (fun disk destination =>
    if LogOutput.isStream destination then .ok disk else openOne disk destination) disk

end PredicateIndex.LogFile
