import PredicateIndex.Decimal.Numeral
import PredicateIndex.Text.Utf8

/-!
# File paths

A path is a root and the names below it. Empty names and the name `.` vanish, `..` stays; a path
that starts with exactly two slashes keeps both as its root, any other number counts as one.
-/
namespace PredicateIndex

/-- A file path: its root and its names. -/
structure FilePath where
  /-- Nothing, one slash or two. -/
  root : String
  /-- The names from the root on. -/
  names : List String
  deriving DecidableEq, Repr

namespace FilePath

/-- The root of a path's text. -/
def rootOf (cs : List Char) : String :=
  match cs.takeWhile (· == '/') with
  | [] => ""
  | [_, _] => "//"
  | _ => "/"

/-- Whether a name between slashes is a name of a path. -/
def isName (name : List Char) : Bool := !name.isEmpty && name != ['.']

/-- The path of a text. -/
def ofText (s : String) : FilePath where
  root := rootOf s.toList
  names := ((Numeral.splitAt '/' s.toList).filter isName).map String.ofList

/-- The text of a path; the empty path is written as a point. -/
def text (path : FilePath) : String :=
  let body := path.root ++ String.intercalate "/" path.names
  if body.isEmpty then "." else body

/-- Whether a path starts at the root. -/
def isAbsolute (path : FilePath) : Bool := !path.root.isEmpty

/-- The last name of a path, or nothing. -/
def name (path : FilePath) : String := path.names.getLastD ""

/-- The path of the directory that holds a path. -/
def parent (path : FilePath) : FilePath := { path with names := path.names.dropLast }

/-- A path below a path; an absolute one replaces it. -/
def join (path below : FilePath) : FilePath :=
  if below.isAbsolute then below else { path with names := path.names ++ below.names }

/-- A name without its last suffix. A point at the start or the end of the name starts none. -/
def stemOf (name : String) : String :=
  let reversed := name.toList.reverse
  let suffix := reversed.takeWhile (· != '.')
  match reversed.dropWhile (· != '.') with
  | _ :: c :: rest => if suffix.isEmpty then name else String.ofList (c :: rest).reverse
  | _ => name

/-- A directory's text without slashes at its end; nothing else is the root. -/
def withoutTrailingSlashes (directory : String) : String :=
  let kept := (directory.toList.reverse.dropWhile (· == '/')).reverse
  if kept.isEmpty then "/" else String.ofList kept

/-- Why the home directory that a path starts in cannot be found. -/
inductive HomeFault where
  /-- It is not known. -/
  | unknown
  /-- The name of the user has a null character. -/
  | nullCharacter
  /-- The name of the user cannot be encoded. -/
  | unencodable (fault : Utf8.EncodeFault)
  deriving DecidableEq, Repr

/-- The words of a fault. -/
def HomeFault.message : HomeFault → String
  | .unknown => "Could not determine home directory."
  | .nullCharacter => "embedded null byte"
  | .unencodable fault => fault.message

/-- The home directories of a system. -/
structure Homes where
  /-- That of the user who runs the program. -/
  own : String
  /-- Those of all users by their names. -/
  users : List (String × String) := []
  deriving Repr

/-- The home directory of the user of a name. -/
def homeOfUser (homes : Homes) (user : String) : Except HomeFault String := do
  if let some fault := Utf8.nameFault? user then throw (.unencodable fault)
  if user.toList.contains '\x00' then throw .nullCharacter
  match homes.users.lookup user with
  | some directory => return directory
  | none => throw .unknown

/-- The home directory that a leading name stands for: `~` is the user's own, which is not known if
it starts with `~` itself, and `~` before a name that of the user of that name. -/
def homeOf (homes : Homes) (name : String) : Except HomeFault String :=
  if name == "~" then
    if homes.own.startsWith "~" then .error .unknown else .ok (withoutTrailingSlashes homes.own)
  else homeOfUser homes (String.ofList (name.toList.drop 1))

/-- The path with a leading `~` replaced by the home directory. -/
def expandHome (homes : Homes) (path : FilePath) : Except HomeFault FilePath :=
  match path.root, path.names with
  | "", first :: rest =>
    if first.startsWith "~" then
      (homeOf homes first).map fun directory =>
        { ofText directory with names := (ofText directory).names ++ rest }
    else .ok path
  | _, _ => .ok path

end FilePath

end PredicateIndex
