import RobotClient.Text.Split
import RobotClient.Text.Utf8

set_option autoImplicit false

/-! # File paths

A path is a text with slashes. What it names depends on the working directory unless it starts with
a slash; repeated slashes and dots that stand for the directory itself do not count. -/

namespace RobotClient.FilePath

/-- Whether a path starts at the root. -/
def isAbsolute (path : String) : Bool := path.toList.head? = some '/'

/-- The names on a path; those that do not count are left out. -/
def parts (path : String) : List String :=
  (Text.splitAll '/' path).filter fun part => part ≠ "" && part ≠ "."

/-- The last name on a path, unless the path ends in a dot or two. -/
def lastName? (path : String) : Option String :=
  match ((Text.splitAll '/' path).filter (· ≠ "")).getLast? with
  | none | some "." | some ".." => none
  | some name => some name

/-- Whether a path ends with a slash. -/
def endsInSlash (path : String) : Bool := path.toList.getLast? = some '/'

/-- What is left of a path, read backwards, without slashes and single dots at its end. -/
def dropEnd : List Char → List Char
  | '/' :: rest => dropEnd rest
  | '.' :: '/' :: rest => dropEnd rest
  | cs => cs

/-- The path that a path stands in: what is left without its last name. -/
def parent (path : String) : String :=
  let backwards := dropEnd path.toList.reverse
  String.ofList (dropEnd (backwards.dropWhile (· != '/'))).reverse

/-- A path within a directory; an absolute path stays as it is. -/
def join (directory path : String) : String :=
  if isAbsolute path || directory = "" then path
  else if endsInSlash directory then directory ++ path
  else directory ++ "/" ++ path

/-- A path within a directory whose path need not be text. -/
def joinOctets (directory : List UInt8) (path : String) : List UInt8 :=
  if isAbsolute path || directory = [] then Text.Utf8.encode path
  else if directory.getLast? = some 47 then directory ++ Text.Utf8.encode path
  else directory ++ 47 :: Text.Utf8.encode path

/-- The place where names lead from the root on, two dots going back. -/
def placeOf (names : List String) : List String :=
  names.foldl (fun place name => if name = ".." then place.dropLast else place ++ [name]) []

/-- The place of a path if all the directories on it exist. -/
def place (workDir path : String) : List String := placeOf (parts (join workDir path))

/-- The part of a name behind its last dot, unless the name starts with that dot. -/
def extension? (path : String) : Option String := do
  let name ← (parts path).getLast?
  let pieces := Text.pieces '.' name.toList
  let last ← pieces.getLast?
  let hidden := pieces.length = 2 && pieces.dropLast.all List.isEmpty
  if name = ".." ∨ pieces.length < 2 ∨ hidden then none
  else some (String.ofList last)

/-- What is left of both lists behind their common front. -/
def dropCommon : List String → List String → List String × List String
  | a :: as, b :: bs => if a = b then dropCommon as bs else (a :: as, b :: bs)
  | as, bs => (as, bs)

/-- A path as seen from a directory. -/
def relativeTo (directory path : String) : String :=
  let (down, up) := dropCommon (parts path) (parts directory)
  String.intercalate "/" (up.map (fun _ => "..") ++ down)

/-- The path of a place. -/
def ofPlace (place : List String) : String := "/" ++ String.intercalate "/" place

end RobotClient.FilePath
