import RobotClient.Errno
import RobotClient.FilePath

set_option autoImplicit false

/-! # File trees

Directories and files as a client sees them from its working directory. Everything above the working
directory exists. Reading leaves a tree alone; only `createDirectories` and `openForAppend` change
it, and they tell why they fail. -/

namespace RobotClient

/-- Directories and files. -/
structure FileTree where
  workDir : String := "/"
  /-- The places of the directories that are not above a file or the working directory. -/
  directories : List (List String) := []
  /-- The places of the files, with their content. -/
  files : List (List String × List UInt8) := []
deriving Repr, Inhabited

namespace FileTree

/-! ## Looking -/

/-- What a place holds. -/
inductive Kind where
  | file (content : List UInt8)
  | directory

/-- Whether a place is that of a directory. -/
def isDirectoryAt (t : FileTree) (place : List String) : Bool :=
  place.isPrefixOf (FilePath.parts t.workDir) || t.directories.any place.isPrefixOf
    || t.files.any fun (file, _) => place.length < file.length && place.isPrefixOf file

/-- What a place holds, if it holds anything. -/
def kindAt (t : FileTree) (place : List String) : Option Kind :=
  match t.files.lookup place with
  | some content => some (.file content)
  | none => if t.isDirectoryAt place then some .directory else none

/-- The greatest length of a name, in octets. -/
def maxNameSize : Nat := 255

/-- The greatest length of a path, in octets. -/
def maxPathSize : Nat := 4095

/-- Whether a path holds the character of number zero. -/
def hasZeroByte (path : String) : Bool := path.toList.contains (Char.ofNat 0)

/-- The place where the names of a path start. -/
def start (t : FileTree) (path : String) : List String :=
  if FilePath.isAbsolute path then [] else FilePath.parts t.workDir

/-- The place where names lead from a place on. It and all the places on the way must be those of
    directories. -/
def enter (t : FileTree) (place names : List String) : Except Errno (List String) :=
  match t.kindAt place with
  | none => .error .noEntry
  | some (.file _) => .error .notDirectory
  | some .directory =>
    match names with
    | [] => .ok place
    | name :: rest =>
      if name = ".." then t.enter place.dropLast rest
      else if maxNameSize < name.utf8ByteSize then .error .nameTooLong
      else t.enter (place ++ [name]) rest

/-- What a path leads to. -/
inductive Target where
  | directory (place : List String)
  /-- A name in a directory, which need not be there; `slash` if a slash follows the name. -/
  | entry (directory : List String) (name : String) (slash : Bool)

/-- What a path leads to, if it can be followed. -/
def follow (t : FileTree) (path : String) : Except Errno Target :=
  let names := FilePath.parts path
  if path = "" then .error .noEntry
  else if maxPathSize < path.utf8ByteSize then .error .nameTooLong
  else
    match FilePath.lastName? path with
    | none => (t.enter (t.start path) names).map .directory
    | some name =>
      (t.enter (t.start path) names.dropLast).map (.entry · name (FilePath.endsInSlash path))

/-- What a path names; a file cannot be named in the form of a directory. -/
def kind (t : FileTree) (path : String) : Option Kind :=
  match t.follow path with
  | .error _ => none
  | .ok (.directory _) => some .directory
  | .ok (.entry directory name slash) =>
    match t.kindAt (directory ++ [name]) with
    | some (.file content) => if slash then none else some (.file content)
    | found => found

/-- Whether a path names anything. -/
def pathExists (t : FileTree) (path : String) : Bool := (t.kind path).isSome

/-- The content of the file of a path. -/
def read? (t : FileTree) (path : String) : Option (List UInt8) :=
  match t.kind path with
  | some (.file content) => some content
  | _ => none

/-- Whether a path names a file. -/
def isFile (t : FileTree) (path : String) : Bool := (t.read? path).isSome

/-! ## Changing -/

/-- Why a file or a directory cannot be created. -/
inductive Failure where
  | system (errno : Errno)
  /-- The path holds the character of number zero. -/
  | zeroByte
deriving DecidableEq, Repr

/-- The wording of a failure. -/
def Failure.message : Failure → String
  | .system errno => errno.numbered
  | .zeroByte => "file name contained an unexpected NUL byte"

/-- Creates the directories of a list of names below a place, where they are missing; `made` tells
    whether one on the way was. What is created stays, whatever fails then. A file in the way is not
    the directory that the names behind it need; but once something is created, the directories are
    created one at a time, and a file is found where one of them should be. -/
def createBelow (t : FileTree) (made : Bool) (place : List String) :
    List String → Except Failure Unit × FileTree
  | [] => (.ok (), t)
  | name :: rest =>
    if name = ".." then t.createBelow made place.dropLast rest
    else if maxNameSize < name.utf8ByteSize then (.error (.system .nameTooLong), t)
    else
      let place := place ++ [name]
      match t.kindAt place with
      | some .directory => t.createBelow made place rest
      | some (.file _) =>
        (.error (.system (if made || rest.isEmpty then .alreadyThere else .notDirectory)), t)
      | none => { t with directories := t.directories ++ [place] }.createBelow true place rest

/-- Creates the directory that a path stands in, and those above it, where they are missing. -/
def createDirectories (t : FileTree) (path : String) : Except Failure Unit × FileTree :=
  let directory := FilePath.parent path
  if hasZeroByte directory then (.error .zeroByte, t)
  else if maxPathSize < directory.utf8ByteSize then (.error (.system .nameTooLong), t)
  else t.createBelow false (t.start path) (FilePath.parts directory)

/-- Opens a file for writing at its end; a missing one is created empty. -/
def openForAppend (t : FileTree) (path : String) : Except Failure FileTree :=
  if hasZeroByte path then .error .zeroByte
  else
    match t.follow path with
    | .error errno => .error (.system errno)
    | .ok (.directory _) | .ok (.entry _ _ true) => .error (.system .isDirectory)
    | .ok (.entry directory name false) =>
      let place := directory ++ [name]
      if maxNameSize < name.utf8ByteSize then .error (.system .nameTooLong)
      else
        match t.kindAt place with
        | some .directory => .error (.system .isDirectory)
        | some (.file _) => .ok t
        | none => .ok { t with files := t.files ++ [(place, [])] }

/-- Adds text to the end of a file. -/
def append (t : FileTree) (path : String) (content : List UInt8) : FileTree :=
  match t.follow path with
  | .ok (.entry directory name _) =>
    { t with files := t.files.map fun (file, old) =>
        if file = directory ++ [name] then (file, old ++ content) else (file, old) }
  | _ => t

end FileTree
end RobotClient
