import RobotClient.Console.Program
import Std.Time.Format

set_option autoImplicit false

/-! # The executable

Reads what the program looks at, runs it, and writes what it leaves behind. -/

namespace RobotClient.Executable

/-- Puts what is on the disk at a place into a tree. -/
def observe (tree : FileTree) (place : List String) : IO FileTree := do
  match ← (IO.FS.readBinFile (FilePath.ofPlace place)).toBaseIO with
  | .ok content => return { tree with files := tree.files ++ [(place, content.toList)] }
  | .error (.inappropriateType ..) =>
    return { tree with directories := tree.directories ++ [place] }
  | .error _ => return tree

/-- Puts what is on the disk at a path, and on the way to it, into a tree. -/
def observeAbove (tree : FileTree) (path : String) : IO FileTree :=
  let names := FilePath.parts (FilePath.join tree.workDir path)
  (List.range (names.length + 1)).foldlM
    (fun tree n => observe tree (FilePath.placeOf (names.take n))) tree

/-- Writes the files and directories of a tree that are new or changed. -/
def save (before after : FileTree) : IO Unit := do
  for place in after.directories do
    if place ∉ before.directories then IO.FS.createDirAll (FilePath.ofPlace place)
  for (place, content) in after.files do
    if (place, content) ∉ before.files then
      IO.FS.createDirAll (FilePath.ofPlace place.dropLast)
      IO.FS.writeBinFile (FilePath.ofPlace place) ⟨content.toArray⟩

/-- The time of day in RFC 3339. -/
def now : IO String := do
  let time := Std.Time.DateTime.ofTimestamp (← Std.Time.Timestamp.now) .UTC
  return time.format "uuuu-MM-dd'T'HH:mm:ss.SSSSSSSSS" ++ "+00:00"

/-- Waits for some seconds, or until the process is ended from outside. -/
partial def waitFor (seconds : Option Nat) : IO Unit :=
  match seconds with
  | some 0 => pure ()
  | _ => do
    IO.sleep 1000
    waitFor (seconds.map (· - 1))

/-- Does what a command line says and returns the exit code. -/
def perform (line : Console.CommandLine) : IO UInt32 := do
  let env := Environment.ofBlock (← IO.FS.readBinFile "/proc/self/environ").toList
  let workDir := (← IO.currentDir).toString
  let settings ← (Config.pathsLookedAt env workDir line.configFile).foldlM observeAbove { workDir }
  let tree ←
    match (Console.loadConfig env settings line.configFile).1 with
    | .ok config => (line.logFile? env config).toList.foldlM observeAbove settings
    | .error _ => pure settings
  let report := line.perform env tree (← now) none
  if let some seconds := line.wait report then waitFor (seconds.map UInt64.toNat)
  save tree report.tree
  IO.print report.stdout
  IO.eprint report.stderr
  return UInt32.ofNat report.exitCode

end RobotClient.Executable

open RobotClient in
/-- Runs the program. -/
def main (args : List String) : IO UInt32 := do
  match Console.CommandLine.parse (args.map Text.Utf8.encode) with
  | .error stop => return UInt32.ofNat stop.exitCode
  | .ok line => Executable.perform line
