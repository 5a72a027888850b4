import SdkShelf.Program
import SdkShelf.Timestamp.Clock
import Std.Time.DateTime.Timestamp

/-!
The command line program. It reads the stored entries, runs the program on them, and writes back
what has changed. It has no network of its own.
-/

open SdkShelf

namespace SdkShelf
namespace Main

def randomDigits (bytes : Nat) : IO (List Char) := do
  let drawn ← IO.getRandomBytes (USize.ofNat bytes)
  return drawn.data.toList.flatMap fun b =>
    [Text.hexDigit (b.toNat / 16), Text.hexDigit (b.toNat % 16)]

def randomId : IO String := do
  let ds ← randomDigits 16
  let part (start count : Nat) : String := String.ofList ((ds.drop start).take count)
  return "-".intercalate [part 0 8, part 8 4, "4" ++ part 13 3, "8" ++ part 17 3, part 20 12]

def now : IO Timestamp := do
  let t := (← Std.Time.Timestamp.now).toNanosecondsSinceUnixEpoch.val.toNat
  return Timestamp.ofClock (t / 1000000000) (t % 1000000000)

def environment : IO (Dictionary String) := do
  let mut env := Dictionary.empty
  for name in [Config.dataDirVariable, Config.quotaVariable, Config.apiUrlVariable] do
    match ← IO.getEnv name with
    | some value => env := env.insert name value
    | none => pure ()
  return env

def fileName (path : Disk.Path) : String := "/" ++ "/".intercalate path

def isDirectory (path : Disk.Path) : IO Bool := do
  try
    let found ← IO.FS.realPath (fileName path)
    found.isDir
  catch _ => return false

def readStorage (path : Disk.Path) : IO (Option Disk.Node) := do
  let dir ← try some <$> IO.FS.realPath (fileName path) catch _ => pure none
  match dir with
  | none => return none
  | some dir =>
    if !(← dir.pathExists) then return none
    else if !(← dir.isDir) then return some (.file ⟨#[]⟩)
    else
      let mut entries : List (String × Disk.Node) := []
      for e in ← dir.readDir do
        let node ←
          if ← e.path.isDir then pure (.directory [])
          else Disk.Node.file <$> IO.FS.readBinFile e.path
        entries := insertEntry e.fileName node entries
      return some (.directory entries)

/-- The directories that a text leads through from a directory. -/
def directoriesAlong (directory : Disk.Path) (text : String) : IO Disk.Node := do
  let mut disk := (Disk.Node.empty.makeDirectories directory).toOption.getD .empty
  let mut path : Disk.Path := if text.startsWith "/" then [] else directory
  for part in text.splitOn "/" do
    path := Program.step disk path part
    if ← isDirectory path then
      disk := (disk.makeDirectories path).toOption.getD disk
  return disk

def diskWith (disk : Disk.Node) (path : Disk.Path) (node : Option Disk.Node) : Disk.Node :=
  match node with
  | none => disk
  | some n => ((disk.makeDirectories path.dropLast).bind
      fun disk => disk.update (fun _ => .ok (some n)) path).toOption.getD disk

def filesAt (disk : Disk.Node) (path : Disk.Path) : List (String × ByteArray) :=
  match disk.list path with
  | .error _ => []
  | .ok entries => entries.filterMap fun
    | (name, .file content) => some (name, content)
    | _ => none

/-- Writes back what has changed, each file under another name at first. -/
def writeStorage (path : Disk.Path) (before after : Disk.Node) : IO Unit := do
  let old := filesAt before path
  let new := filesAt after path
  for (name, content) in new do
    if old.all fun f => f.1 ≠ name ∨ f.2.data ≠ content.data then
      IO.FS.createDirAll (fileName path)
      let target := fileName (path ++ [name])
      let fresh := target ++ ".tmp." ++ String.ofList (← randomDigits 16)
      IO.FS.writeBinFile fresh content
      IO.FS.rename fresh target
  for (name, _) in old do
    if new.all fun f => f.1 ≠ name then
      IO.FS.removeFile (fileName (path ++ [name]))

def usageText : CommandLine.UsageError → String
  | .displayVersion => "docsdk 0.1.0-alpha.1"
  | .displayHelp | .helpForMissing =>
    "Usage: docsdk [--data-dir DIR] [--quota-bytes N] [--api-url URL] COMMAND\n\n" ++
    "Commands: generate, list, show, endpoints, execute, stats, clear, remote, help"
  | .missingSubcommand => "error: a subcommand is required"
  | .invalidSubcommand => "error: unrecognized subcommand"
  | .unknownArgument => "error: unexpected argument"
  | .missingArgument => "error: a required argument was not provided"
  | .conflict => "error: an argument cannot be used multiple times"
  | .invalidValue => "error: a value is required"
  | .tooManyValues => "error: unexpected value"
  | .validation message => "error: invalid value: " ++ message

def run (args : List String) : IO UInt32 := do
  let directory := ((← IO.currentDir).toString.splitOn "/").filter (· ≠ "")
  let env ← environment
  let dataDir := match CommandLine.read args with
    | .ok i => Config.selectDataDir i.flags env.get?
    | .error _ => ""
  let surroundings ← directoriesAlong directory dataDir
  let path := Program.pathOf surroundings directory dataDir ++ ["storage"]
  let storage ← readStorage path
  let id ← randomId
  let suffix := String.ofList (← randomDigits 16)
  let machine : Machine := {
    disk := diskWith surroundings path storage
    directory := directory
    network := .ofReplies false []
    now := ← now
    ids := fun _ => id
    idsUsed := 0
    temporary := fun n => suffix ++ toString n
    temporaryUsed := 0 }
  let (result, after) := Program.run machine env.get? args
  match result with
  | .error e =>
    if e.exitCode = 0 then IO.println (usageText e) else IO.eprintln (usageText e)
    return UInt32.ofNat e.exitCode
  | .ok report =>
    writeStorage path machine.disk after.disk
    IO.print report.out
    IO.eprint report.err
    return UInt32.ofNat report.exitCode

end Main
end SdkShelf

def main (args : List String) : IO UInt32 := SdkShelf.Main.run args
