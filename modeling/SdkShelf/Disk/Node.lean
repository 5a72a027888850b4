import SdkShelf.Dictionary

/-!
A disk as a tree of files and directories, and the few operations on it that a store needs, each
with the failures that the operation has on a real disk.
-/

namespace SdkShelf
namespace Disk

inductive Error where
  | notFound
  | alreadyExists
  | notDirectory
  | isDirectory
  | nameTooLong
  | notText
  /-- Any other failure, in the words of whoever reports it. -/
  | other (reason : String)
  deriving DecidableEq, Repr

def Error.message : Error → String
  | notFound => "No such file or directory (os error 2)"
  | alreadyExists => "File exists (os error 17)"
  | notDirectory => "Not a directory (os error 20)"
  | isDirectory => "Is a directory (os error 21)"
  | nameTooLong => "File name too long (os error 36)"
  | notText => "stream did not contain valid UTF-8"
  | other reason => reason

/-- A file with its bytes, or a directory with its entries by name. -/
inductive Node where
  | file (content : ByteArray)
  | directory (entries : List (String × Node))

/-- The names that lead from a directory down to a node. -/
abbrev Path := List String

def nameLimit : Nat := 255

/-- The size that a directory itself reports. -/
def directorySize : Nat := 4096

def child? (name : String) (entries : List (String × Node)) : Option Node :=
  (entries.find? (fun e => e.1 = name)).map (·.2)

namespace Node

def empty : Node := .directory []

instance : Inhabited Node := ⟨empty⟩

def size : Node → Nat
  | file content => content.size
  | directory _ => directorySize

def walk : Node → Path → Except Error Node
  | n, [] => .ok n
  | .file _, _ :: _ => .error .notDirectory
  | .directory entries, name :: rest =>
    if nameLimit < name.utf8ByteSize then .error .nameTooLong
    else
      match child? name entries with
      | none => .error .notFound
      | some n => n.walk rest

/-- Changes what stands at a path, where `change` is told what stands there and says what shall. -/
def update (change : Option Node → Except Error (Option Node)) : Node → Path → Except Error Node
  | n, [] => (change (some n)).map (·.getD n)
  | .file _, _ :: _ => .error .notDirectory
  | .directory entries, name :: rest =>
    if nameLimit < name.utf8ByteSize then .error .nameTooLong
    else
      match rest, child? name entries with
      | [], n? =>
        (change n?).map fun
          | some n => .directory (insertEntry name n entries)
          | none => .directory (entries.filter fun e => e.1 ≠ name)
      | _ :: _, none => .error .notFound
      | rest, some n =>
        (n.update change rest).map fun n => .directory (insertEntry name n entries)

def readFile (disk : Node) (path : Path) : Except Error ByteArray := do
  match ← disk.walk path with
  | .file content => .ok content
  | .directory _ => .error .isDirectory

def readText (disk : Node) (path : Path) : Except Error String := do
  match String.fromUTF8? (← disk.readFile path) with
  | some text => .ok text
  | none => .error .notText

def list (disk : Node) (path : Path) : Except Error (List (String × Node)) := do
  match ← disk.walk path with
  | .file _ => .error .notDirectory
  | .directory entries => .ok entries

def writeFile (disk : Node) (path : Path) (content : ByteArray) : Except Error Node :=
  disk.update (fun
    | some (.directory _) => .error .isDirectory
    | _ => .ok (some (.file content))) path

def removeFile (disk : Node) (path : Path) : Except Error Node :=
  disk.update (fun
    | none => .error .notFound
    | some (.directory _) => .error .isDirectory
    | some (.file _) => .ok none) path

/-- Moves a file to another path, where it replaces the file that may stand there. -/
def rename (disk : Node) (source target : Path) : Except Error Node := do
  let content ← disk.readFile source
  let moved ← disk.writeFile target content
  moved.removeFile source

/-- Creates a directory and those above it. What is a directory already stays as it is. -/
def makeDirectories : Node → Path → Except Error Node
  | .directory entries, [] => .ok (.directory entries)
  | .file _, [] => .error .alreadyExists
  | .file _, _ :: _ => .error .notDirectory
  | .directory entries, name :: rest =>
    if nameLimit < name.utf8ByteSize then .error .nameTooLong
    else
      (((child? name entries).getD empty).makeDirectories rest).map fun n =>
        .directory (insertEntry name n entries)

mutual

def files : Node → List (Path × ByteArray)
  | .file content => [([], content)]
  | .directory entries => filesOf entries

def filesOf : List (String × Node) → List (Path × ByteArray)
  | [] => []
  | (name, n) :: rest => (files n).map (fun f => (name :: f.1, f.2)) ++ filesOf rest

end

end Node

end Disk
end SdkShelf
