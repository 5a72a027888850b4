import SdkShelf.CommandLine.Reader
import SdkShelf.Session

/-!
A run of the program: from its arguments and its environment to what it prints and its exit code.
-/

namespace SdkShelf

/-- What runs of the program act on: a disk, the directory in which it is started, the network, the
clock, and the sources of fresh ids and of names for temporary files, with how many of each were
used. -/
structure Machine where
  disk : Disk.Node
  directory : Disk.Path
  network : Http.Network
  now : Timestamp
  ids : Nat → String
  idsUsed : Nat
  temporary : Nat → String
  temporaryUsed : Nat

structure Report where
  exitCode : Nat
  out : String
  err : String
  deriving DecidableEq, Repr

namespace Program

def userAgent : String := "docsdk/0.1.0-alpha.1"

/-- The path behind one more part of a text that names it. Only from a directory do two points lead
up; elsewhere they name an entry that is not there. -/
def step (disk : Disk.Node) (path : Disk.Path) (part : String) : Disk.Path :=
  if part = "" ∨ part = "." then path
  else if part = ".." then
    match disk.list path with
    | .ok _ => path.dropLast
    | .error _ => path ++ [part]
  else path ++ [part]

def pathOf (disk : Disk.Node) (directory : Disk.Path) (text : String) : Disk.Path :=
  (text.splitOn "/").foldl (step disk) (if text.startsWith "/" then [] else directory)

def openSession (m : Machine) (c : Config) : Session :=
  let client : Http.Client := ⟨some userAgent⟩
  { catalog := ⟨⟨⟨pathOf m.disk m.directory c.dataDir, c.quotaBytes, m.disk, m.temporary,
      m.temporaryUsed⟩, Shelf.projectsKey⟩⟩
    client := client
    backend := ⟨client, c.apiUrl⟩
    network := m.network
    newId := m.ids m.idsUsed
    now := m.now }

def close (m : Machine) (s : Session) (created : Bool) : Machine :=
  let store := s.catalog.shelf.store
  { m with
    disk := store.disk
    network := s.network
    idsUsed := if created then m.idsUsed + 1 else m.idsUsed
    temporaryUsed := store.drawn }

def failed (message : String) : Report := ⟨1, "", message ++ "\n"⟩

/-- Only a generation that succeeds uses an id. -/
def usesId (command : CommandLine.Command) (result : Except Failure Printed) : Bool :=
  match command, result with
  | .generate .., .ok _ => true
  | _, _ => false

def perform (m : Machine) (env : String → Option String) (i : CommandLine.Invocation) :
    Report × Machine :=
  match Config.resolve i.flags env with
  | .error e => (failed (Text.chainText ["resolve config", e.message]), m)
  | .ok c =>
    let (result, s) := (openSession m c).run i.command
    let report := match result with
      | .ok printed => ⟨0, printed.out, printed.warnings⟩
      | .error f => failed f.message
    (report, close m s (usesId i.command result))

/-- Runs the program. A command line that asks for nothing that can be done is left alone. -/
def run (m : Machine) (env : String → Option String) (args : List String) :
    Except CommandLine.UsageError Report × Machine :=
  match CommandLine.read args with
  | .error e => (.error e, m)
  | .ok i =>
    let (report, m) := perform m env i
    (.ok report, m)

end Program

end SdkShelf
