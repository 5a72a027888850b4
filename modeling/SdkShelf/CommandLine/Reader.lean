import SdkShelf.CommandLine.Level

/-!
The program's command line: its commands, their arguments, and the settings that may stand on every
level.
-/

namespace SdkShelf
namespace CommandLine

/-- Options that may stand on every level; the innermost one counts. -/
def globalOptions : List NamedArgument := [
  ⟨"data-dir", .path, false⟩,
  ⟨"quota-bytes", .number, false⟩,
  ⟨"api-url", .text, false⟩]

def idName : String := "id"

def leaf (options : List NamedArgument) (positional : Option String) : Level :=
  ⟨globalOptions ++ options, positional, false, []⟩

def remoteCommands : List String := ["list", "show", "create", "test"]

def remoteLevel : Level :=
  ⟨globalOptions, none, false, remoteCommands.map fun name => (name, [])⟩

def topLevel : Level :=
  ⟨globalOptions, none, true,
    (["generate", "list", "show", "endpoints", "execute", "stats", "clear"].map fun name =>
      (name, [])) ++ [("remote", remoteCommands)]⟩

def flagsOf (m : Matches) : Flags :=
  ⟨m.text? "data-dir", m.number? "quota-bytes", m.text? "api-url"⟩

/-- What is given on an inner level counts more. -/
def innermost (inner outer : Flags) : Flags :=
  ⟨inner.dataDir.or outer.dataDir, inner.quotaBytes.or outer.quotaBytes,
    inner.apiUrl.or outer.apiUrl⟩

/-- Reads a level without subcommands; `make` has no command for it if an argument is missing. -/
def readLeaf {α : Type} (l : Level) (make : Matches → Option α) (args : List String) :
    Except UsageError (Flags × α) := do
  let (p, _) ← l.read Progress.start false args
  let p ← p.settle
  match make p.found with
  | none => .error .missingArgument
  | some a => .ok (flagsOf p.found, a)

/-- Reads a level with subcommands. What is wrong with a subcommand is noticed before what is still
to be settled on this level. -/
def readBranch {α : Type} (l : Level) (inner : String → List String → Except UsageError (Flags × α))
    (args : List String) : Except UsageError (Flags × α) := do
  let (p, next) ← l.read Progress.start false args
  match next with
  | some (name, rest) =>
    let (flags, a) ← inner name rest
    let p ← p.settle
    .ok (innermost flags (flagsOf p.found), a)
  | none =>
    let p ← p.settle
    .error (if p.found.isEmpty then .helpForMissing else .missingSubcommand)

def readRemote (name : String) (args : List String) :
    Except UsageError (Flags × RemoteCommand) :=
  match name with
  | "list" => readLeaf (leaf [] none) (fun _ => some .list) args
  | "show" => readLeaf (leaf [] (some idName)) (fun m => (m.text? idName).map .describe) args
  | "create" =>
    readLeaf (leaf [⟨"name", .text, false⟩, ⟨"url", .text, false⟩,
        ⟨"source-type", .text, false⟩] none)
      (fun m => do
        let name ← m.text? "name"
        let url ← m.text? "url"
        some (.create name url ((m.text? "source-type").getD "openapi"))) args
  | "test" =>
    readLeaf (leaf [⟨"path", .text, false⟩, ⟨"param", .pair, true⟩] (some idName))
      (fun m => do
        let id ← m.text? idName
        let path ← m.text? "path"
        some (.test id path (m.pairs "param"))) args
  | _ => .error .invalidSubcommand

def readCommand (name : String) (args : List String) : Except UsageError (Flags × Command) :=
  match name with
  | "generate" =>
    readLeaf (leaf [⟨"url", .text, false⟩, ⟨"name", .text, false⟩] none)
      (fun m => (m.text? "url").map fun url => .generate url (m.text? "name")) args
  | "list" => readLeaf (leaf [] none) (fun _ => some .list) args
  | "show" => readLeaf (leaf [] (some idName)) (fun m => (m.text? idName).map .describe) args
  | "endpoints" =>
    readLeaf (leaf [] (some idName)) (fun m => (m.text? idName).map .endpoints) args
  | "execute" =>
    readLeaf (leaf [⟨"endpoint", .number, false⟩, ⟨"param", .pair, true⟩,
        ⟨"body", .text, false⟩, ⟨"via-backend", .flag, false⟩] (some idName))
      (fun m => do
        let id ← m.text? idName
        let endpoint ← m.number? "endpoint"
        some (.execute ⟨id, endpoint, m.pairs "param", m.text? "body", m.isSet "via-backend"⟩))
      args
  | "stats" => readLeaf (leaf [] none) (fun _ => some .stats) args
  | "clear" => readLeaf (leaf [] none) (fun _ => some .clear) args
  | "remote" => (readBranch remoteLevel readRemote args).map fun (flags, c) => (flags, .remote c)
  | _ => .error .invalidSubcommand

def read (args : List String) : Except UsageError Invocation :=
  (readBranch topLevel readCommand args).map fun (flags, c) => ⟨flags, c⟩

end CommandLine
end SdkShelf
