import SdkShelf.Call.Transport
import SdkShelf.Catalog
import SdkShelf.CommandLine.Command
import SdkShelf.Store.Directory

/-!
Carrying out commands: what each one prints, and what it does to the stored projects.
-/

namespace SdkShelf

open CommandLine

/-- What a command acts on: the stored projects, the network, and what a new project would be
given. -/
structure Session where
  catalog : Catalog DirectoryStore
  client : Http.Client
  backend : Backend.Client
  network : Http.Network
  newId : String
  now : Timestamp

structure Printed where
  out : String
  warnings : String
  deriving DecidableEq, Repr

inductive Failure where
  | address (text : String) (cause : Url.Error)
  | scheme (url : String)
  | backend (cause : Backend.Error)
  | projectNotFound (id : String)
  | endpointOutOfRange (index count : Nat)
  /-- What was being done when something failed. -/
  | during (what : String) (cause : Failure)

namespace Failure

def chain : Failure → List String
  | address text cause => ["parse url: " ++ text, cause.message]
  | scheme url => ["url must be http/https: " ++ url]
  | backend cause => cause.chain
  | projectNotFound id => ["project not found: " ++ id]
  | endpointOutOfRange index count =>
    ["endpoint index " ++ toString index ++ " out of range (" ++ toString count ++ " endpoints)"]
  | during what cause => what :: cause.chain

def message (f : Failure) : String := Text.chainText f.chain

end Failure

namespace Session

/-- A command's result, and what it acted on as it is afterwards. -/
abbrev Result := Except Failure Printed × Session

def print (s : Session) (out : String) : Result := (.ok ⟨out, ""⟩, s)

def fail (s : Session) (f : Failure) : Result := (.error f, s)

def within (what : String) (r : Result) : Result := (r.1.mapError (.during what), r.2)

def line (cells : List String) : String := "\t".intercalate cells ++ "\n"

def jsonLines (v : Json) : String := v.pretty ++ "\n"

def webAddress (text : String) : Except Failure Url :=
  match Url.parse text with
  | .error cause => .error (.address text cause)
  | .ok url => if url.isWeb then .ok url else .error (.scheme url.text)

/-- Has an SDK generated and stores it. That it could not be stored is only a warning. -/
def generate (s : Session) (address : String) (name : Option String) : Result :=
  match webAddress address with
  | .error f => s.fail f
  | .ok url =>
    match s.backend.generate url.text s.network with
    | (.error e, network) =>
      ({ s with network } : Session).fail (.during "request sdk generation" (.backend e))
    | (.ok g, network) =>
      let (project, saved, catalog) := s.catalog.create s.newId s.now name url.text g
      let warnings :=
        if saved then "" else "warning: project could not be saved to local storage\n"
      (.ok ⟨line [project.id, project.name], warnings⟩, { s with catalog, network })

def listText (projects : List Project) : String :=
  String.join (projects.map fun p =>
    line [p.id, p.name, p.sourceUrl, String.ofList (Timestamp.dateText p.createdAt.date),
      toString p.spec.endpoints.length ++ " endpoints"])

def endpointLines (start : Nat) : List Api.Endpoint → String
  | [] => ""
  | e :: rest =>
    line [toString start, e.method.name, e.path, e.summary.getD ""] ++
      endpointLines (start + 1) rest

def endpointsText (p : Project) : String :=
  endpointLines 0 p.spec.endpoints ++
    (if p.spec.truncated then "(endpoint list truncated due to storage limits)\n" else "")

def statsText (stats : Stats) (recent : List Project) : String :=
  "Active Projects: " ++ toString stats.activeProjects ++ "\n" ++
  "Generated SDKs: " ++ toString stats.generatedSdks ++ "\n" ++
  "Total Endpoints: " ++ toString stats.totalEndpoints ++ "\n" ++
  "API Calls: " ++ toString stats.apiCalls ++ "\n" ++
  String.join (recent.map fun p => "recent: " ++ line [p.id, p.name])

def withProject (s : Session) (id : String) (go : Project → Result) : Result :=
  match s.catalog.get? id with
  | none => s.fail (.projectNotFound id)
  | some p => go p

/-- Runs an endpoint of a stored project, and counts a call that was answered. -/
def execute (s : Session) (args : ExecuteArgs) : Result :=
  s.withProject args.id fun p =>
    match p.spec.endpoints[args.endpoint]? with
    | none => s.fail (.endpointOutOfRange args.endpoint p.spec.endpoints.length)
    | some e =>
      let transport :=
        if args.viaBackend then Call.Transport.relayed s.backend
        else Call.Transport.direct s.client
      let (outcome, network) := Call.execute transport p.spec.baseUrl e
        (Dictionary.ofList args.params) args.body s.network
      let catalog := if outcome.isSuccess then s.catalog.recordApiCall.2 else s.catalog
      ({ s with catalog, network } : Session).print (jsonLines outcome.json)

def answered {α : Type} (s : Session) (r : Except Backend.Error α × Http.Network)
    (out : α → String) : Result :=
  let s := { s with network := r.2 }
  match r.1 with
  | .error e => s.fail (.backend e)
  | .ok a => s.print (out a)

def remoteText (projects : List Backend.RemoteProject) : String :=
  String.join (projects.map fun p => line [p.id, p.name, p.sourceUrl.getD ""])

def remote (s : Session) : RemoteCommand → Result
  | .list => s.answered (s.backend.listProjects s.network) remoteText
  | .describe id =>
    s.answered (s.backend.getProject id s.network) fun p =>
      jsonLines (Backend.RemoteProject.schema.encode p)
  | .create name address sourceType =>
    match webAddress address with
    | .error f => s.fail f
    | .ok url =>
      s.answered (s.backend.register ⟨name, url.text, sourceType⟩ s.network) fun p =>
        line [p.id, p.name]
  | .test id path params =>
    s.answered (s.backend.tryEndpoint ⟨id, path, Dictionary.ofList params⟩ s.network) fun a =>
      jsonLines a.response

def run (s : Session) : Command → Result
  | .generate url name => within "generate" (s.generate url name)
  | .list => s.print (listText s.catalog.list)
  | .describe id =>
    s.withProject id fun p => s.print (jsonLines (Project.schema.encode p))
  | .endpoints id => s.withProject id fun p => s.print (endpointsText p)
  | .execute args => within "execute" (s.execute args)
  | .stats => s.print (statsText s.catalog.stats s.catalog.recent)
  | .clear => ({ s with catalog := s.catalog.clearAll } : Session).print "cleared all projects\n"
  | .remote command => within "remote" (s.remote command)

end Session

end SdkShelf
