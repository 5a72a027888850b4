import SdkShelf.Backend.Message
import SdkShelf.Shelf
import SdkShelf.Text.Word

/-!
The catalog of generated SDKs: a collection of projects, the newest first, and the number of calls
made with them.
-/

namespace SdkShelf

/-- A JSON number; beyond 64 bits the nearest double. -/
def Json.ofNat (n : Nat) : Json :=
  if h : n < 18446744073709551616 then .nat n h else .number (.float (Float.ofNat n))

structure Stats where
  activeProjects : Nat
  generatedSdks : Nat
  totalEndpoints : Nat
  apiCalls : Nat
  deriving DecidableEq, Repr

def Stats.json (s : Stats) : Json :=
  .object [
    ("active_projects", .ofNat s.activeProjects),
    ("generated_sdks", .ofNat s.generatedSdks),
    ("total_endpoints", .ofNat s.totalEndpoints),
    ("api_calls", .ofNat s.apiCalls)]

structure Catalog (σ : Type) where
  shelf : Shelf σ

namespace Catalog

variable {σ : Type} [Store σ]

def recentLimit : Nat := 4

/-- All projects, the newest first. -/
def list (c : Catalog σ) : List Project :=
  c.shelf.load Project.listSchema c.shelf.collectionKey []

def recent (c : Catalog σ) : List Project := c.list.take recentLimit

def get? (c : Catalog σ) (id : String) : Option Project := c.list.find? (fun p => p.id = id)

/-- The name of a new project: the wanted one without blanks around it, or the backend's. -/
def chooseName (wanted : Option String) (suggested : String) : String :=
  match wanted.map Text.trim with
  | none => suggested
  | some name => if name.isEmpty then suggested else name

def projectOf (id : String) (now : Timestamp) (name : Option String) (sourceUrl : String)
    (g : Backend.Generation) : Project where
  id := id
  name := chooseName name g.name
  sourceUrl := sourceUrl
  spec := g.spec
  sdkCode := g.sdkCode
  createdAt := now
  version := g.version
  isMock := g.isMock
  source := g.source

/-- Puts a new project in front of the others, under a fresh id. The project is returned even if it
could not be saved; the flag tells whether it was. -/
def create (c : Catalog σ) (id : String) (now : Timestamp) (name : Option String)
    (sourceUrl : String) (g : Backend.Generation) : Project × Bool × Catalog σ :=
  let project := projectOf id now name sourceUrl g
  let (saved, shelf) := c.shelf.saveAs Project.listSchema c.shelf.collectionKey (project :: c.list)
  (project, saved, ⟨shelf⟩)

def clearAll (c : Catalog σ) : Catalog σ := ⟨c.shelf.clear c.shelf.collectionKey⟩

def callLimit : Nat := Text.wordSize - 1

/-- How many calls were recorded; a text that is no number counts as none. -/
def apiCallCount (c : Catalog σ) : Nat :=
  match c.shelf.loadText Shelf.callsKey with
  | none => 0
  | some text => ((Text.readWord (Text.trim text)).toOption).getD 0

/-- Records one more call, and returns the new count even if it could not be saved. -/
def recordApiCall (c : Catalog σ) : Nat × Catalog σ :=
  let count := min (c.apiCallCount + 1) callLimit
  (count, ⟨(c.shelf.saveText Shelf.callsKey (toString count)).2⟩)

def stats (c : Catalog σ) : Stats :=
  let projects := c.list
  { activeProjects := projects.length
    generatedSdks := projects.length
    totalEndpoints := projects.foldr (fun p n => p.spec.endpoints.length + n) 0
    apiCalls := c.apiCallCount }

end Catalog

end SdkShelf
