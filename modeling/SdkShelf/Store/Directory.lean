import SdkShelf.Store.Basic
import SdkShelf.Text.Quoted

/-!
Stores on disk: a file for each entry, in one directory. A text is first written to a file of a
fresh name, which then takes the entry's place, so that no entry is ever half written.
-/

namespace SdkShelf

/-- Entries as files below `base`, of at most `capacity` bytes, keys and values together. The
`drawn`th temporary file will be called `temporary drawn`. -/
structure DirectoryStore where
  base : Disk.Path
  capacity : Nat
  disk : Disk.Node
  temporary : Nat → String
  drawn : Nat

/-- A key that can be part of a file's name anywhere: letters, digits, `_` and `-` of ASCII. -/
def IsFileKey (key : String) : Prop :=
  key ≠ "" ∧ key.toList.all fun c => c.isAlphanum || c = '_' || c = '-'

instance (key : String) : Decidable (IsFileKey key) := by
  unfold IsFileKey
  infer_instance

namespace DirectoryStore

def directory (s : DirectoryStore) : Disk.Path := s.base ++ ["storage"]

def ending : String := ".txt"

def pathOf (s : DirectoryStore) (key : String) : Disk.Path := s.directory ++ [key ++ ending]

def temporaryOf (s : DirectoryStore) (key : String) : Disk.Path :=
  s.directory ++ [key ++ ".tmp." ++ s.temporary s.drawn]

def keyOf? (name : String) : Option String :=
  let key := String.ofList (name.toList.take (name.length - ending.length))
  if key ++ ending = name ∧ IsFileKey key then some key else none

def checkKey (key : String) : Except StoreError Unit :=
  if IsFileKey key then .ok ()
  else .error (.unavailable ("unsupported storage key: " ++ Text.quote key))

/-- The entries on disk by key, whatever stands there. No directory means no entries. -/
def stored (s : DirectoryStore) : Except StoreError (Dictionary Disk.Node) :=
  match s.disk.list s.directory with
  | .ok entries =>
    .ok (Dictionary.ofList (entries.filterMap fun e => (keyOf? e.1).map fun key => (key, e.2)))
  | .error .notFound => .ok Dictionary.empty
  | .error e => .error (.disk e)

def sizeOf (entries : Dictionary Disk.Node) : Nat :=
  entries.entries.foldr (fun e n => e.1.utf8ByteSize + e.2.size + n) 0

def read (s : DirectoryStore) (key : String) : Except StoreError (Option String) := do
  checkKey key
  match s.disk.readText (s.pathOf key) with
  | .ok text => .ok (some text)
  | .error .notFound => .ok none
  | .error e => .error (.disk e)

/-- Puts a text on disk: the directory, a temporary file, and the file's move to its place. What
was done before a step fails stays done. -/
def place (s : DirectoryStore) (key value : String) : Except Disk.Error Unit × DirectoryStore :=
  match s.disk.makeDirectories s.directory with
  | .error e => (.error e, s)
  | .ok disk =>
    match disk.writeFile (s.temporaryOf key) value.toUTF8 with
    | .error e => (.error e, { s with disk, drawn := s.drawn + 1 })
    | .ok disk =>
      match disk.rename (s.temporaryOf key) (s.pathOf key) with
      | .error e => (.error e, { s with disk, drawn := s.drawn + 1 })
      | .ok disk => (.ok (), { s with disk, drawn := s.drawn + 1 })

/-- Puts a text under a key if there is room for it, once what it replaces is gone. -/
def write (s : DirectoryStore) (key value : String) : Except StoreError Unit × DirectoryStore :=
  match checkKey key, s.stored with
  | .error e, _ => (.error e, s)
  | .ok (), .error e => (.error e, s)
  | .ok (), .ok entries =>
    let required := sizeOf (entries.erase key) + entrySize key value
    if s.capacity < required then (.error (.quotaExceeded key required s.capacity), s)
    else
      let (result, s) := s.place key value
      (result.mapError .disk, s)

/-- Removes the entry of a key; there need not be one. -/
def remove (s : DirectoryStore) (key : String) : Except StoreError Unit × DirectoryStore :=
  match checkKey key with
  | .error e => (.error e, s)
  | .ok () =>
    match s.disk.removeFile (s.pathOf key) with
    | .ok disk => (.ok (), { s with disk })
    | .error .notFound => (.ok (), s)
    | .error e => (.error (.disk e), s)

instance : Store DirectoryStore where
  read := read
  write := write
  remove := remove
  keys s := s.stored.map Dictionary.keys

end DirectoryStore

end SdkShelf
