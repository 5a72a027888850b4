import SdkShelf.Store.Basic

/-!
Stores in memory.
-/

namespace SdkShelf

/-- Entries in memory, of at most `capacity` bytes, keys and values together. -/
structure MemoryStore where
  capacity : Nat
  entries : Dictionary String
  deriving DecidableEq

namespace MemoryStore

def empty (capacity : Nat) : MemoryStore := ⟨capacity, Dictionary.empty⟩

def sizeOf (entries : List (String × String)) : Nat :=
  entries.foldr (fun e n => entrySize e.1 e.2 + n) 0

def used (s : MemoryStore) : Nat := sizeOf s.entries.entries

/-- The bytes of all entries but one. -/
def usedBeside (s : MemoryStore) (key : String) : Nat := sizeOf (s.entries.erase key).entries

def write (s : MemoryStore) (key value : String) : Except StoreError Unit × MemoryStore :=
  let required := s.usedBeside key + entrySize key value
  if s.capacity < required then (.error (.quotaExceeded key required s.capacity), s)
  else (.ok (), { s with entries := s.entries.insert key value })

instance : Store MemoryStore where
  read s key := .ok (s.entries.get? key)
  write := write
  remove s key := (.ok (), { s with entries := s.entries.erase key })
  keys s := .ok s.entries.keys

end MemoryStore

end SdkShelf
