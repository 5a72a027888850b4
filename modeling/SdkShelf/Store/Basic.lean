import SdkShelf.Disk.Node

/-!
Stores keep texts under keys, up to a capacity in bytes. What kind of store it is does not matter to
its users: they see the four operations and the ways in which these fail.
-/

namespace SdkShelf

inductive StoreError where
  /-- The entries would need `required` bytes. -/
  | quotaExceeded (key : String) (required capacity : Nat)
  | unavailable (reason : String)
  | disk (cause : Disk.Error)
  deriving DecidableEq, Repr

namespace StoreError

def message : StoreError → String
  | quotaExceeded key required capacity =>
    "storage quota exceeded writing `" ++ key ++ "` (" ++ toString required ++ " of " ++
      toString capacity ++ " bytes)"
  | unavailable reason => "storage unavailable: " ++ reason
  | disk cause => "storage io error: " ++ cause.message

/-- Only a lack of room can be helped, by writing less. -/
def isQuotaExceeded : StoreError → Bool
  | quotaExceeded .. => true
  | _ => false

end StoreError

/-- The operations of a store with states of type `σ`. A write may change the state even if it
fails. -/
class Store (σ : Type) where
  read : σ → String → Except StoreError (Option String)
  write : σ → String → String → Except StoreError Unit × σ
  remove : σ → String → Except StoreError Unit × σ
  keys : σ → Except StoreError (List String)

def entrySize (key value : String) : Nat := key.utf8ByteSize + value.utf8ByteSize

structure BrokenStore where
  reason : String

instance : Store BrokenStore where
  read s _ := .error (.unavailable s.reason)
  write s _ _ := (.error (.unavailable s.reason), s)
  remove s _ := (.error (.unavailable s.reason), s)
  keys s := .error (.unavailable s.reason)

end SdkShelf
