import SdkShelf.Store.Memory

/-!
Stores whose writes fail as they are told to, for watching what a user of a store does then.
-/

namespace SdkShelf

inductive Verdict where
  | accept
  | quotaExceeded
  | unavailable
  | diskFailure
  deriving DecidableEq, Repr

/-- A store with a verdict for each of the next writes; when they run out, all are accepted. It
records every key and text it was given to write. -/
structure ScriptedStore where
  verdicts : List Verdict
  entries : Dictionary String
  attempts : List (String × String)

namespace ScriptedStore

def ofVerdicts (verdicts : List Verdict) : ScriptedStore := ⟨verdicts, Dictionary.empty, []⟩

def forget (s : ScriptedStore) : ScriptedStore := { s with attempts := [] }

def write (s : ScriptedStore) (key value : String) : Except StoreError Unit × ScriptedStore :=
  let next := { s with
    verdicts := s.verdicts.tail
    attempts := s.attempts ++ [(key, value)] }
  match s.verdicts.headD .accept with
  | .accept => (.ok (), { next with entries := s.entries.insert key value })
  | .quotaExceeded => (.error (.quotaExceeded key (entrySize key value) 0), next)
  | .unavailable => (.error (.unavailable "disabled"), next)
  | .diskFailure => (.error (.disk (.other "disk")), next)

instance : Store ScriptedStore where
  read s key := .ok (s.entries.get? key)
  write := write
  remove s key := (.ok (), { s with entries := s.entries.erase key })
  keys s := .ok s.entries.keys

end ScriptedStore

end SdkShelf
