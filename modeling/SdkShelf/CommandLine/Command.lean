import SdkShelf.Config

/-!
What a command line asks for.
-/

namespace SdkShelf
namespace CommandLine

/-- Values for parameters, in the order in which they were given. -/
abbrev Params := List (String × String)

structure ExecuteArgs where
  id : String
  endpoint : Nat
  params : Params
  body : Option String
  viaBackend : Bool
  deriving DecidableEq, Repr

inductive RemoteCommand where
  | list
  | describe (id : String)
  | create (name url sourceType : String)
  | test (id path : String) (params : Params)
  deriving DecidableEq, Repr

inductive Command where
  | generate (url : String) (name : Option String)
  | list
  | describe (id : String)
  | endpoints (id : String)
  | execute (args : ExecuteArgs)
  | stats
  | clear
  | remote (command : RemoteCommand)
  deriving DecidableEq, Repr

structure Invocation where
  flags : Flags
  command : Command
  deriving DecidableEq, Repr

/-- Why a command line is not carried out. Asking for help or for the version is one reason. -/
inductive UsageError where
  | displayHelp
  | displayVersion
  /-- Nothing was given where something has to be. -/
  | helpForMissing
  | missingSubcommand
  | invalidSubcommand
  | unknownArgument
  | missingArgument
  /-- An argument was given twice. -/
  | conflict
  /-- An option has no value, or an empty one that it does not take. -/
  | invalidValue
  /-- A flag was given a value. -/
  | tooManyValues
  /-- A value is not of the form that its option takes. -/
  | validation (message : String)
  deriving DecidableEq, Repr

def UsageError.exitCode : UsageError → Nat
  | displayHelp | displayVersion => 0
  | _ => 2

end CommandLine
end SdkShelf
