import SdkShelf.CommandLine.Command

/-!
Reading one level of a command line: options, at most one positional argument, and the name of a
subcommand, with which the next level begins. An option's value is looked at when the next argument
shows that it is complete.
-/

namespace SdkShelf
namespace CommandLine

inductive Kind where
  | flag
  | text
  /-- A text that is not empty. -/
  | path
  | number
  /-- A name and a value, with an equals sign between them. -/
  | pair
  deriving DecidableEq, Repr

inductive Value where
  | set
  | text (s : String)
  | number (n : Nat)
  | pair (name value : String)
  deriving DecidableEq, Repr

/-- An option, written with two hyphens before its name. -/
structure NamedArgument where
  name : String
  kind : Kind
  repeatable : Bool
  deriving DecidableEq, Repr

/-- What may be given on a level. Every subcommand is listed with its own subcommands. -/
structure Level where
  options : List NamedArgument
  positional : Option String
  hasVersion : Bool
  commands : List (String × List String)

def helpCommand : String := "help"

def splitPair : List Char → Option (List Char × List Char)
  | [] => none
  | c :: rest =>
    if c = '=' then some ([], rest) else (splitPair rest).map fun (k, v) => (c :: k, v)

/-- A name and a value. Blanks around the name do not count, and there must be a name. -/
def readPair (raw : String) : Except String (String × String) :=
  match splitPair raw.toList with
  | none => .error ("expected name=value, got `" ++ raw ++ "`")
  | some (key, value) =>
    let name := Text.trim (String.ofList key)
    if name.isEmpty then .error ("parameter name must not be empty: `" ++ raw ++ "`")
    else .ok (name, String.ofList value)

def readValue (kind : Kind) (raw : String) : Except UsageError Value :=
  match kind with
  | .flag => .ok .set
  | .text => .ok (.text raw)
  | .path => if raw.isEmpty then .error .invalidValue else .ok (.text raw)
  | .number => ((Text.readWord raw).map .number).mapError fun e => .validation e.message
  | .pair => ((readPair raw).map fun (k, v) => .pair k v).mapError .validation

/-- Values by the name of their option, in the order in which they were given. -/
abbrev Matches := List (String × Value)

namespace Matches

def text? (m : Matches) (name : String) : Option String :=
  m.findSome? fun
    | (n, .text s) => if n = name then some s else none
    | _ => none

def number? (m : Matches) (name : String) : Option Nat :=
  m.findSome? fun
    | (n, .number k) => if n = name then some k else none
    | _ => none

def pairs (m : Matches) (name : String) : Params :=
  m.filterMap fun
    | (n, .pair k v) => if n = name then some (k, v) else none
    | _ => none

def isSet (m : Matches) (name : String) : Bool := m.any fun e => e.1 = name

end Matches

/-- How far the reading of a level has come: what is complete, and the option that came last with
its value, if it has one yet. -/
structure Progress where
  found : Matches
  pending : Option (NamedArgument × Option String)

namespace Progress

def start : Progress := ⟨[], none⟩

def awaitsValue (p : Progress) : Bool :=
  match p.pending with
  | some (_, none) => true
  | _ => false

def record (found : Matches) (o : NamedArgument) (raw : String) : Except UsageError Matches :=
  if !o.repeatable && Matches.isSet found o.name then .error .conflict
  else (readValue o.kind raw).map fun v => found ++ [(o.name, v)]

def settle (p : Progress) : Except UsageError Progress :=
  match p.pending with
  | none => .ok p
  | some (_, none) => .error .invalidValue
  | some (o, some raw) => (record p.found o raw).map fun found => ⟨found, none⟩

end Progress

namespace Level

/-- The option of a name; asking for help is one everywhere. -/
def option? (l : Level) (name : String) : Option NamedArgument := l.options.find? fun o => o.name = name

def isCommand (l : Level) (name : String) : Bool :=
  !l.commands.isEmpty && (name = helpCommand || l.commands.any fun c => c.1 = name)

def helpOn (l : Level) : List String → UsageError
  | [] => .displayHelp
  | [name] => if l.isCommand name then .displayHelp else .invalidSubcommand
  | [name, inner] =>
    match l.commands.find? fun c => c.1 = name with
    | none => .invalidSubcommand
    | some (_, inners) =>
      if inners.contains inner || (!inners.isEmpty && inner = helpCommand) then .displayHelp
      else .invalidSubcommand
  | _ => .invalidSubcommand

/-- Why an argument that is no option has no place. -/
def misplaced (l : Level) (trailing : Bool) (arg : String) : UsageError :=
  if trailing && l.isCommand arg then .unknownArgument
  else if l.commands.isEmpty then .unknownArgument
  else .invalidSubcommand

/-- Asks for help or for the version, once what came before is settled. -/
def display (p : Progress) (what : UsageError) : UsageError :=
  match p.settle with
  | .error e => e
  | .ok _ => what

def long (l : Level) (p : Progress) (name : String) (attached : Option String) :
    Except UsageError Progress :=
  let unvalued (go : Except UsageError Progress) : Except UsageError Progress :=
    if attached.isSome then .error .tooManyValues else go
  if name = "help" then unvalued (.error (display p .displayHelp))
  else if name = "version" ∧ l.hasVersion then unvalued (.error (display p .displayVersion))
  else
    match l.option? name with
    | none => .error .unknownArgument
    | some o =>
      if o.kind = .flag then unvalued do
        let p ← p.settle
        (Progress.record p.found o "").map fun found => ⟨found, none⟩
      else
        match attached with
        | none => do
          let p ← p.settle
          .ok ⟨p.found, some (o, none)⟩
        | some raw => do
          let p ← p.settle
          (Progress.record p.found o raw).map fun found => ⟨found, none⟩

def splitLong (body : List Char) : String × Option String :=
  match splitPair body with
  | none => (String.ofList body, none)
  | some (name, value) => (String.ofList name, some (String.ofList value))

/-- Only help and the version have a letter. -/
def short (l : Level) (p : Progress) (letter : Char) : UsageError :=
  if letter = 'h' then display p .displayHelp
  else if letter = 'V' ∧ l.hasVersion then display p .displayVersion
  else .unknownArgument

def place (l : Level) (p : Progress) (trailing : Bool) (arg : String) :
    Except UsageError Progress :=
  match l.positional with
  | none => .error (l.misplaced trailing arg)
  | some name =>
    if Matches.isSet p.found name then .error (l.misplaced trailing arg)
    else do
      let p ← p.settle
      .ok ⟨p.found ++ [(name, .text arg)], none⟩

/-- Reads a level, up to a subcommand, which is returned with the arguments behind it. Behind two
hyphens alone no argument is an option. -/
def read (l : Level) (p : Progress) (trailing : Bool) :
    List String → Except UsageError (Progress × Option (String × List String))
  | [] => .ok (p, none)
  | arg :: rest =>
    if trailing then do
      let p ← l.place p true arg
      l.read p true rest
    else if !p.awaitsValue && l.isCommand arg then
      if arg = helpCommand then .error (l.helpOn rest) else .ok (p, some (arg, rest))
    else
      match arg.toList with
      | ['-', '-'] => l.read p true rest
      | '-' :: '-' :: body => do
        let (name, attached) := splitLong body
        let p ← l.long p name attached
        l.read p false rest
      | '-' :: letter :: _ => .error (l.short p letter)
      | _ =>
        match p.pending with
        | some (o, none) => l.read ⟨p.found, some (o, some arg)⟩ false rest
        | _ => do
          let p ← l.place p false arg
          l.read p false rest

end Level

end CommandLine
end SdkShelf
