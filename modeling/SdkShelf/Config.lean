import SdkShelf.Backend.Client
import SdkShelf.Text.Quoted
import SdkShelf.Text.Word

/-!
The program's settings. Each is taken from a flag, else from an environment variable, else it has a
standing value, whatever the others are.
-/

namespace SdkShelf

structure Flags where
  dataDir : Option String
  quotaBytes : Option Nat
  apiUrl : Option String
  deriving DecidableEq, Repr, Inhabited

/-- The settings of a run: where entries are kept, how many bytes they may take, and where the
backend is. -/
structure Config where
  dataDir : String
  quotaBytes : Nat
  apiUrl : String
  deriving DecidableEq, Repr

namespace Config

def defaultDataDir : String := ".docsdk"

def defaultQuota : Nat := 5 * 1024 * 1024

def minQuota : Nat := 1024

def dataDirVariable : String := "DOCSDK_DATA_DIR"

def quotaVariable : String := "DOCSDK_QUOTA_BYTES"

def apiUrlVariable : String := "DOCSDK_API_URL"

inductive Error where
  | quota (given : Nat)
  | address (text : String) (cause : Url.Error)
  | scheme (text : String)
  deriving DecidableEq, Repr

def Error.message : Error → String
  | quota given =>
    "quota must be at least " ++ toString minQuota ++ " bytes (got " ++ toString given ++ ")"
  | address text cause => "invalid api url " ++ Text.quote text ++ ": " ++ cause.message
  | scheme text => "api url must be http/https: " ++ text

/-- A variable without blanks around it; a blank one counts as absent. -/
def lookup (env : String → Option String) (name : String) : Option String :=
  ((env name).map Text.trim).filter fun v => !v.isEmpty

/-- A variable that is no number is ignored. -/
def selectQuota (flags : Flags) (env : String → Option String) : Nat :=
  (flags.quotaBytes.or ((lookup env quotaVariable).bind fun v => (Text.readWord v).toOption)).getD
    defaultQuota

def selectDataDir (flags : Flags) (env : String → Option String) : String :=
  (flags.dataDir.or (lookup env dataDirVariable)).getD defaultDataDir

def selectApiUrl (flags : Flags) (env : String → Option String) : String :=
  (flags.apiUrl.or (lookup env apiUrlVariable)).getD Backend.Client.defaultUrl

/-- The settings of a run; the quota is checked before the backend's address. -/
def resolve (flags : Flags) (env : String → Option String) : Except Error Config :=
  let quotaBytes := selectQuota flags env
  let apiUrl := selectApiUrl flags env
  if quotaBytes < minQuota then .error (.quota quotaBytes)
  else
    match Url.parse apiUrl with
    | .error cause => .error (.address apiUrl cause)
    | .ok url =>
      if url.isWeb then .ok ⟨selectDataDir flags env, quotaBytes, apiUrl⟩
      else .error (.scheme apiUrl)

end Config

end SdkShelf
