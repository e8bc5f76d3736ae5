-- What an application sets for its client, and what of it is refused.
import ToggleSync.Backoff
import ToggleSync.Failover
import ToggleSync.Table
import ToggleSync.Url.Reader

namespace ToggleSync

structure Settings where
  appName : String
  instanceTag : String
  environment : String
  apiUrl : String
  fetchInterval : Span
  /-- Without an interval nothing is reported. -/
  metricsInterval : Option Span
  storageDir : String
  /-- The first toggles are fetched before the start is over. -/
  synchronous : Bool
  /-- A failure of the first question is one of the start. -/
  mustSucceedFirst : Bool
  /-- Polls as soon as polling starts. -/
  eager : Bool
  streaming : Bool
  /-- The state from the application takes the place of the one in the files. -/
  prefersBootstrap : Bool
  headers : Table String
  timeout : Span
  failover : Failover.Rules
  backoff : Backoff
  deriving DecidableEq

namespace Settings

/-! ## Defaults -/

/-- The name of the machine, from either of the places that may tell it. Where the first one tells
an empty name the second one is not asked. -/
def machineName? (host computer : Option String) : Option String :=
  (host.or computer).filter (!·.isEmpty)

/-- A machine without a name gets one that is made up. -/
def machineTag (host computer : Option String) (madeUp : String) : String :=
  (machineName? host computer).getD ("generated-" ++ madeUp)

def standard (instanceTag storageDir : String) : Settings where
  appName := ""
  instanceTag
  environment := "default"
  apiUrl := ""
  fetchInterval := .ofSeconds 30
  metricsInterval := some (.ofSeconds 60)
  storageDir
  synchronous := false
  mustSucceedFirst := false
  eager := true
  streaming := false
  prefersBootstrap := false
  headers := ∅
  timeout := .ofSeconds 30
  failover := .standard
  backoff := .standard

/-! ## The server -/

def supportedSchemes : List String := ["http", "https"]

/-- The URL of the server. White space around it does not count. -/
def url (s : Settings) : Except Failure Url :=
  match Url.read (trim s.apiUrl) with
  | .error fault => .error (.invalidUrl (s.apiUrl ++ ": " ++ fault.message))
  | .ok u =>
    if supportedSchemes.contains u.scheme then .ok u
    else .error (.invalidUrl (s.apiUrl ++ ": unsupported scheme"))

/-- Where the server answers for a path. -/
def endpoint (s : Settings) (path : String) : String := trimSlashes (trim s.apiUrl) ++ "/" ++ path

def initialMode (s : Settings) : Mode := if s.streaming then .streaming else .polling

/-! ## Validity -/

/-- What is wrong with settings, if anything is. Of several faults the first one counts. -/
def validate (s : Settings) : Except Failure Unit :=
  if isBlankText s.appName then .error (.invalidSettings "app name is required")
  else if isBlankText s.instanceTag then .error (.invalidSettings "instance tag must not be empty")
  else
    match s.url with
    | .error f => .error f
    | .ok _ =>
      if s.fetchInterval.isZero then
        .error (.invalidSettings "fetch interval must be greater than zero")
      else .ok ()

end Settings

end ToggleSync
