import ToolSelect.Config.Json
import ToolSelect.Config.Registrations

/-!
# Sessions

A session is a host with the configuration to work with there.  It comes from
the file that is asked for, or else from the user's own file if there is one,
and a family and more directories can be given on top of it.
-/

namespace ToolSelect

/-- Why a file gives no configuration. -/
inductive LoadProblem where
  | unreadable (failure : ReadFailure)
  | invalid (path : Path) (problem : ConfigProblem)
deriving DecidableEq

def LoadProblem.causes : LoadProblem → List String
  | .unreadable failure => failure.causes
  | .invalid path problem =>
    ("Invalid tool chain configuration in " ++ path.text) :: problem.causes

/-- Why there is no session: the file that was asked for is no configuration,
or the user's own file is none. -/
inductive SessionProblem where
  | requested (path : Path) (problem : LoadProblem)
  | standard (problem : LoadProblem)
deriving DecidableEq

def SessionProblem.causes : SessionProblem → List String
  | .requested path problem =>
    ("Failed to load configuration " ++ path.text) :: problem.causes
  | .standard problem => problem.causes

namespace Config

variable {m : Type → Type} [Monad m]

def load (machine : Machine m) (path : Path) :
    m (Except LoadProblem Config) := do
  match ← machine.readText path with
  | .error failure => return .error (.unreadable failure)
  | .ok text =>
    match parse text with
    | .error problem => return .error (.invalid path problem)
    | .ok config => return .ok config

def standardPath (machine : Machine m) : m (Option Path) := do
  match ← machine.configDirectory with
  | some directory =>
    return some ((directory.join "ntc").join "toolchain.json")
  | none => return none

/-- The configuration from the file that is asked for, or else from the user's
own file, or the empty one if there is none. -/
def find (machine : Machine m) (requested : Option Path) :
    m (Except SessionProblem Config) := do
  match requested with
  | some path =>
    match ← load machine path with
    | .ok config => return .ok config
    | .error problem => return .error (.requested path problem)
  | none =>
    match ← standardPath machine with
    | none => return .ok .empty
    | some path =>
      if ← machine.isPresent path then
        match ← load machine path with
        | .ok config => return .ok config
        | .error problem => return .error (.standard problem)
      else
        return .ok .empty

/-- The configuration with another family, if one is given, and with more
directories. -/
def override (config : Config) (family : Option Family)
    (directories : List Path) : Config :=
  { config with
    family := family.getD config.family
    directories := config.directories ++ directories }

end Config

structure Session where
  host : Host
  config : Config
deriving DecidableEq

namespace Session

variable {m : Type → Type} [Monad m]

/-- The session with the configuration that is found, and with what is given on
top of it. -/
def load (machine : Machine m) (host : Host) (requested : Option Path)
    (family : Option Family) (directories : List Path) :
    m (Except SessionProblem Session) := do
  match ← Config.find machine requested with
  | .ok config => return .ok ⟨host, config.override family directories⟩
  | .error problem => return .error problem

def build (session : Session) (machine : Machine m) :
    Except ConfigProblem (ToolChain (SearchPath m)) :=
  session.config.build machine session.host

def platform (session : Session) (name : String)
    (system : Option OperatingSystem) (architecture : Architecture) :
    Platform :=
  ⟨name, system.getD session.host.operatingSystem, architecture⟩

def select (session : Session) (machine : Machine m) (platform : Platform) :
    m (Except ConfigProblem ToolProvider) := do
  match session.build machine with
  | .ok chain => return .ok (← chain.select platform)
  | .error problem => return .error problem

def strategies (session : Session) (machine : Machine m) :
    Except ConfigProblem (List String) := do
  return (← session.build machine).strategies.map Strategy.display

end Session

end ToolSelect
