import ToolSelect.CommandLine.Parse
import ToolSelect.Config.Session
import ToolSelect.Program.Report
import ToolSelect.Program.Usage

/-!
# Runs of the program

A run of the program on a machine: the words of the command line lead to an
exit code and two texts, one of results and one of complaints.
-/

namespace ToolSelect

@[ext]
structure Outcome where
  exitCode : Nat
  output : String
  complaints : String
deriving DecidableEq, Repr

namespace Outcome

def success (output : String) : Outcome :=
  ⟨0, output ++ "\n", ""⟩

def failure (complaints : String) : Outcome :=
  ⟨1, "", complaints ++ "\n"⟩

def misuse (complaints : String) : Outcome :=
  ⟨2, "", complaints ++ "\n"⟩

/-- The outcome of a command line that asks for no command, with the text about
it. -/
def ofUsageProblem (text : String) : UsageProblem → Outcome
  | .helpWanted | .versionWanted => success text
  | _ => misuse text

end Outcome

namespace Program

def configVariable : String :=
  "NTC_CONFIG"

variable {m : Type → Type} [Monad m]

def runCommand (machine : Machine m) (session : Session) :
    Command → m Outcome
  | .select name system architecture => do
    let platform := session.platform name system architecture
    match ← session.select machine platform with
    | .error problem => return .failure (Report.errorText problem.causes)
    | .ok provider =>
      if provider.isAvailable then return .success provider.display
      else return .failure provider.display
  | .strategies =>
    match session.strategies machine with
    | .error problem => return .failure (Report.errorText problem.causes)
    | .ok strategies => return .success ("\n".intercalate strategies)

def runCommandLine (machine : Machine m) (host : Host)
    (line : CommandLine) : m Outcome := do
  match ←
    Session.load machine host line.config line.family line.directories with
  | .error problem => return .failure (Report.errorText problem.causes)
  | .ok session => runCommand machine session line.command

def runWith (texts : UsageTexts) (machine : Machine m) (host : Host)
    (words : List String) : m Outcome := do
  let environment ← machine.variableValue configVariable
  match CommandLine.parse environment words with
  | .error problem =>
    return .ofUsageProblem (texts.text environment words problem) problem
  | .ok line => runCommandLine machine host line

/-- The version of a build that has no stamp of its own. -/
def version : String :=
  "0.0.0-dev"

def run (machine : Machine m) (host : Host) (words : List String) :
    m Outcome :=
  runWith (.short version) machine host words

end Program

end ToolSelect
