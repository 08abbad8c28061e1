import ToolSelect.Config.Basic
import ToolSelect.Selection.ToolChain

/-!
# Configured tool chains

A configuration stands for a list of registrations: the directories first, then
the targets in order, and the default executables at the end.
-/

namespace ToolSelect

def overrideTools (executables : KindMap String)
    (arguments : KindMap (List String)) (host : Host) (tools : ToolSet) :
    ToolSet :=
  (ArgumentSource.ofKindMap arguments).apply
    (executables.entries.foldl
      (fun tools entry => tools.setExecutable entry.1 entry.2) tools)
    host

def Target.registration (target : Target) (host : Host) :
    Except ConfigProblem Registration := do
  let arguments ← KindMap.ofTable target.arguments
  let executables ← KindMap.ofTable target.executables
  return .target target.names (overrideTools executables arguments host)

namespace Config

def registrations (config : Config) (host : Host) :
    Except ConfigProblem (List Registration) := do
  let targets ← config.targets.mapM (·.registration host)
  let executables ← KindMap.ofTable config.executables
  return .searchIn config.directories :: targets ++
    executables.entries.map fun entry =>
      .defaultExecutable entry.1 entry.2

variable {L : Type} {m : Type → Type}

def apply [Locator L m] (config : Config) (chain : ToolChain L) :
    Except ConfigProblem (ToolChain L) := do
  let registrations ← config.registrations chain.host
  return registrations.foldl ToolChain.register chain

def build [Monad m] (config : Config) (machine : Machine m) (host : Host) :
    Except ConfigProblem (ToolChain (SearchPath m)) :=
  config.apply (.onMachine config.toolChainName config.family machine host)

end Config

end ToolSelect
