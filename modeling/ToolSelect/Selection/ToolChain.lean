import ToolSelect.Search.Availability
import ToolSelect.Search.SearchPath
import ToolSelect.Selection.Provider
import ToolSelect.Selection.Registry

/-!
# Tool chains

A tool chain knows the tools of one compiler family and the strategies that
configure them.  It is built by registrations and then asked for platforms:
the first strategy that builds for the platform configures the default tools,
the hooks edit them, and the locator decides whether they are there.
-/

namespace ToolSelect

@[ext]
structure ToolChain (L : Type) where
  name : String
  family : Family
  host : Host
  locator : L
  registry : Registry
  defaultTools : ToolSet
  hooks : List (Platform → ToolSet → ToolSet)
  canUseCommandFile : Bool

/-- A step in the making of a tool chain. -/
inductive Registration where
  | searchIn (directories : List Path)
  | target (names : List String) (action : ToolSet → ToolSet)
  | defaultExecutable (kind : ToolKind) (executable : String)
  | eachPlatform (hook : Platform → ToolSet → ToolSet)
  | commandFile (enabled : Bool)

namespace ToolChain

variable {L : Type} {m : Type → Type}

/-- A tool chain with the tools of the family and the built-in strategies. -/
def new (name : String) (family : Family) (host : Host) (locator : L) :
    ToolChain L where
  name := name
  family := family
  host := host
  locator := locator
  registry := .new
  defaultTools := .ofFamily family
  hooks := []
  canUseCommandFile := family.canUseCommandFile

def onMachine (name : String) (family : Family) (machine : Machine m)
    (host : Host) : ToolChain (SearchPath m) :=
  new name family host (.ofMachine machine host)

def displayName (chain : ToolChain L) : String :=
  "Tool chain '" ++ chain.name ++ "' (" ++ chain.family.displayName ++ ")"

/-- The tool chain that supports the named platforms, ahead of all it supports
so far. -/
def addTarget (chain : ToolChain L) (names : List String)
    (action : ToolSet → ToolSet) : ToolChain L :=
  { chain with registry := chain.registry.register (.named names action) }

def setDefaultExecutable (chain : ToolChain L) (kind : ToolKind)
    (executable : String) : ToolChain L :=
  { chain with
    defaultTools := chain.defaultTools.setExecutable kind executable }

def addHook (chain : ToolChain L) (hook : Platform → ToolSet → ToolSet) :
    ToolChain L :=
  { chain with hooks := chain.hooks ++ [hook] }

def strategies (chain : ToolChain L) : List Strategy :=
  chain.registry.strategies

def strategyFor? (chain : ToolChain L) (platform : Platform) :
    Option Strategy :=
  chain.registry.find? platform chain.host

/-- The tools for the platform: the defaults as the strategy configures them,
edited by every hook in turn. -/
def configuredTools (chain : ToolChain L) (strategy : Strategy)
    (platform : Platform) : ToolSet :=
  chain.hooks.foldl (fun tools hook => hook platform tools)
    (strategy.configure chain.defaultTools chain.host)

def unsupportedReason (platform : Platform) : String :=
  "Don't know how to build for platform '" ++ platform.name ++ "'."

variable [Locator L m]

def searchIn (chain : ToolChain L) (directories : List Path) : ToolChain L :=
  { chain with
    locator := directories.foldl Locator.addDirectory chain.locator }

def directories (chain : ToolChain L) : List Path :=
  Locator.directories chain.locator

def register (chain : ToolChain L) : Registration → ToolChain L
  | .searchIn directories => chain.searchIn directories
  | .target names action => chain.addTarget names action
  | .defaultExecutable kind executable =>
    chain.setDefaultExecutable kind executable
  | .eachPlatform hook => chain.addHook hook
  | .commandFile enabled => { chain with canUseCommandFile := enabled }

variable [Monad m]

def select (chain : ToolChain L) (platform : Platform) : m ToolProvider := do
  match chain.strategyFor? platform with
  | none => return .unavailable [unsupportedReason platform]
  | some strategy =>
    let tools := chain.configuredTools strategy platform
    let availability ← Availability.new.probe tools chain.locator
    if availability.isAvailable then
      return .available ⟨platform, tools, chain.canUseCommandFile⟩
    else
      return .unavailable availability.reasons

end ToolChain

end ToolSelect
