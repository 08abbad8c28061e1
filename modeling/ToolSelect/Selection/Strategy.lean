import ToolSelect.Text.Quoted
import ToolSelect.Tool.Arguments

/-!
# Platform strategies

A strategy says which platforms it builds for and how it configures the tools
for them.  Three strategies are built in; any other one lists its platforms by
name.
-/

namespace ToolSelect

inductive Strategy where
  | toolChainDefault
  | intel32
  | intel64
  | named (names : List String) (action : ToolSet → ToolSet)

namespace Strategy

def builtIns : List Strategy :=
  [.toolChainDefault, .intel32, .intel64]

/-- Whether the strategy builds for the platform.  The built-in ones build only
for the host's own operating system, and never 64-bit code on Windows. -/
def buildsFor (strategy : Strategy) (platform : Platform)
    (host : Host) : Bool :=
  let native := platform.operatingSystem == host.operatingSystem
  match strategy with
  | .toolChainDefault =>
    native && platform.architecture == .toolChainDefault
  | .intel32 => native && platform.architecture == .i386
  | .intel64 =>
    native && !host.operatingSystem.isWindows &&
      platform.architecture == .amd64
  | .named names _ => names.contains platform.name

def configure (strategy : Strategy) (tools : ToolSet) (host : Host) :
    ToolSet :=
  match strategy with
  | .toolChainDefault => tools
  | .intel32 => ArchitectureFlags.i386.source.apply tools host
  | .intel64 => ArchitectureFlags.amd64.source.apply tools host
  | .named _ action => action tools

def display : Strategy → String
  | .toolChainDefault => "tool chain default architecture"
  | .intel32 => "x86"
  | .intel64 => "x86-64"
  | .named names _ => "platforms named [" ++ ", ".intercalate names ++ "]"

def inspect : Strategy → String
  | .toolChainDefault => "ToolChainDefault"
  | .intel32 => "Intel32"
  | .intel64 => "Intel64"
  | .named names _ =>
    "Named \x7b names: [" ++ ", ".intercalate (names.map Text.quoted) ++
      "], .. \x7d"

end Strategy

end ToolSelect
