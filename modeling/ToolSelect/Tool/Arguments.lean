import ToolSelect.Platform.Host
import ToolSelect.Tool.Set

/-!
# Sources of arguments

A source says which arguments a tool of each kind gets on a host.  Applying it
to a tool set appends them to the tools that are there.
-/

namespace ToolSelect

structure ArgumentSource where
  argumentsFor : ToolKind → Host → List String

namespace ArgumentSource

def extend (source : ArgumentSource) (host : Host) (tools : ToolSet)
    (kind : ToolKind) : ToolSet :=
  let extra := source.argumentsFor kind host
  if extra.isEmpty then tools else tools.editArguments kind (· ++ extra)

def apply (source : ArgumentSource) (tools : ToolSet) (host : Host) :
    ToolSet :=
  tools.kinds.foldl (source.extend host) tools

/-- The arguments listed for each kind, whatever the host. -/
def ofKindMap (arguments : KindMap (List String)) : ArgumentSource :=
  ⟨fun kind _ => (arguments.get kind).getD []⟩

end ArgumentSource

/-- The arguments that select an architecture. -/
structure ArchitectureFlags where
  compiler : List String
  gnuAssembler : List String
  appleAssembler : List String
deriving DecidableEq, Repr

namespace ArchitectureFlags

def i386 : ArchitectureFlags :=
  ⟨["-m32"], ["--32"], ["-arch", "i386"]⟩

def amd64 : ArchitectureFlags :=
  ⟨["-m64"], ["--64"], ["-arch", "x86_64"]⟩

/-- Compilers and the linker share their flags, the assembler of macOS has
flags of its own, and the archiver needs none. -/
def source (flags : ArchitectureFlags) : ArgumentSource where
  argumentsFor kind host :=
    if kind.isCompilerOrLinker then flags.compiler
    else if kind = .assembler then
      if host.operatingSystem.isMacOs then flags.appleAssembler
      else flags.gnuAssembler
    else []

end ArchitectureFlags

end ToolSelect
