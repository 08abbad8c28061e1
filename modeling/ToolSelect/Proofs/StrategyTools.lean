import ToolSelect.Proofs.ToolEdits
import ToolSelect.Selection.Strategy

/-!
# What strategies make of tools

The flags for each size of words, kind by kind, and what every strategy makes
of the tools that it is given.
-/

namespace ToolSelect

namespace Strategy

/-- The flags for one size of words: one for each compiler and the linker, one
for the assembler, which has two for an architecture on macOS, and none for the
archiver. -/
def wordFlags (host : Host) (compiler assembler architecture : String) :
    ToolKind → List String
  | .cCompiler | .cppCompiler | .objcCompiler | .objcppCompiler | .linker =>
    [compiler]
  | .assembler =>
    if host.operatingSystem = .macOs then ["-arch", architecture]
    else [assembler]
  | .staticLibArchiver => []

/-- The flags of a built-in strategy. -/
def flags? (host : Host) : Strategy → Option (ToolKind → List String)
  | .toolChainDefault => some fun _ => []
  | .intel32 => some (wordFlags host "-m32" "--32" "i386")
  | .intel64 => some (wordFlags host "-m64" "--64" "x86_64")
  | .named _ _ => none

/-- The tools for a platform of the strategy: a built-in one puts its flags
behind the arguments, and any other one does to the tools what it was given to
do. -/
def made (strategy : Strategy) (host : Host) (tools : ToolSet) : ToolSet :=
  match strategy with
  | .toolChainDefault => tools
  | .intel32 => tools.appended (wordFlags host "-m32" "--32" "i386")
  | .intel64 => tools.appended (wordFlags host "-m64" "--64" "x86_64")
  | .named _ action => action tools

private theorem argumentsFor_source (flags : ArchitectureFlags)
    {compiler assembler architecture : String}
    (compilers : flags.compiler = [compiler])
    (gnuAssembler : flags.gnuAssembler = [assembler])
    (appleAssembler : flags.appleAssembler = ["-arch", architecture])
    (host : Host) :
    (flags.source.argumentsFor · host) =
      wordFlags host compiler assembler architecture := by
  funext kind
  cases kind with
  | assembler =>
      simp only [ArchitectureFlags.source, ToolKind.isCompilerOrLinker,
        OperatingSystem.isMacOs, beq_iff_eq, gnuAssembler, appleAssembler,
        wordFlags, Bool.false_eq_true, if_false, if_true]
  | staticLibArchiver => rfl
  | _ => exact compilers

theorem configure_eq_made (strategy : Strategy) (host : Host)
    (tools : ToolSet) :
    strategy.configure tools host = strategy.made host tools := by
  cases strategy with
  | toolChainDefault => rfl
  | intel32 =>
      rw [configure, made, ArgumentSource.apply_eq,
        argumentsFor_source .i386 rfl rfl rfl]
  | intel64 =>
      rw [configure, made, ArgumentSource.apply_eq,
        argumentsFor_source .amd64 rfl rfl rfl]
  | named names action => rfl

end Strategy

end ToolSelect
