import ToolSelect.Text.Ascii

/-!
# Kinds of tools

The seven jobs that the tools of a tool chain do, with their identifiers and
their order.
-/

namespace ToolSelect

inductive ToolKind where
  | cCompiler
  | cppCompiler
  | objcCompiler
  | objcppCompiler
  | linker
  | assembler
  | staticLibArchiver
deriving DecidableEq, Repr

namespace ToolKind

def all : List ToolKind :=
  [.cCompiler, .cppCompiler, .objcCompiler, .objcppCompiler, .linker,
    .assembler, .staticLibArchiver]

/-- The kinds in the order of their declaration, in which tools are listed. -/
def declared : List ToolKind :=
  (List.range all.length).map ofNat

def id : ToolKind → String
  | .cCompiler => "cCompiler"
  | .cppCompiler => "cppCompiler"
  | .objcCompiler => "objcCompiler"
  | .objcppCompiler => "objcppCompiler"
  | .linker => "linker"
  | .assembler => "assembler"
  | .staticLibArchiver => "staticLibArchiver"

def displayName : ToolKind → String
  | .cCompiler => "C compiler"
  | .cppCompiler => "C++ compiler"
  | .objcCompiler => "Objective-C compiler"
  | .objcppCompiler => "Objective-C++ compiler"
  | .linker => "Linker"
  | .assembler => "Assembler"
  | .staticLibArchiver => "Static library archiver"

/-- Whether tools of the kind take the options of a compiler driver. -/
def isCompilerOrLinker : ToolKind → Bool
  | .assembler | .staticLibArchiver => false
  | _ => true

def index (kind : ToolKind) : Nat :=
  all.idxOf kind

/-- The kind with this identifier, in any case of its letters. -/
def ofId? (text : String) : Option ToolKind :=
  all.find? fun kind => Text.sameAsciiFold kind.id.toList text.toList

@[simp]
theorem mem_all (kind : ToolKind) : kind ∈ all := by
  cases kind <;> decide

/-- The list of all kinds has the order of their declaration. -/
theorem pairwise_all : all.Pairwise fun left right =>
    left.ctorIdx < right.ctorIdx := by
  decide

theorem nodup_all : all.Nodup :=
  pairwise_all.imp fun {left right} ahead same => by
    rw [same] at ahead
    exact Nat.lt_irrefl _ ahead

theorem declared_eq_all : declared = all := by
  decide

end ToolKind

end ToolSelect
