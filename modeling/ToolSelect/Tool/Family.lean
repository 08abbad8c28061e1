import ToolSelect.Text.LowerCase
import ToolSelect.Tool.Kind

/-!
# Families of tool chains

The compiler families whose tools take the same arguments, with the names of
their executables.
-/

namespace ToolSelect

inductive Family where
  | gcc
  | clang
deriving DecidableEq, Repr

namespace Family

def standard : Family :=
  .gcc

def id : Family → String
  | .gcc => "gcc"
  | .clang => "clang"

def displayName : Family → String
  | .gcc => "GNU GCC"
  | .clang => "Clang"

/-- The executable of a kind of tool when nothing else is said. -/
def defaultExecutable : Family → ToolKind → String
  | .gcc, .cCompiler | .gcc, .objcCompiler => "gcc"
  | .gcc, .cppCompiler | .gcc, .objcppCompiler | .gcc, .linker => "g++"
  | .clang, .cCompiler | .clang, .objcCompiler => "clang"
  | .clang, .cppCompiler | .clang, .objcppCompiler | .clang, .linker =>
    "clang++"
  | _, .assembler => "as"
  | _, .staticLibArchiver => "ar"

def canUseCommandFile : Family → Bool
  | .gcc | .clang => true

def unknownMessage (name : String) : String :=
  "Unknown tool chain family: " ++ name ++ ". Expected gcc or clang."

/-- The family with this identifier, in any case of its letters. -/
def ofName? (text : String) : Option Family :=
  [Family.gcc, Family.clang].find? fun family =>
    family.id.toList == Text.lower text.toList

end Family

end ToolSelect
