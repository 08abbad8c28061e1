import ToolSelect.Text.Blank
import ToolSelect.Text.LowerCase

/-!
# Architectures

The processor architectures that are told apart, and the names they are known
by.  Blanks around a name and the case of its letters do not matter, and an
empty name leaves the choice to the tool chain.
-/

namespace ToolSelect

/-- A processor architecture; any other one keeps its name. -/
inductive Architecture where
  | toolChainDefault
  | i386
  | amd64
  | other (name : String)
deriving DecidableEq, Repr

namespace Architecture

def name : Architecture → String
  | .toolChainDefault => "default"
  | .i386 => "x86"
  | .amd64 => "x86-64"
  | .other name => name

/-- The lower-case names of the architectures that are told apart. -/
def aliases : List (String × Architecture) :=
  [("", .toolChainDefault), ("default", .toolChainDefault), ("x86", .i386),
    ("i386", .i386), ("ia-32", .i386), ("i686", .i386), ("x86-64", .amd64),
    ("x86_64", .amd64), ("amd64", .amd64), ("x64", .amd64)]

def ofLowerName (name : List Char) : Architecture :=
  match aliases.lookup (String.ofList name) with
  | some architecture => architecture
  | none => .other (String.ofList name)

def ofName (text : String) : Architecture :=
  ofLowerName (Text.lower (Text.trim text.toList))

end Architecture

end ToolSelect
