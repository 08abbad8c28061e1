import ToolSelect.Text.Blank
import ToolSelect.Text.LowerCase

/-!
# Operating systems

The operating systems that are told apart, and the names they are known by.
Blanks around a name and the case of its letters do not matter.
-/

namespace ToolSelect

/-- A family of operating systems; any other one keeps its name. -/
inductive OperatingSystem where
  | windows
  | macOs
  | linux
  | freeBsd
  | solaris
  | other (name : String)
deriving DecidableEq, Repr

namespace OperatingSystem

def current : OperatingSystem :=
  .linux

def name : OperatingSystem → String
  | .windows => "windows"
  | .macOs => "macos"
  | .linux => "linux"
  | .freeBsd => "freebsd"
  | .solaris => "solaris"
  | .other name => name

def aliases : List (String × OperatingSystem) :=
  [("macos", .macOs), ("mac os x", .macOs), ("osx", .macOs),
    ("darwin", .macOs), ("linux", .linux), ("freebsd", .freeBsd),
    ("solaris", .solaris), ("sunos", .solaris)]

def ofLowerName (name : List Char) : OperatingSystem :=
  match aliases.lookup (String.ofList name) with
  | some system => system
  | none =>
    if ['w', 'i', 'n'].isPrefixOf name then .windows
    else .other (String.ofList name)

def ofName? (text : String) : Option OperatingSystem :=
  let name := Text.lower (Text.trim text.toList)
  if name.isEmpty then none else some (ofLowerName name)

def blankNameMessage : String :=
  "Operating system name must not be empty."

def isWindows (system : OperatingSystem) : Bool :=
  system == .windows

def isMacOs (system : OperatingSystem) : Bool :=
  system == .macOs

end OperatingSystem

end ToolSelect
