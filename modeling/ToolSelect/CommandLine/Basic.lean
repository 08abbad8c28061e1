import ToolSelect.Path
import ToolSelect.Platform.Basic
import ToolSelect.Text.Terminal
import ToolSelect.Tool.Family

/-!
# Command lines

What a user asks for on the command line, and the ways to ask wrongly.  There
are two commands; the options of the program may stand on either side of the
command's name.
-/

namespace ToolSelect

inductive CommandName where
  | select
  | strategies
deriving DecidableEq, Repr

namespace CommandName

def ofText? (text : String) : Option CommandName :=
  [("select", CommandName.select), ("strategies", .strategies)].lookup text

end CommandName

inductive Command where
  | select (platform : String) (system : Option OperatingSystem)
      (architecture : Architecture)
  | strategies
deriving DecidableEq, Repr

structure CommandLine where
  config : Option Path
  family : Option Family
  directories : List Path
  command : Command
deriving DecidableEq, Repr

inductive Setting where
  | config
  | directory
  | family
  | system
  | architecture
deriving DecidableEq, Repr

def Setting.display : Setting → String
  | .config => "--config <FILE>"
  | .directory => "--path <DIR>"
  | .family => "--family <FAMILY>"
  | .system => "--os <OS>"
  | .architecture => "--arch <ARCH>"

/-- Why a command line asks for no command. -/
inductive UsageProblem where
  | helpWanted
  | versionWanted
  | nothingGiven
  | commandMissing
  | unknownCommand (word : String)
  | unknownWord (word : String)
  | valueMissing (setting : Setting)
  | valueUnwanted (word : String)
  | repeated (setting : Setting)
  | valueRefused (setting : Setting) (value reason : String)
deriving DecidableEq, Repr

def helpHint : String :=
  "\n\nFor more information, try '" ++ Text.Style.bold.apply "--help" ++ "'."

def errorHead : String :=
  Text.Style.bold.apply "error:" ++ " "

/-- The problem in the words and styles of a terminal.  A request for help or
for the version is none. -/
def UsageProblem.styledMessage : UsageProblem → String
  | .helpWanted | .versionWanted | .nothingGiven => ""
  | .commandMissing =>
    errorHead ++ "'" ++ Text.Style.bold.apply "ntc" ++
      "' requires a subcommand but one was not provided" ++ helpHint
  | .unknownCommand word =>
    errorHead ++ "unrecognized subcommand '" ++ Text.Style.yellow.apply word ++
      "'" ++ helpHint
  | .unknownWord word =>
    errorHead ++ "unexpected argument '" ++ Text.Style.yellow.apply word ++
      "' found" ++ helpHint
  | .valueMissing setting =>
    errorHead ++ "a value is required for '" ++
      Text.Style.bold.apply setting.display ++ "' but none was supplied" ++
      helpHint
  | .valueUnwanted word =>
    errorHead ++ "unexpected value in '" ++ Text.Style.yellow.apply word ++
      "' found; no more were expected" ++ helpHint
  | .repeated setting =>
    errorHead ++ "the argument '" ++ Text.Style.bold.apply setting.display ++
      "' cannot be used multiple times" ++ helpHint
  | .valueRefused setting value reason =>
    errorHead ++ "invalid value '" ++ Text.Style.yellow.apply value ++
      "' for '" ++ Text.Style.bold.apply setting.display ++ "': " ++ reason ++
      helpHint

/-- The problem in words, without styles.  Control sequences in a refused value
are not shown either. -/
def UsageProblem.message (problem : UsageProblem) : String :=
  Text.visible problem.styledMessage

end ToolSelect
