import ToolSelect.CommandLine.Basic

/-!
# Texts about the command line

What is printed for words that ask for no command.  A text may depend on the
words, and show the configuration that the environment names, so that a run is
given its texts from outside.
-/

namespace ToolSelect

/-- The texts for words that ask for no command, by the configuration that the
environment names, the words, and the problem with them. -/
structure UsageTexts where
  text : Option String → List String → UsageProblem → String

namespace UsageTexts

def help (environment : Option String) : String :=
  "ntc - native tool chain selector\n\n" ++
    "Usage: ntc [OPTIONS] <COMMAND>\n\n" ++
    "Commands:\n" ++
    "  select      Select the tools for a target platform\n" ++
    "  strategies  List platform strategies, highest priority first\n" ++
    "  help        Print this message or the help of the given subcommand(s)" ++
    "\n\n" ++
    "Options:\n" ++
    "  -c, --config <FILE>    Tool chain configuration file " ++
    "(also via NTC_CONFIG) [env: NTC_CONFIG=" ++ environment.getD "" ++ "]\n" ++
    "  -p, --path <DIR>       Directory to search for tools, instead of PATH " ++
    "(repeatable)\n" ++
    "      --family <FAMILY>  Tool chain family: gcc or clang\n" ++
    "  -h, --help             Print help\n" ++
    "  -V, --version          Print version"

/-- The texts of a program of the version, without the details of its
commands. -/
def short (version : String) : UsageTexts where
  text environment _ problem :=
    match problem with
    | .helpWanted | .nothingGiven => help environment
    | .versionWanted => "ntc " ++ version
    | _ => problem.message

end UsageTexts

end ToolSelect
