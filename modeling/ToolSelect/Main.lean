import ToolSelect.Program.Run

/-!
# The command

The program on the machine it runs on.
-/

namespace ToolSelect

def failureReason : IO.Error → String
  | .noFileOrDirectory _ code details
  | .inappropriateType _ code details
  | .permissionDenied _ code details
  | .invalidArgument _ code details
  | .resourceExhausted _ code details
  | .otherError code details =>
    details ++ " (os error " ++ toString code ++ ")"
  | error => toString error

def thisMachine : Machine IO where
  variableValue name := IO.getEnv name
  readText path := do
    try
      return .ok (← IO.FS.readFile path.text)
    catch error =>
      return .error (.ofFile path (failureReason error))
  isPresent path := do
    try
      (← IO.FS.realPath path.text).pathExists
    catch _ =>
      return false
  isDirectory path := do
    try
      (← IO.FS.realPath path.text).isDir
    catch _ =>
      return false
  configDirectory := do
    return configDirectoryOf (← IO.getEnv "XDG_CONFIG_HOME")
      (← IO.getEnv "HOME")

end ToolSelect

def main (words : List String) : IO UInt32 := do
  let outcome ←
    ToolSelect.Program.run ToolSelect.thisMachine .current words
  IO.print outcome.output
  IO.eprint outcome.complaints
  return outcome.exitCode.toUInt32
