import ToolSelect.CommandLine.Word

/-!
# Reading a command line

The words are read in order, first those of the program and then those of the
command.  A value is looked at when the next option is reached, or at the end;
the words of the command come before the last value of the program.
-/

namespace ToolSelect

/-- What has been given on one side of the command's name. -/
structure Given where
  config : Option Path
  family : Option Family
  directories : List Path
  system : Option OperatingSystem
  architecture : Option Architecture
  platform : Option String
deriving DecidableEq, Repr

/-- An option that has been named, with its value if that has been reached. -/
structure Pending where
  setting : Setting
  value : Option String
deriving DecidableEq, Repr

namespace Given

def nothing : Given :=
  ⟨none, none, [], none, none, none⟩

def isNothing (given : Given) : Bool :=
  given == nothing

def isTaken (given : Given) : Setting → Bool
  | .config => given.config.isSome
  | .directory => false
  | .family => given.family.isSome
  | .system => given.system.isSome
  | .architecture => given.architecture.isSome

def set (given : Given) (setting : Setting) (value : String) :
    Except UsageProblem Given :=
  match setting with
  | .config =>
    if value.isEmpty then .error (.valueMissing .config)
    else .ok { given with config := some ⟨value⟩ }
  | .directory =>
    if value.isEmpty then .error (.valueMissing .directory)
    else .ok { given with directories := given.directories ++ [⟨value⟩] }
  | .family =>
    match Family.ofName? value with
    | some family => .ok { given with family := some family }
    | none =>
      .error (.valueRefused .family value (Family.unknownMessage value))
  | .system =>
    match OperatingSystem.ofName? value with
    | some system => .ok { given with system := some system }
    | none =>
      .error (.valueRefused .system value OperatingSystem.blankNameMessage)
  | .architecture =>
    .ok { given with architecture := some (.ofName value) }

/-- What has been given, with one more option.  It has to have a value, may not
be given twice, and is read last. -/
def settle (given : Given) : Option Pending → Except UsageProblem Given
  | none => .ok given
  | some ⟨setting, none⟩ => .error (.valueMissing setting)
  | some ⟨setting, some value⟩ =>
    if given.isTaken setting then .error (.repeated setting)
    else given.set setting value

def checkEnvironment (given : Given) (environment : Option String) :
    Except UsageProblem Unit :=
  match given.config, environment with
  | none, some value => discard (given.set .config value)
  | _, _ => .ok ()

end Given

/-- The state of reading one side of a command line. -/
structure Progress where
  given : Given
  pending : Option Pending
  /-- Whether all further words are plain ones. -/
  literal : Bool
deriving DecidableEq, Repr

namespace Progress

def start : Progress :=
  ⟨.nothing, none, false⟩

/-- Whether the next word is the value of the option before it, if it is a
plain one. -/
def isAwaiting (progress : Progress) : Bool :=
  !progress.literal && progress.pending.any (·.value.isNone)

def meetSetting (progress : Progress) (setting : Setting)
    (value : Option String) : Except UsageProblem Progress := do
  let given ← progress.given.settle progress.pending
  match value with
  | some value =>
    return ⟨← given.settle (some ⟨setting, some value⟩), none, false⟩
  | none => return ⟨given, some ⟨setting, none⟩, false⟩

def meetValue (progress : Progress) (value : String) : Progress :=
  { progress with
    pending := progress.pending.map fun pending =>
      { pending with value := some value } }

/-- The state after a plain word, which only one command has a use for. -/
def meetPlain (level : Level) (progress : Progress) (text : String) :
    Except UsageProblem Progress :=
  if level = .command .select ∧ progress.given.platform = none then do
    let given ← progress.given.settle progress.pending
    return ⟨{ given with platform := some text }, none, progress.literal⟩
  else
    match level with
    | .command _ => .error (.unknownWord text)
    | .program =>
      if progress.literal &&
          ((CommandName.ofText? text).isSome || text = "help") then
        .error (.unknownWord text)
      else
        .error (.unknownCommand text)

def meet (level : Level) (progress : Progress) (text : String) :
    Except UsageProblem Progress := do
  if progress.literal then
    progress.meetPlain level text
  else
    match level.word text with
    | .setting setting value => progress.meetSetting setting value
    | .help =>
      discard (progress.given.settle progress.pending)
      throw .helpWanted
    | .version =>
      discard (progress.given.settle progress.pending)
      throw .versionWanted
    | .valueUnwanted => throw (.valueUnwanted text)
    | .unknown => throw (.unknownWord text)
    | .endOfOptions => return { progress with literal := true }
    | .plain =>
      if progress.isAwaiting then return progress.meetValue text
      else progress.meetPlain level text

end Progress

namespace CommandLine

def readCommand (name : CommandName) (environment : Option String)
    (words : List String) : Except UsageProblem Given := do
  let progress ← words.foldlM (Progress.meet (.command name)) .start
  let given ← progress.given.settle progress.pending
  given.checkEnvironment environment
  return given

/-- The answer to the words behind a request for help: nothing but the name of
one command may follow. -/
def helpFor : List String → UsageProblem
  | [] => .helpWanted
  | word :: rest =>
    if (CommandName.ofText? word).isSome ∨ word = "help" then
      match rest with
      | [] => .helpWanted
      | other :: _ => .unknownCommand other
    else
      .unknownCommand word

def commandOf (name : CommandName) (given : Given) : Command :=
  match name with
  | .select =>
    .select (given.platform.getD "current") given.system
      (given.architecture.getD (.ofName "default"))
  | .strategies => .strategies

/-- The command line of what has been given on its two sides.  Of two values
the one behind the command's name counts, and the environment comes last. -/
def combine (environment : Option String) (name : CommandName)
    (before behind : Given) : CommandLine where
  config := behind.config.or (before.config.or (environment.map Path.mk))
  family := behind.family.or before.family
  directories := before.directories ++ behind.directories
  command := commandOf name behind

/-- Reads the words of the program, and behind the name of a command those of
the command. -/
def readProgram (environment : Option String) (progress : Progress) :
    List String → Except UsageProblem CommandLine
  | [] => do
    let given ← progress.given.settle progress.pending
    given.checkEnvironment environment
    throw (if given.isNothing && environment.isNone then .nothingGiven
      else .commandMissing)
  | word :: rest =>
    if !progress.literal && !progress.isAwaiting && word = "help" then
      .error (helpFor rest)
    else
      match
        if progress.literal || progress.isAwaiting then none
        else CommandName.ofText? word with
      | some name => do
        let behind ← readCommand name environment rest
        let before ← progress.given.settle progress.pending
        before.checkEnvironment environment
        return combine environment name before behind
      | none => do
        let progress ← progress.meet .program word
        readProgram environment progress rest

/-- What the words ask for, given the configuration that the environment
names. -/
def parse (environment : Option String) (words : List String) :
    Except UsageProblem CommandLine :=
  readProgram environment .start words

end CommandLine

end ToolSelect
