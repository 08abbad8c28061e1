import ToolSelect.CommandLine.Basic

/-!
# Words of a command line

What one word asks for.  Long options take their value behind an equals sign or
from the next word; short ones also right behind their letter.
-/

namespace ToolSelect

/-- The part of a command line that a word stands in: before the command's name
or behind it. -/
inductive Level where
  | program
  | command (name : CommandName)
deriving DecidableEq, Repr

inductive Word where
  | setting (setting : Setting) (value : Option String)
  | help
  | version
  | valueUnwanted
  | unknown
  | endOfOptions
  | plain
deriving DecidableEq, Repr

namespace Level

def accepts (level : Level) : Setting → Bool
  | .config | .directory | .family => true
  | .system | .architecture => level == .command .select

def longSetting? (level : Level) (name : String) : Option Setting :=
  ([("config", Setting.config), ("path", .directory), ("family", .family),
    ("os", .system), ("arch", .architecture)].lookup name).filter level.accepts

def shortSetting? (letter : Char) : Option Setting :=
  [('c', Setting.config), ('p', .directory)].lookup letter

def longWord (level : Level) (text : List Char) : Word :=
  let name := String.ofList (text.takeWhile (· != '='))
  let value :=
    match text.dropWhile (· != '=') with
    | _ :: value => some (String.ofList value)
    | [] => none
  match level.longSetting? name with
  | some setting => .setting setting value
  | none =>
    let flag : Word :=
      if name = "help" then .help
      else if name = "version" ∧ level = .program then .version
      else .unknown
    if value.isSome && flag != .unknown then .valueUnwanted else flag

/-- What the letters behind one dash ask for.  The first letter decides. -/
def shortWord (level : Level) : List Char → Word
  | [] => .plain
  | letter :: rest =>
    match shortSetting? letter, rest with
    | some setting, [] => .setting setting none
    | some setting, '=' :: value => .setting setting (some (String.ofList value))
    | some setting, value => .setting setting (some (String.ofList value))
    | none, _ =>
      if letter = 'h' then .help
      else if letter = 'V' ∧ level = .program then .version
      else .unknown

def word (level : Level) (text : String) : Word :=
  match text.toList with
  | ['-', '-'] => .endOfOptions
  | '-' :: '-' :: rest => level.longWord rest
  | '-' :: rest => level.shortWord rest
  | _ => .plain

end Level

end ToolSelect
