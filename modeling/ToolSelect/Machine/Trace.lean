import ToolSelect.Machine.Basic

/-!
# Traced machines

A machine that writes down every question it is asked, in order.
-/

namespace ToolSelect

inductive MachineCall where
  | variableValue (name : String)
  | readText (path : Path)
  | isPresent (path : Path)
  | isDirectory (path : Path)
  | configDirectory
deriving DecidableEq, Repr

namespace Machine

def record {Call α : Type} (call : Call) (answer : α) :
    StateM (List Call) α := do
  modify (· ++ [call])
  return answer

def traced (machine : Machine Id) : Machine (StateM (List MachineCall)) where
  variableValue name := record (.variableValue name) (machine.variableValue name)
  readText path := record (.readText path) (machine.readText path)
  isPresent path := record (.isPresent path) (machine.isPresent path)
  isDirectory path := record (.isDirectory path) (machine.isDirectory path)
  configDirectory := record .configDirectory machine.configDirectory

end Machine

end ToolSelect
