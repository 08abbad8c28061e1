import ToolSelect.Json.Shape
import ToolSelect.Json.Value
import ToolSelect.Tool.Family

/-!
# Tool kinds and families in JSON

Both are chosen by their identifiers, whose case matters here.
-/

namespace ToolSelect

open Json

def ToolKind.reader : Reader ToolKind :=
  Reader.choice (ToolKind.all.map fun kind => (kind.id, kind))

def ToolKind.toJson (kind : ToolKind) : Value :=
  .text kind.id

def Family.reader : Reader Family :=
  Reader.choice ([Family.gcc, Family.clang].map fun family =>
    (family.id, family))

def Family.toJson (family : Family) : Value :=
  .text family.id

end ToolSelect
