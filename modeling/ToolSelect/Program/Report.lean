import ToolSelect.Text.Fields

/-!
# Reports of errors

An error is reported with the causes behind it.  Every line of a cause is
indented, and several causes are numbered.
-/

namespace ToolSelect.Report

def linesOf (text : String) : List String :=
  (Text.fields '\n' text.toList).map String.ofList

def causeText (mark indent : String) (cause : String) : String :=
  mark ++ ("\n" ++ indent).intercalate (linesOf cause)

def causeMark (number : Nat) : String :=
  let digits := toString number
  String.ofList (List.replicate (5 - digits.length) ' ') ++ digits ++ ": "

def causesText : List String → String
  | [] => ""
  | [cause] => "\n\nCaused by:\n" ++ causeText "    " "    " cause
  | causes =>
    "\n\nCaused by:" ++
      String.join (causes.zipIdx.map fun (cause, number) =>
        "\n" ++ causeText (causeMark number) "       " cause)

def errorText : List String → String
  | [] => "Error: "
  | cause :: causes => "Error: " ++ cause ++ causesText causes

end ToolSelect.Report
