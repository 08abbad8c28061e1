/-!
# Spans of code points

A character class is written as a list of closed spans of code points.
Membership is the only question asked of it.
-/

namespace ToolSelect.Text

abbrev CodeSpan := Nat × Nat

def inSpans (spans : List CodeSpan) (c : Char) : Bool :=
  spans.any fun span => span.1 ≤ c.toNat && c.toNat ≤ span.2

theorem inSpans_eq_true_iff (spans : List CodeSpan) (c : Char) :
    inSpans spans c = true ↔
      ∃ span ∈ spans, span.1 ≤ c.toNat ∧ c.toNat ≤ span.2 := by
  simp [inSpans]

end ToolSelect.Text
