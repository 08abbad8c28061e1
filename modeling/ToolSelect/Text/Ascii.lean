/-!
# ASCII letters

Comparison that tells no ASCII letter from its other case, and every other
character from all but itself.
-/

namespace ToolSelect.Text

def asciiLower (text : List Char) : List Char :=
  text.map Char.toLower

/-- Whether two texts differ at most in the case of ASCII letters. -/
def sameAsciiFold (left right : List Char) : Bool :=
  asciiLower left == asciiLower right

theorem sameAsciiFold_eq_true_iff (left right : List Char) :
    sameAsciiFold left right = true ↔ asciiLower left = asciiLower right := by
  simp [sameAsciiFold]

end ToolSelect.Text
