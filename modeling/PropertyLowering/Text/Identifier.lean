import PropertyLowering.Text.Blank
import PropertyLowering.Text.Alphabetic
import PropertyLowering.Text.Numeric

/-!
Identifier characters. An identifier starts with an alphabetic character or `_` and goes on
with alphabetic or numeric characters or `_`.
-/

namespace PropertyLowering.Text

def isAlphabetic (c : Char) : Bool :=
  inRanges alphabeticRanges c

def isNumeric (c : Char) : Bool :=
  inRanges numericRanges c

def isIdentStart (c : Char) : Bool :=
  c == '_' || isAlphabetic c

def isIdentRest (c : Char) : Bool :=
  c == '_' || isAlphabetic c || isNumeric c

theorem isIdentRest_of_isIdentStart {c : Char} (h : isIdentStart c = true) :
    isIdentRest c = true := by
  simp only [isIdentStart, isIdentRest, Bool.or_eq_true] at h ⊢
  exact .inl h

/-- Punctuation that separates the pieces of a reference is never part of a piece. -/
theorem isIdentRest_punctuation :
    isIdentRest ':' = false ∧ isIdentRest '.' = false ∧
      isIdentRest '(' = false ∧ isIdentRest ')' = false := by
  decide +kernel

end PropertyLowering.Text
