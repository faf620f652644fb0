/-!
Places in a markup document.
-/

namespace PropertyLowering

/-- Lines and columns count from one; the length is that of the text in bytes, zero when unknown. -/
structure Span where
  line : Nat
  col : Nat
  length : Nat
  deriving DecidableEq, Repr, Inhabited

namespace Span

/-- The span of something without a place. -/
def unknown : Span := ⟨0, 0, 0⟩

def point (line col : Nat) : Span := ⟨line, col, 0⟩

def isUnknown (s : Span) : Bool :=
  s.line == 0

/-- The part that starts `offset` columns further on. -/
def narrow (s : Span) (offset length : Nat) : Span :=
  ⟨s.line, s.col + offset, length⟩

def text (s : Span) : String :=
  toString s.line ++ ":" ++ toString s.col

end Span

end PropertyLowering
