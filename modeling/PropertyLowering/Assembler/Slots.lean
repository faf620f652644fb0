import PropertyLowering.Ident
import Std.Data.HashMap

/-!
Local slots for short-lived values. A slot is acquired for a type and released afterwards; a
released slot serves the next request for its type, the one released last first.

Slots are natural numbers, where a machine counts them in 32 bits. The two agree as long as the base
and the slots handed out above it stay below `2 ^ 32`.
-/

namespace PropertyLowering

/-- A slot that is held for a value of a type. -/
structure Lease where
  slot : Nat
  type : Ident
  deriving DecidableEq, Repr

structure Slots where
  /-- The first slot of the pool. -/
  base : Nat
  /-- The first slot that was never handed out. -/
  next : Nat
  /-- Released slots by type, the last one in front. -/
  free : Std.HashMap Ident (List Nat)
  /-- The number of slots that are held. -/
  held : Nat

namespace Slots

def startingAt (base : Nat) : Slots := ⟨base, base, ∅, 0⟩

def freeOf (s : Slots) (type : Ident) : List Nat := s.free.getD type []

def acquire (s : Slots) (type : Ident) : Lease × Slots :=
  match s.freeOf type with
  | slot :: rest => (⟨slot, type⟩, { s with free := s.free.insert type rest, held := s.held + 1 })
  | [] => (⟨s.next, type⟩, { s with next := s.next + 1, held := s.held + 1 })

def release (s : Slots) (l : Lease) : Slots :=
  { s with free := s.free.insert l.type (l.slot :: s.freeOf l.type), held := s.held - 1 }

/-- The number of distinct slots handed out so far. -/
def highWater (s : Slots) : Nat := s.next - s.base

end Slots

end PropertyLowering
