import PropertyLowering.Assignment.Call
import PropertyLowering.Reference.Parser

/-!
The compiler of properties: a catalog, the framework found in it, and the first local slot that
spilled values may use.
-/

namespace PropertyLowering

structure Compiler extends Context where
  slotBase : Nat

namespace Compiler

/-- The last slot that an instruction can address. -/
def lastSlot : Nat := 65535

def make (catalog : Catalog) (names : FrameworkNames) (slotBase : Nat) :
    Except CompileError Compiler := do
  if lastSlot < slotBase then
    throw (.internal
      s!"local slot base {slotBase} is past the last addressable slot {lastSlot}")
  let framework ← Framework.find catalog names
  return { catalog, framework, slotBase }

/-- An assembler over a pool whose spilled values start at the compiler's first slot. -/
def assembler (c : Compiler) (pool : Pool) : Assembler := .start pool c.slotBase

/-- Parses and resolves a written reference. A name without owner is looked up on `hint`. -/
def reference (c : Compiler) (hint : Ident) (raw : String) (span : Span) :
    Except CompileError PropertyNode := do
  let r ← Reference.parse raw span
  let d ← c.resolve hint r span
  return .ofDescriptor c.toContext d span

/-- Resolves the target of an assignment, which a class cannot be. -/
def target (c : Compiler) (hint : Ident) (raw : String) (span : Span) :
    Except CompileError PropertyNode :=
  match c.reference hint raw span with
  | .error (.unresolvedProperty _ name span) => .error (.propertyNotFound name span)
  | .error e => .error e
  | .ok n =>
    match n.descriptor with
    | .selector className =>
      .error (.typeMismatch s!"class selector '{className}' is read-only" span)
    | _ => .ok n

end Compiler

end PropertyLowering
