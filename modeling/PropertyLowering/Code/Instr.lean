import PropertyLowering.Code.Opcode

/-!
Instructions: operation codes with their operands, and how they are laid out in bytes.
-/

namespace PropertyLowering

/-- The two bytes of a wide operand, the high one first. -/
def bigEndian (w : UInt16) : List UInt8 :=
  [(w >>> 8).toUInt8, w.toUInt8]

def ofBigEndian (high low : UInt8) : UInt16 :=
  (high.toUInt16 <<< 8) ||| low.toUInt16

/-- An instruction. An `index` counts constants of the pool, a `slot` locals, and `argc` the
arguments of a call without its receiver. -/
inductive Instr where
  | constant (index : UInt8)
  | constantWide (index : UInt16)
  | pushNull
  | pushZero
  | pushOne
  | pop
  | getLocal (slot : UInt8)
  | setLocal (slot : UInt8)
  | getLocalWide (slot : UInt16)
  | setLocalWide (slot : UInt16)
  | getStatic (index : UInt16)
  | call (index : UInt16) (argc : UInt8)
  | callMethod (index : UInt16) (argc : UInt8)
  | callGeneric (index : UInt16) (argc : UInt8)
  | callMethodGeneric (index : UInt16) (argc : UInt8)
  deriving DecidableEq, Repr

namespace Instr

def opcode : Instr → Opcode
  | constant _ => .constant
  | constantWide _ => .constantWide
  | pushNull => .pushNull
  | pushZero => .pushZero
  | pushOne => .pushOne
  | pop => .pop
  | getLocal _ => .getLocal
  | setLocal _ => .setLocal
  | getLocalWide _ => .getLocalWide
  | setLocalWide _ => .setLocalWide
  | getStatic _ => .getStatic
  | call _ _ => .call
  | callMethod _ _ => .callMethod
  | callGeneric _ _ => .callGeneric
  | callMethodGeneric _ _ => .callMethodGeneric

def operands : Instr → List UInt8
  | constant b | getLocal b | setLocal b => [b]
  | constantWide w | getLocalWide w | setLocalWide w | getStatic w => bigEndian w
  | call w n | callMethod w n | callGeneric w n | callMethodGeneric w n => bigEndian w ++ [n]
  | pushNull | pushZero | pushOne | pop => []

def bytes (i : Instr) : List UInt8 :=
  i.opcode.byte :: i.operands

/-- An instruction has exactly the operands that its operation code announces. -/
@[simp] theorem length_operands (i : Instr) : i.operands.length = i.opcode.operandSize := by
  cases i <;> rfl

@[simp] theorem length_bytes (i : Instr) : i.bytes.length = i.opcode.operandSize + 1 := by
  simp [bytes]

end Instr

end PropertyLowering
