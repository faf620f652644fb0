import PropertyLowering.Assembler.Slots
import PropertyLowering.Code.Chunk
import PropertyLowering.Code.Pool
import PropertyLowering.Error

/-!
Assembling of code: a chunk under construction, the shared constant pool, the slots for spilled
values and the current line.

Operands that refer to a constant or a slot take one byte where they fit and two otherwise. What
does not fit two bytes is an internal error, found before anything of the instruction is written.

Slots, lines and the indices of constants are natural numbers that stand for 32 bits. This takes it
that a pool has fewer than `2 ^ 32` constants, and that slots and lines are below this bound too.
-/

namespace PropertyLowering

structure Assembler where
  chunk : Chunk
  pool : Pool
  slots : Slots
  line : Nat

/-- An assembler over a pool, with its spilled values from the slot `base` on. -/
def Assembler.start (pool : Pool) (base : Nat) : Assembler :=
  ⟨.empty, pool, .startingAt base, 1⟩

/-- Emission of code. What was emitted before a failure stays. -/
abbrev Asm := ExceptT CompileError (StateM Assembler)

namespace Asm

def setLine (line : Nat) : Asm Unit :=
  modify ({ · with line })

/-- Writes an operation code and whatever bytes are to follow it. -/
def write (op : Opcode) (operands : List UInt8) : Asm Unit :=
  modify fun a => { a with chunk := a.chunk.write (op.byte :: operands) a.line }

def emit (i : Instr) : Asm Unit :=
  write i.opcode i.operands

/-- The index of a constant in the pool. -/
def indexOf (c : Constant) : Asm Nat :=
  modifyGet fun a =>
    let (index, pool) := a.pool.add c
    (index, { a with pool })

/-- A number as the wide operand of an operation code. -/
def wide (op : Opcode) (n : Nat) : Asm UInt16 :=
  if n < 65536 then
    return UInt16.ofNat n
  else
    throw (.internal s!"operand {n} of {op.name} exceeds the 16-bit operand range")

/-- An instruction whose operand is a number, in the narrow form where one byte holds it. -/
def narrowOrWide (narrow : UInt8 → Instr) (full : UInt16 → Instr) (n : Nat) : Asm Unit := do
  if n < 256 then
    emit (narrow (UInt8.ofNat n))
  else
    emit (full (← wide (full 0).opcode n))

/-- An instruction whose wide operand is the index of a constant. -/
def indexed (form : UInt16 → Instr) (c : Constant) : Asm Unit := do
  emit (form (← wide (form 0).opcode (← indexOf c)))

/-- Loads a constant of the pool. -/
def constant (c : Constant) : Asm Unit := do
  narrowOrWide .constant .constantWide (← indexOf c)

/-- Pushes a number; zero and one have instructions of their own. -/
def int (n : Int) : Asm Unit :=
  if n = 0 then emit .pushZero
  else if n = 1 then emit .pushOne
  else constant (.int n)

def string (s : String) : Asm Unit :=
  constant (.ofString s)

def null : Asm Unit :=
  emit .pushNull

def pop : Asm Unit :=
  emit .pop

def getLocal (slot : Nat) : Asm Unit :=
  narrowOrWide .getLocal .getLocalWide slot

def setLocal (slot : Nat) : Asm Unit :=
  narrowOrWide .setLocal .setLocalWide slot

/-- Loads a static field. -/
def getStatic (field : Ident) : Asm Unit :=
  indexed .getStatic (.ident field)

def call (method : Ident) (argc : UInt8) : Asm Unit :=
  indexed (.call · argc) (.ident method)

/-- Calls a method on the receiver beneath the arguments. -/
def callMethod (method : Ident) (argc : UInt8) : Asm Unit :=
  indexed (.callMethod · argc) (.ident method)

def callGeneric (method : Ident) (args : List Ident) (argc : UInt8) : Asm Unit :=
  indexed (.callGeneric · argc) (.genericMethod method args)

def callMethodGeneric (method : Ident) (args : List Ident) (argc : UInt8) : Asm Unit :=
  indexed (.callMethodGeneric · argc) (.genericMethod method args)

def acquire (type : Ident) : Asm Lease :=
  modifyGet fun a =>
    let (lease, slots) := a.slots.acquire type
    (lease, { a with slots })

def release (lease : Lease) : Asm Unit :=
  modify fun a => { a with slots := a.slots.release lease }

/-- Runs a body with a slot of a type, which is released whether the body fails or not. -/
def withSlot (type : Ident) (body : Nat → Asm α) : Asm α := do
  let lease ← acquire type
  let outcome ← ExceptT.lift (body lease.slot).run
  release lease
  MonadExcept.ofExcept outcome

end Asm

end PropertyLowering
