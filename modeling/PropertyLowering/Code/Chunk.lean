import PropertyLowering.Code.Instr

/-!
Chunks of code. Every byte carries the line of the document that it was written for.
-/

namespace PropertyLowering

structure Cell where
  byte : UInt8
  line : Nat
  deriving DecidableEq, Repr, Inhabited

structure Chunk where
  cells : Array Cell
  deriving DecidableEq, Repr

namespace Chunk

def empty : Chunk := ⟨#[]⟩

def size (c : Chunk) : Nat := c.cells.size

def isEmpty (c : Chunk) : Bool := c.cells.isEmpty

def code (c : Chunk) : List UInt8 := c.cells.toList.map (·.byte)

def lines (c : Chunk) : List Nat := c.cells.toList.map (·.line)

def write (c : Chunk) (bytes : List UInt8) (line : Nat) : Chunk :=
  ⟨bytes.foldl (fun cells b => cells.push ⟨b, line⟩) c.cells⟩

def byteAt? (c : Chunk) (offset : Nat) : Option UInt8 :=
  c.cells[offset]?.map (·.byte)

def lineAt? (c : Chunk) (offset : Nat) : Option Nat :=
  c.cells[offset]?.map (·.line)

/-- The wide operand whose high byte is at the offset. -/
def wordAt? (c : Chunk) (offset : Nat) : Option UInt16 :=
  match c.byteAt? offset, c.byteAt? (offset + 1) with
  | some high, some low => some (ofBigEndian high low)
  | _, _ => none

def opcodeAt? (c : Chunk) (offset : Nat) : Option Opcode :=
  (c.byteAt? offset).bind Opcode.ofByte?

/-- Operation codes with their offsets, for code that starts at `offset` with `skip` operand bytes.
A byte that is no operation code is passed over, and operands cut off by the end do not matter. -/
def scan : Nat → Nat → List UInt8 → List (Nat × Opcode)
  | _, _, [] => []
  | offset, skip + 1, _ :: rest => scan (offset + 1) skip rest
  | offset, 0, b :: rest =>
    match Opcode.ofByte? b with
    | some op => (offset, op) :: scan (offset + 1) op.operandSize rest
    | none => scan (offset + 1) 0 rest

/-- The operation codes of the chunk with their offsets. -/
def instructions (c : Chunk) : List (Nat × Opcode) :=
  scan 0 0 c.code

def opcodes (c : Chunk) : List Opcode :=
  c.instructions.map (·.2)

/-- What is still awaited after one more operation code. -/
def await : List Opcode → Opcode → List Opcode
  | [], _ => []
  | e :: rest, op => if e = op then rest else e :: rest

/-- The chunk has the given operation codes and no others. -/
def hasExactly (c : Chunk) (expected : List Opcode) : Bool :=
  c.opcodes == expected

/-- The chunk has the given operation codes in their order, possibly with others between. -/
def hasInOrder (c : Chunk) (expected : List Opcode) : Bool :=
  (c.opcodes.foldl await expected).isEmpty

theorem toList_cells_write (c : Chunk) (bytes : List UInt8) (line : Nat) :
    (c.write bytes line).cells.toList = c.cells.toList ++ bytes.map (⟨·, line⟩) := by
  simp [write]

@[simp] theorem code_write (c : Chunk) (bytes : List UInt8) (line : Nat) :
    (c.write bytes line).code = c.code ++ bytes := by
  simp [code, toList_cells_write, Function.comp_def]

@[simp] theorem lines_write (c : Chunk) (bytes : List UInt8) (line : Nat) :
    (c.write bytes line).lines = c.lines ++ List.replicate bytes.length line := by
  simp [lines, toList_cells_write, Function.comp_def, List.map_const']

end Chunk

end PropertyLowering
