import Mathlib.Tactic.Lemma
import PropertyLowering.Code.Chunk

/-!
How instructions lie in code: one after the other, each at the offset where the one before it
ends.

The scan of a chunk relies on the operand sizes that the operation codes announce, and reading an
instruction back relies on the byte and word reads of the chunk. Both find what was laid out.
-/

namespace PropertyLowering

lemma ofBigEndian_bigEndian (w : UInt16) :
    ofBigEndian (w >>> 8).toUInt8 w.toUInt8 = w := by
  have hw : w.toNat < 65536 := w.toNat_lt
  have hhigh : w.toNat / 256 < 256 := by omega
  have hlow : w.toNat % 256 < 2 ^ 8 := by omega
  have hshift : w.toNat / 256 * 256 % 65536 = w.toNat / 256 * 256 := by omega
  have hor : (ofBigEndian (w >>> 8).toUInt8 w.toUInt8).toNat =
      w.toNat / 256 * 2 ^ 8 ||| w.toNat % 256 := by
    simp [ofBigEndian, Nat.shiftRight_eq_div_pow, Nat.shiftLeft_eq, Nat.mod_eq_of_lt hhigh, hshift]
  have hadd := Nat.shiftLeft_add_eq_or_of_lt hlow (w.toNat / 256)
  rw [Nat.shiftLeft_eq] at hadd
  apply UInt16.toNat_inj.mp
  rw [hor, ← hadd]
  omega

namespace Instr

def code (is : List Instr) : List UInt8 := is.flatMap bytes

/-- Instructions with the offsets at which they stand, the first of them at `n`. -/
def layout : Nat → List Instr → List (Nat × Instr)
  | _, [] => []
  | n, i :: is => (n, i) :: layout (n + i.bytes.length) is

@[simp] lemma code_nil : code [] = [] := rfl

@[simp] lemma code_cons (i : Instr) (is : List Instr) : code (i :: is) = i.bytes ++ code is := rfl

@[simp] lemma code_append (is js : List Instr) : code (is ++ js) = code is ++ code js := by
  simp [code]

@[simp] lemma length_layout (n : Nat) (is : List Instr) : (layout n is).length = is.length := by
  induction is generalizing n with
  | nil => rfl
  | cons i is ih => simp [layout, ih]

@[simp] lemma map_snd_layout (n : Nat) (is : List Instr) :
    (layout n is).map (·.2) = is := by
  induction is generalizing n with
  | nil => rfl
  | cons i is ih => simp [layout, ih]

lemma layout_append (n : Nat) (is js : List Instr) :
    layout n (is ++ js) = layout n is ++ layout (n + (code is).length) js := by
  induction is generalizing n with
  | nil => rfl
  | cons i is ih => simp [layout, ih, Nat.add_assoc]

end Instr

namespace Chunk

open Instr

lemma byteAt?_eq (c : Chunk) (n : Nat) : c.byteAt? n = c.code[n]? := by
  simp [byteAt?, code]

lemma length_code (c : Chunk) : c.code.length = c.size := by
  simp [code, size]

/-- The instruction at an offset, its operands read back from the bytes behind its operation
code. -/
def instrAt? (c : Chunk) (n : Nat) : Option Instr := do
  match ← c.opcodeAt? n with
  | .constant => return .constant (← c.byteAt? (n + 1))
  | .constantWide => return .constantWide (← c.wordAt? (n + 1))
  | .pushNull => return .pushNull
  | .pushZero => return .pushZero
  | .pushOne => return .pushOne
  | .pop => return .pop
  | .getLocal => return .getLocal (← c.byteAt? (n + 1))
  | .setLocal => return .setLocal (← c.byteAt? (n + 1))
  | .getLocalWide => return .getLocalWide (← c.wordAt? (n + 1))
  | .setLocalWide => return .setLocalWide (← c.wordAt? (n + 1))
  | .getStatic => return .getStatic (← c.wordAt? (n + 1))
  | .call => return .call (← c.wordAt? (n + 1)) (← c.byteAt? (n + 3))
  | .callMethod => return .callMethod (← c.wordAt? (n + 1)) (← c.byteAt? (n + 3))
  | .callGeneric => return .callGeneric (← c.wordAt? (n + 1)) (← c.byteAt? (n + 3))
  | .callMethodGeneric => return .callMethodGeneric (← c.wordAt? (n + 1)) (← c.byteAt? (n + 3))

lemma byteAt?_of_code {c : Chunk} {before after : List UInt8} (h : c.code = before ++ after)
    (k : Nat) : c.byteAt? (before.length + k) = after[k]? := by
  rw [byteAt?_eq, h, List.getElem?_append_right (by omega), Nat.add_sub_cancel_left]

lemma opcodeAt?_of_code {c : Chunk} {before after : List UInt8} {i : Instr}
    (h : c.code = before ++ (i.bytes ++ after)) : c.opcodeAt? before.length = some i.opcode := by
  have hbyte : c.byteAt? before.length = some i.opcode.byte := byteAt?_of_code h 0
  rw [opcodeAt?, hbyte, Option.bind_some, Opcode.ofByte?_byte]

lemma wordAt?_of_code {c : Chunk} {before after : List UInt8} {op : UInt8} {w : UInt16}
    (h : c.code = before ++ (op :: (bigEndian w ++ after))) :
    c.wordAt? (before.length + 1) = some w := by
  have hhigh : c.byteAt? (before.length + 1) = some (w >>> 8).toUInt8 := byteAt?_of_code h 1
  have hlow : c.byteAt? (before.length + 1 + 1) = some w.toUInt8 := byteAt?_of_code h 2
  simp only [wordAt?, hhigh, hlow, ofBigEndian_bigEndian]

lemma instrAt?_of_code {c : Chunk} {before after : List UInt8} {i : Instr}
    (h : c.code = before ++ (i.bytes ++ after)) : c.instrAt? before.length = some i := by
  have hop := opcodeAt?_of_code h
  unfold instrAt?
  rw [hop]
  cases i with
  | pushNull | pushZero | pushOne | pop => rfl
  | constant b | getLocal b | setLocal b =>
    have hbyte : c.byteAt? (before.length + 1) = some b := byteAt?_of_code h 1
    simp only [opcode, hbyte]
    rfl
  | constantWide w | getLocalWide w | setLocalWide w | getStatic w =>
    have hword : c.wordAt? (before.length + 1) = some w := wordAt?_of_code h
    simp only [opcode, hword]
    rfl
  | call w argc | callMethod w argc | callGeneric w argc | callMethodGeneric w argc =>
    have hword : c.wordAt? (before.length + 1) = some w := wordAt?_of_code h
    have hbyte : c.byteAt? (before.length + 3) = some argc := byteAt?_of_code h 3
    simp only [opcode, hword, hbyte]
    rfl

lemma scan_operands (n : Nat) (operands rest : List UInt8) :
    scan n operands.length (operands ++ rest) = scan (n + operands.length) 0 rest := by
  induction operands generalizing n with
  | nil => rfl
  | cons b operands ih =>
    rw [List.length_cons, List.cons_append, scan, ih]
    congr 1
    omega

lemma scan_bytes (n : Nat) (i : Instr) (rest : List UInt8) :
    scan n 0 (i.bytes ++ rest) = (n, i.opcode) :: scan (n + i.bytes.length) 0 rest := by
  rw [bytes, List.cons_append, scan, Opcode.ofByte?_byte]
  simp only
  rw [← length_operands, scan_operands]
  congr 2
  simp only [List.length_cons]
  omega

lemma scan_code (n : Nat) (is : List Instr) :
    scan n 0 (Instr.code is) = (layout n is).map fun x => (x.1, x.2.opcode) := by
  induction is generalizing n with
  | nil => rfl
  | cons i is ih =>
    rw [code_cons, scan_bytes, ih]
    rfl

lemma instrAt?_of_mem_layout {c : Chunk} {before after : List UInt8} {is : List Instr}
    (h : c.code = before ++ (Instr.code is ++ after)) {x : Nat × Instr}
    (hx : x ∈ layout before.length is) : c.instrAt? x.1 = some x.2 := by
  induction is generalizing before with
  | nil => simp [layout] at hx
  | cons i is ih =>
    rw [code_cons, List.append_assoc] at h
    rcases List.mem_cons.mp hx with rfl | hx
    · exact instrAt?_of_code h
    · have hcode : c.code = (before ++ i.bytes) ++ (Instr.code is ++ after) := by
        rw [h, List.append_assoc]
      exact ih hcode (by simpa using hx)

end Chunk

end PropertyLowering
