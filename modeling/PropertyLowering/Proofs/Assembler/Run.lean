import Mathlib.Data.List.Forall2
import PropertyLowering.Proofs.Assembler.Operation

/-!
Runs of operations. An operation that fails does not end the run, so code is what the successful
ones wrote, in their order.

Main statement: the scan of the finished chunk finds one instruction for each operation that
emitted, and the instruction read back there asks for the slot, the argument count and the constant
of that operation. Its bytes are on the line that was set last before it.
-/

namespace PropertyLowering.Operation

open Asm

/-- The assembler after operations, the failing ones included. -/
def runAll (a : Assembler) (ops : List Operation) : Assembler :=
  ops.foldl (fun a op => (outcome op.perform a).2) a

/-- The line that an operation sets for what comes after it. -/
def line? : Operation → Option Nat
  | setLine line => some line
  | _ => none

/-- The line after operations is the one set last, or the first of the document. -/
def lineAfter (ops : List Operation) : Nat := (ops.filterMap line?).getLastD 1

/-- An operation that emitted, where it did and for which line. -/
structure Emission where
  op : Operation
  offset : Nat
  line : Nat

/-- What an operation emits from a state, if it does not fail. The state does not tell the line. -/
def emission (a : Assembler) (line : Nat) (op : Operation) : List Emission :=
  match (outcome op.perform a).1 with
  | .ok _ => if op.emits then [⟨op, a.chunk.size, line⟩] else []
  | .error _ => []

/-- What is emitted in the course of a run that goes on after the operations `before`. -/
def emissions : List Operation → Assembler → List Operation → List Emission
  | _, _, [] => []
  | before, a, op :: ops =>
    emission a (lineAfter before) op ++ emissions (before ++ [op]) (outcome op.perform a).2 ops

lemma lineAfter_concat (before : List Operation) (op : Operation) :
    lineAfter (before ++ [op]) = op.line?.getD (lineAfter before) := by
  cases h : op.line? <;> simp [lineAfter, List.filterMap_append, h]

lemma line_perform {a : Assembler} {before : List Operation} (h : a.line = lineAfter before)
    (op : Operation) : (outcome op.perform a).2.line = lineAfter (before ++ [op]) := by
  rw [lineAfter_concat]
  cases he : op.emits with
  | false =>
    cases op with
    | setLine line => simp [perform, line?]
    | _ => cases he
  | true =>
    have hnone : op.line? = none := by
      cases op with
      | setLine line => cases he
      | _ => rfl
    rw [hnone, Option.getD_none, ← h]
    by_cases hover : op.Overflows a.pool
    · obtain ⟨m, hfail⟩ := outcome_perform_overflow hover
      rw [hfail]
    · obtain ⟨i, -, hok⟩ := outcome_perform he hover
      rw [hok]
      rfl

/-- The lines of the bytes that emissions left under the given operation codes. -/
def linesOf (es : List Emission) (ops : List Opcode) : List Nat :=
  (es.zipWith (fun e op => List.replicate (op.operandSize + 1) e.line) ops).flatten

lemma linesOf_append {es fs : List Emission} {xs ys : List Opcode} (h : es.length = xs.length) :
    linesOf (es ++ fs) (xs ++ ys) = linesOf es xs ++ linesOf fs ys := by
  simp only [linesOf, List.zipWith_append h, List.flatten_append]

/-- What a step or a run appends to the code and the lines of an assembler. -/
structure Appends (a b : Assembler) (es : List Emission) (is : List Instr) : Prop where
  /-- The emissions stand in the code as instructions, each at its offset. -/
  laid : List.Forall₂ (fun e x => x.1 = e.offset ∧ e.op.Encodes b.pool x.2) es
    (Instr.layout a.chunk.size is)
  pool : a.pool.Extends b.pool
  code : b.chunk.code = a.chunk.code ++ Instr.code is
  lines : b.chunk.lines = a.chunk.lines ++ linesOf es (is.map Instr.opcode)

lemma Appends.refl (a : Assembler) : Appends a a [] [] :=
  ⟨.nil, .refl _, by simp, by simp [linesOf]⟩

lemma Appends.length_eq {a b : Assembler} {es : List Emission} {is : List Instr}
    (h : Appends a b es is) : es.length = is.length := by
  rw [h.laid.length_eq, Instr.length_layout]

lemma Appends.trans {a b c : Assembler} {es fs : List Emission} {is js : List Instr}
    (hab : Appends a b es is) (hbc : Appends b c fs js) :
    Appends a c (es ++ fs) (is ++ js) := by
  have hsize : b.chunk.size = a.chunk.size + (Instr.code is).length := by
    rw [← Chunk.length_code, hab.code, List.length_append, Chunk.length_code]
  refine ⟨?_, hab.pool.trans hbc.pool, ?_, ?_⟩
  · rw [Instr.layout_append, ← hsize]
    refine List.rel_append (hab.laid.imp fun e x hx => ?_) hbc.laid
    exact ⟨hx.1, hx.2.mono hbc.pool⟩
  · rw [hbc.code, hab.code, Instr.code_append, List.append_assoc]
  · have hlen : es.length = (is.map Instr.opcode).length := by
      rw [List.length_map, hab.length_eq]
    rw [hbc.lines, hab.lines, List.map_append, linesOf_append hlen, List.append_assoc]

lemma appends_perform (a : Assembler) (op : Operation) :
    ∃ is, Appends a (outcome op.perform a).2 (emission a a.line op) is := by
  by_cases hover : op.Overflows a.pool
  · -- A failure stores at most a constant.
    obtain ⟨m, h⟩ := outcome_perform_overflow hover
    simp only [emission, h]
    exact ⟨[], .nil, Referent.extends_stored _ _, by simp, by simp [linesOf]⟩
  · cases he : op.emits with
    | false =>
      cases op with
      | setLine line => exact ⟨[], .nil, .refl _, by simp [perform], by simp [linesOf, perform]⟩
      | _ => cases he
    | true =>
      obtain ⟨i, hi, h⟩ := outcome_perform he hover
      simp only [emission, h, he, if_true]
      refine ⟨[i], .cons ⟨rfl, hi⟩ .nil, Referent.extends_stored _ _, ?_, ?_⟩
      · simp [Assembler.write]
      · simp [Assembler.write, linesOf]

lemma appends_runAll {a : Assembler} {before : List Operation} (h : a.line = lineAfter before)
    (ops : List Operation) : ∃ is, Appends a (runAll a ops) (emissions before a ops) is := by
  induction ops generalizing a before with
  | nil => exact ⟨[], .refl a⟩
  | cons op ops ih =>
    obtain ⟨is, his⟩ := appends_perform a op
    obtain ⟨js, hjs⟩ := ih (line_perform h op)
    rw [h] at his
    exact ⟨is ++ js, his.trans hjs⟩

lemma instructions_of_code {b : Chunk} {is : List Instr} (h : b.code = Instr.code is) :
    b.instructions = (Instr.layout 0 is).map (fun x => (x.1, x.2.opcode)) ∧
      ∀ x ∈ Instr.layout 0 is, b.instrAt? x.1 = some x.2 := by
  constructor
  · rw [Chunk.instructions, h, Chunk.scan_code]
  · intro x hx
    have hcode : b.code = [] ++ (Instr.code is ++ []) := by simp [h]
    exact Chunk.instrAt?_of_mem_layout hcode hx

lemma failure_perform (op : Operation) (c : Assembler) :
    ((∃ e, (outcome op.perform c).1 = .error e) ↔ op.Overflows c.pool) ∧
      ∀ e d, outcome op.perform c = (.error e, d) →
        d.chunk = c.chunk ∧ d.line = c.line ∧ ∃ m, e = .internal m := by
  by_cases hover : op.Overflows c.pool
  · obtain ⟨m, h⟩ := outcome_perform_overflow hover
    rw [h]
    refine ⟨iff_of_true ⟨_, rfl⟩ hover, ?_⟩
    rintro e d heq
    obtain ⟨he, rfl⟩ := Prod.mk.inj heq
    exact ⟨rfl, rfl, m, (Except.error.inj he).symm⟩
  · have hok : ∃ d, outcome op.perform c = (.ok (), d) := by
      cases he : op.emits with
      | true =>
        obtain ⟨i, -, h⟩ := outcome_perform he hover
        exact ⟨_, h⟩
      | false =>
        cases op with
        | setLine line => exact ⟨_, rfl⟩
        | _ => cases he
    obtain ⟨d, h⟩ := hok
    rw [h]
    exact ⟨iff_of_false (by simp) hover, by simp⟩

/-- **Decoding undoes emission.** Whatever operations run from an empty chunk, the scan of the
chunk finds an instruction for each of them that emitted and no other, in order and at the offset
where it was written, and what is read back there is what was asked for, also after later additions
to the pool. Each byte carries the line that the run has set last before its operation, or the first
if it has set none. An operation fails exactly when its number exceeds the wide operand range, and
then leaves code and lines as they were. -/
theorem instructions_runAll (pool : Pool) (base : Nat) (ops : List Operation)
    (later : List Constant) :
    let a := Assembler.start pool base
    let b := runAll a ops
    List.Forall₂
        (fun e x => x.1 = e.offset ∧ ∃ i, b.chunk.instrAt? x.1 = some i ∧ i.opcode = x.2 ∧
          e.op.Encodes (b.pool.addAll later) i)
        (emissions [] a ops) b.chunk.instructions ∧
      b.chunk.lines.length = b.chunk.code.length ∧
      b.chunk.lines = linesOf (emissions [] a ops) b.chunk.opcodes ∧
      ∀ (op : Operation) (c : Assembler),
        ((∃ e, (outcome op.perform c).1 = .error e) ↔ op.Overflows c.pool) ∧
        ∀ e d, outcome op.perform c = (.error e, d) →
          d.chunk = c.chunk ∧ d.line = c.line ∧ ∃ m, e = .internal m := by
  intro a b
  have hline : a.line = lineAfter [] := rfl
  obtain ⟨is, h⟩ := appends_runAll hline ops
  have hcode : b.chunk.code = Instr.code is := h.code
  obtain ⟨hinstrs, hread⟩ := instructions_of_code hcode
  have hops : b.chunk.opcodes = is.map Instr.opcode := by
    conv_rhs => rw [← Instr.map_snd_layout 0 is]
    rw [Chunk.opcodes, hinstrs, List.map_map, List.map_map]
    rfl
  refine ⟨?_, ?_, ?_, failure_perform⟩
  · rw [hinstrs, List.forall₂_map_right_iff]
    have hlaid := (List.forall₂_and_left _ _).mpr ⟨hread, h.laid.flip⟩
    refine hlaid.flip.imp fun e x hx => ?_
    exact ⟨hx.2.1, x.2, hx.1, rfl, hx.2.2.mono (b.pool.extends_addAll later)⟩
  · simp [Chunk.lines, Chunk.code]
  · rw [hops]
    exact h.lines

end PropertyLowering.Operation
