import Mathlib.Tactic.SplitIfs
import PropertyLowering.Proofs.Assembler.Outcome
import PropertyLowering.Proofs.Code.Layout

/-!
The operations of an assembler as data, and what each of them leaves in code and pool.

An operation that needs a number, a slot or the index of a constant, fails exactly when the number
exceeds the wide operand range, and then leaves the code alone. Otherwise it writes one
instruction, from which slot, argument count and constant can be read back.
-/

namespace PropertyLowering

namespace Pool

/-- Every constant of a pool stands under the same index in the other one. -/
def Extends (p q : Pool) : Prop := ∀ i c, p.get? i = some c → q.get? i = some c

/-- The pool after more constants were asked for. -/
def addAll (p : Pool) (cs : List Constant) : Pool := cs.foldl (fun p c => (p.add c).2) p

lemma Extends.refl (p : Pool) : p.Extends p := fun _ _ h => h

lemma Extends.trans {p q r : Pool} (hpq : p.Extends q) (hqr : q.Extends r) : p.Extends r :=
  fun i c h => hqr i c (hpq i c h)

lemma extends_add (p : Pool) (c : Constant) : p.Extends (p.add c).2 :=
  fun _ _ h => get?_add_of_get? c h

lemma index_add_le (p : Pool) (c : Constant) : (p.add c).1 ≤ p.size := by
  unfold add
  split
  · next i h =>
    have hget := (p.index_key_iff c i).mp h
    exact Nat.le_of_lt (Array.getElem?_eq_some_iff.mp hget).1
  · exact Nat.le_refl _

lemma size_add_le (p : Pool) (c : Constant) : (p.add c).2.size ≤ p.size + 1 := by
  unfold add
  split
  · exact Nat.le_succ _
  · simp [size, push]

lemma extends_addAll (p : Pool) (cs : List Constant) : p.Extends (p.addAll cs) := by
  induction cs generalizing p with
  | nil => exact .refl p
  | cons c cs ih => exact (p.extends_add c).trans (ih (p.add c).2)

end Pool

/-- The emission of one instruction, or a change of the line. -/
inductive Operation where
  | constant (c : Constant)
  | int (n : Int)
  | string (s : String)
  | null
  | pop
  | getLocal (slot : Nat)
  | setLocal (slot : Nat)
  | getStatic (field : Ident)
  | call (method : Ident) (argc : UInt8)
  | callMethod (method : Ident) (argc : UInt8)
  | callGeneric (method : Ident) (args : List Ident) (argc : UInt8)
  | callMethodGeneric (method : Ident) (args : List Ident) (argc : UInt8)
  | setLine (line : Nat)
  deriving DecidableEq, Repr

/-- What an instruction refers to by a number. -/
inductive Referent where
  | none
  | slot (n : Nat)
  | constant (c : Constant)

namespace Referent

/-- The number that is to become the operand, given the pool that is asked for constants. -/
def number (p : Pool) : Referent → Nat
  | none => 0
  | slot n => n
  | constant c => (p.add c).1

/-- The pool after it was asked. -/
def stored (p : Pool) : Referent → Pool
  | none | slot _ => p
  | constant c => (p.add c).2

lemma extends_stored (p : Pool) (r : Referent) : p.Extends (r.stored p) := by
  cases r with
  | none => exact .refl p
  | slot n => exact .refl p
  | constant c => exact p.extends_add c

lemma size_stored_le (p : Pool) (r : Referent) : (r.stored p).size ≤ p.size + 1 := by
  cases r with
  | none => exact Nat.le_succ _
  | slot n => exact Nat.le_succ _
  | constant c => exact p.size_add_le c

end Referent

namespace Operation

/-- The operation, carried out. -/
def perform : Operation → Asm Unit
  | constant c => Asm.constant c
  | int n => Asm.int n
  | string s => Asm.string s
  | null => Asm.null
  | pop => Asm.pop
  | getLocal slot => Asm.getLocal slot
  | setLocal slot => Asm.setLocal slot
  | getStatic field => Asm.getStatic field
  | call method argc => Asm.call method argc
  | callMethod method argc => Asm.callMethod method argc
  | callGeneric method args argc => Asm.callGeneric method args argc
  | callMethodGeneric method args argc => Asm.callMethodGeneric method args argc
  | setLine line => Asm.setLine line

/-- Only a change of the line emits nothing. -/
def emits : Operation → Bool
  | setLine _ => false
  | _ => true

def referent : Operation → Referent
  | constant c => .constant c
  | int n => if n = 0 ∨ n = 1 then .none else .constant (.int n)
  | string s => .constant (.ofString s)
  | getLocal slot | setLocal slot => .slot slot
  | getStatic id | call id _ | callMethod id _ => .constant (.ident id)
  | callGeneric method args _ | callMethodGeneric method args _ =>
    .constant (.genericMethod method args)
  | null | pop | setLine _ => .none

/-- The number that an operation needs does not fit a wide operand. -/
def Overflows (op : Operation) (p : Pool) : Prop := 65535 < op.referent.number p

/-- A load of a constant: narrow by an index up to 255, wide by one above. -/
def Loads (p : Pool) (c : Constant) (i : Instr) : Prop :=
  (∃ b, i = .constant b ∧ p.get? b.toNat = some c) ∨
    ∃ w, i = .constantWide w ∧ 255 < w.toNat ∧ p.get? w.toNat = some c

/-- The instruction does what the operation asks for, by slots and by constants of the pool. -/
def Encodes (p : Pool) : Operation → Instr → Prop
  | constant c, i => Loads p c i
  | int n, i => if n = 0 then i = .pushZero else if n = 1 then i = .pushOne else Loads p (.int n) i
  | string s, i => Loads p (.ofString s) i
  | null, i => i = .pushNull
  | pop, i => i = .pop
  | getLocal n, i =>
    (∃ b, i = .getLocal b ∧ b.toNat = n) ∨ ∃ w, i = .getLocalWide w ∧ 255 < n ∧ w.toNat = n
  | setLocal n, i =>
    (∃ b, i = .setLocal b ∧ b.toNat = n) ∨ ∃ w, i = .setLocalWide w ∧ 255 < n ∧ w.toNat = n
  | getStatic field, i => ∃ w, i = .getStatic w ∧ p.get? w.toNat = some (.ident field)
  | call method argc, i => ∃ w, i = .call w argc ∧ p.get? w.toNat = some (.ident method)
  | callMethod method argc, i => ∃ w, i = .callMethod w argc ∧ p.get? w.toNat = some (.ident method)
  | callGeneric method args argc, i =>
    ∃ w, i = .callGeneric w argc ∧ p.get? w.toNat = some (.genericMethod method args)
  | callMethodGeneric method args argc, i =>
    ∃ w, i = .callMethodGeneric w argc ∧ p.get? w.toNat = some (.genericMethod method args)
  | setLine _, _ => False

lemma Loads.mono {p q : Pool} {c : Constant} {i : Instr} (hpq : p.Extends q) (h : Loads p c i) :
    Loads q c i := by
  rcases h with ⟨b, hi, hb⟩ | ⟨w, hi, hw, hc⟩
  · exact .inl ⟨b, hi, hpq _ _ hb⟩
  · exact .inr ⟨w, hi, hw, hpq _ _ hc⟩

lemma Encodes.mono {p q : Pool} {op : Operation} {i : Instr} (hpq : p.Extends q)
    (h : op.Encodes p i) : op.Encodes q i := by
  cases op with
  | constant c => exact Loads.mono hpq h
  | string s => exact Loads.mono hpq h
  | int n =>
    simp only [Encodes] at h ⊢
    split_ifs at h ⊢ with h0 h1
    · exact h
    · exact h
    · exact h.mono hpq
  | getStatic field | call method argc | callMethod method argc | callGeneric method args argc
  | callMethodGeneric method args argc =>
    obtain ⟨w, hi, hc⟩ := h
    exact ⟨w, hi, hpq _ _ hc⟩
  | null | pop | getLocal slot | setLocal slot | setLine line => exact h

end Operation

/-- The assembler after one more instruction. -/
def Assembler.write (a : Assembler) (i : Instr) : Assembler :=
  { a with chunk := a.chunk.write i.bytes a.line }

namespace Asm

lemma outcome_narrowOrWide (narrow : UInt8 → Instr) (full : UInt16 → Instr) {n : Nat}
    (hn : n ≤ 65535) (a : Assembler) :
    ∃ i, ((∃ b, i = narrow b ∧ b.toNat = n) ∨ ∃ w, i = full w ∧ 255 < n ∧ w.toNat = n) ∧
      outcome (narrowOrWide narrow full n) a = (.ok (), a.write i) := by
  unfold narrowOrWide
  by_cases hb : n < 256
  · refine ⟨narrow (UInt8.ofNat n), .inl ⟨_, rfl, ?_⟩, ?_⟩
    · simpa using hb
    · rw [if_pos hb]
      rfl
  · refine ⟨full (UInt16.ofNat n), .inr ⟨_, rfl, by omega, ?_⟩, ?_⟩
    · simp only [UInt16.toNat_ofNat']
      omega
    · rw [if_neg hb, outcome_bind, outcome_wide, if_pos (by omega)]
      rfl

lemma outcome_narrowOrWide_overflow (narrow : UInt8 → Instr) (full : UInt16 → Instr) {n : Nat}
    (hn : 65535 < n) (a : Assembler) :
    ∃ m, outcome (narrowOrWide narrow full n) a = (.error (.internal m), a) := by
  unfold narrowOrWide
  rw [if_neg (by omega), outcome_bind, outcome_wide, if_neg (by omega)]
  exact ⟨_, rfl⟩

lemma outcome_indexed (form : UInt16 → Instr) {c : Constant} {a : Assembler}
    (hc : (a.pool.add c).1 ≤ 65535) :
    ∃ i, (∃ w, i = form w ∧ (a.pool.add c).2.get? w.toNat = some c) ∧
      outcome (indexed form c) a =
        (.ok (), Assembler.write { a with pool := (a.pool.add c).2 } i) := by
  have hw : (UInt16.ofNat (a.pool.add c).1).toNat = (a.pool.add c).1 := by
    simp only [UInt16.toNat_ofNat']
    omega
  refine ⟨form (UInt16.ofNat (a.pool.add c).1), ⟨_, rfl, ?_⟩, ?_⟩
  · rw [hw, a.pool.get?_add c]
  · unfold indexed
    rw [outcome_bind, outcome_indexOf]
    simp only
    rw [outcome_bind, outcome_wide, if_pos (by omega)]
    rfl

lemma outcome_indexed_overflow (form : UInt16 → Instr) {c : Constant} {a : Assembler}
    (hc : 65535 < (a.pool.add c).1) :
    ∃ m, outcome (indexed form c) a =
      (.error (.internal m), { a with pool := (a.pool.add c).2 }) := by
  unfold indexed
  rw [outcome_bind, outcome_indexOf]
  simp only
  rw [outcome_bind, outcome_wide, if_neg (by omega)]
  exact ⟨_, rfl⟩

lemma outcome_constant {c : Constant} {a : Assembler} (hc : (a.pool.add c).1 ≤ 65535) :
    ∃ i, Operation.Loads (a.pool.add c).2 c i ∧
      outcome (constant c) a =
        (.ok (), Assembler.write { a with pool := (a.pool.add c).2 } i) := by
  obtain ⟨i, hi, h⟩ := outcome_narrowOrWide .constant .constantWide hc
    { a with pool := (a.pool.add c).2 }
  have hget := a.pool.get?_add c
  refine ⟨i, ?_, ?_⟩
  · rcases hi with ⟨b, rfl, hb⟩ | ⟨w, rfl, hlt, hw⟩
    · exact .inl ⟨b, rfl, by rw [hb, hget]⟩
    · exact .inr ⟨w, rfl, by omega, by rw [hw, hget]⟩
  · unfold constant
    rw [outcome_bind, outcome_indexOf]
    exact h

lemma outcome_constant_overflow {c : Constant} {a : Assembler} (hc : 65535 < (a.pool.add c).1) :
    ∃ m, outcome (constant c) a = (.error (.internal m), { a with pool := (a.pool.add c).2 }) := by
  unfold constant
  rw [outcome_bind, outcome_indexOf]
  exact outcome_narrowOrWide_overflow .constant .constantWide hc _

end Asm

namespace Operation

open Asm

/-- An operation whose number fits writes one instruction that encodes it. -/
lemma outcome_perform {op : Operation} (he : op.emits = true) {a : Assembler}
    (h : ¬ op.Overflows a.pool) :
    ∃ i, op.Encodes (op.referent.stored a.pool) i ∧
      outcome op.perform a =
        (.ok (), Assembler.write { a with pool := op.referent.stored a.pool } i) := by
  have hfit : op.referent.number a.pool ≤ 65535 := Nat.le_of_not_lt h
  cases op with
  | setLine line => cases he
  | null => exact ⟨.pushNull, rfl, rfl⟩
  | pop => exact ⟨.pop, rfl, rfl⟩
  | constant c => exact outcome_constant hfit
  | string s => exact outcome_constant hfit
  | getLocal slot => exact outcome_narrowOrWide .getLocal .getLocalWide hfit a
  | setLocal slot => exact outcome_narrowOrWide .setLocal .setLocalWide hfit a
  | int n =>
    by_cases h0 : n = 0
    · subst h0
      exact ⟨.pushZero, rfl, rfl⟩
    · by_cases h1 : n = 1
      · subst h1
        exact ⟨.pushOne, rfl, rfl⟩
      · simp only [referent, h0, h1, or_self, if_false] at hfit ⊢
        simp only [Encodes, perform, Asm.int, h0, h1, if_false]
        exact outcome_constant hfit
  | getStatic field => exact outcome_indexed .getStatic hfit
  | call method argc => exact outcome_indexed (.call · argc) hfit
  | callMethod method argc => exact outcome_indexed (.callMethod · argc) hfit
  | callGeneric method args argc => exact outcome_indexed (.callGeneric · argc) hfit
  | callMethodGeneric method args argc => exact outcome_indexed (.callMethodGeneric · argc) hfit

lemma outcome_perform_overflow {op : Operation} {a : Assembler} (h : op.Overflows a.pool) :
    ∃ m, outcome op.perform a =
      (.error (.internal m), { a with pool := op.referent.stored a.pool }) := by
  unfold Overflows at h
  cases op with
  | setLine line | null | pop => exact absurd h (by simp [referent, Referent.number])
  | constant c => exact outcome_constant_overflow h
  | string s => exact outcome_constant_overflow h
  | getLocal slot => exact outcome_narrowOrWide_overflow .getLocal .getLocalWide h a
  | setLocal slot => exact outcome_narrowOrWide_overflow .setLocal .setLocalWide h a
  | int n =>
    by_cases h0 : n = 0 ∨ n = 1
    · simp [referent, h0, Referent.number] at h
    · simp only [referent, h0, if_false] at h ⊢
      simp only [not_or] at h0
      simp only [perform, Asm.int, h0, if_false]
      exact outcome_constant_overflow h
  | getStatic field => exact outcome_indexed_overflow .getStatic h
  | call method argc => exact outcome_indexed_overflow (.call · argc) h
  | callMethod method argc => exact outcome_indexed_overflow (.callMethod · argc) h
  | callGeneric method args argc => exact outcome_indexed_overflow (.callGeneric · argc) h
  | callMethodGeneric method args argc =>
    exact outcome_indexed_overflow (.callMethodGeneric · argc) h

end Operation

end PropertyLowering
