import Mathlib.Tactic.Lemma
import PropertyLowering.Assembler.Basic

/-!
What an emission does to the assembler it starts from.

An emission that runs several steps stops at the first that fails, and keeps what was emitted
until then. So its success takes apart into the successes of its steps.
-/

namespace PropertyLowering

namespace Asm

/-- What an emission gives from a state, with the state it leaves behind. -/
def outcome (x : Asm α) (a : Assembler) : Except CompileError α × Assembler := x.run.run a

variable {a b c : Assembler}

@[simp] lemma liftExcept_ok_bind (r : α) (f : α → Asm β) :
    ((liftM (Except.ok r : Except CompileError α) : Asm α) >>= f) = f r := rfl

@[simp] lemma liftExcept_error_bind (e : CompileError) (f : α → Asm β) :
    ((liftM (Except.error e : Except CompileError α) : Asm α) >>= f) = throw e := rfl

lemma outcome_bind (x : Asm α) (f : α → Asm β) (a : Assembler) :
    outcome (x >>= f) a =
      match outcome x a with
      | (.ok r, b) => outcome (f r) b
      | (.error e, b) => (.error e, b) := by
  simp only [outcome, ExceptT.run_bind, StateT.run_bind]
  rcases h : StateT.run (ExceptT.run x) a with ⟨_ | _, b⟩ <;> rfl

lemma outcome_bind_ok {x : Asm α} {f : α → Asm β} {r : β} :
    outcome (x >>= f) a = (.ok r, c) ↔
      ∃ s b, outcome x a = (.ok s, b) ∧ outcome (f s) b = (.ok r, c) := by
  rw [outcome_bind]
  rcases outcome x a with ⟨_ | s, b⟩ <;> simp [and_assoc]

lemma outcome_bind_error {x : Asm α} {f : α → Asm β} {e : CompileError} :
    outcome (x >>= f) a = (.error e, c) ↔
      outcome x a = (.error e, c) ∨
        ∃ s b, outcome x a = (.ok s, b) ∧ outcome (f s) b = (.error e, c) := by
  rw [outcome_bind]
  rcases outcome x a with ⟨_ | s, b⟩ <;> simp [and_assoc]

@[simp] lemma outcome_setLine (line : Nat) (a : Assembler) :
    outcome (setLine line) a = (.ok (), { a with line }) := rfl

@[simp] lemma outcome_indexOf (c : Constant) (a : Assembler) :
    outcome (indexOf c) a = (.ok (a.pool.add c).1, { a with pool := (a.pool.add c).2 }) := rfl

lemma outcome_wide (op : Opcode) (n : Nat) (a : Assembler) :
    outcome (wide op n) a =
      if n < 65536 then
        (.ok (UInt16.ofNat n), a)
      else
        (.error (.internal s!"operand {n} of {op.name} exceeds the 16-bit operand range"), a) := by
  unfold wide
  split <;> rfl

@[simp] lemma outcome_acquire (type : Ident) (a : Assembler) :
    outcome (acquire type) a =
      (.ok (a.slots.acquire type).1, { a with slots := (a.slots.acquire type).2 }) := rfl

@[simp] lemma outcome_release (lease : Lease) (a : Assembler) :
    outcome (release lease) a = (.ok (), { a with slots := a.slots.release lease }) := rfl

lemma outcome_lift_run (x : Asm α) (a : Assembler) :
    outcome (ExceptT.lift x.run) a = (.ok (outcome x a).1, (outcome x a).2) := rfl

lemma outcome_ofExcept (e : Except CompileError α) (a : Assembler) :
    outcome (MonadExcept.ofExcept e) a = (e, a) := by
  cases e <;> rfl

lemma outcome_withSlot (type : Ident) (body : Nat → Asm α) (a : Assembler) :
    outcome (withSlot type body) a =
      let (lease, slots) := a.slots.acquire type
      let (r, b) := outcome (body lease.slot) { a with slots }
      (r, { b with slots := b.slots.release lease }) := by
  simp only [withSlot, outcome_bind, outcome_acquire, outcome_release, outcome_lift_run,
    outcome_ofExcept]

lemma outcome_withSlot_eq {type : Ident} {body : Nat → Asm α} {r : Except CompileError α}
    (h : outcome (withSlot type body) a = (r, c)) :
    ∃ b, outcome (body (a.slots.acquire type).1.slot)
        { a with slots := (a.slots.acquire type).2 } = (r, b) ∧
      c = { b with slots := b.slots.release (a.slots.acquire type).1 } := by
  rw [outcome_withSlot] at h
  obtain ⟨rfl, rfl⟩ := Prod.mk.inj h
  exact ⟨_, rfl, rfl⟩

end Asm

end PropertyLowering
