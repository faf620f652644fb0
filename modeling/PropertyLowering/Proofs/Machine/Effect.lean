import PropertyLowering.Proofs.Assembler.Emits
import PropertyLowering.Proofs.Machine.Basic

/-!
What operations mean on the machine, without code or pool.

Main statement: code that was emitted for operations, executed with the pool as it was then or any
later one, has the effect of the operations.
-/

namespace PropertyLowering.Runtime

variable {V : Type} (rt : Runtime V)

/-- The effect of an operation on a machine. -/
def effect : Operation → Machine V → Option (Machine V)
  | .constant c, m => some (m.push (rt.load c))
  | .int n, m => some (m.push (rt.load (.int n)))
  | .string s, m => some (m.push (rt.load (.ofString s)))
  | .null, m => some (m.push rt.null)
  | .pop, m => m.pop?
  | .getLocal slot, m => some (m.push (m.locals slot))
  | .setLocal slot, m => m.store? slot
  | .getStatic field, m => some (m.push (rt.static field))
  | .call method argc, m => rt.call? method [] argc.toNat m
  | .callMethod method argc, m => rt.callMethod? method [] argc.toNat m
  | .callGeneric method args argc, m => rt.call? method args argc.toNat m
  | .callMethodGeneric method args argc, m => rt.callMethod? method args argc.toNat m
  | .setLine _, m => some m

/-- The effect of operations, one after the other. -/
def effects (ops : List Operation) (m : Machine V) : Option (Machine V) :=
  ops.foldlM (fun m op => rt.effect op m) m

lemma effects_append (ops ops' : List Operation) (m : Machine V) :
    rt.effects (ops ++ ops') m = (rt.effects ops m).bind (rt.effects ops') := by
  simp [effects, List.foldlM_append]
  rfl

section

variable (ops : List Operation) (stack : List V) (locals : Nat → V) (calls : List (Call V))

@[simp] lemma effects_int (n : Int) :
    rt.effects (.int n :: ops) ⟨stack, locals, calls⟩ =
      rt.effects ops ⟨rt.load (.int n) :: stack, locals, calls⟩ := rfl

@[simp] lemma effects_string (s : String) :
    rt.effects (.string s :: ops) ⟨stack, locals, calls⟩ =
      rt.effects ops ⟨rt.load (.ofString s) :: stack, locals, calls⟩ := rfl

@[simp] lemma effects_null :
    rt.effects (.null :: ops) ⟨stack, locals, calls⟩ =
      rt.effects ops ⟨rt.null :: stack, locals, calls⟩ := rfl

@[simp] lemma effects_getStatic (field : Ident) :
    rt.effects (.getStatic field :: ops) ⟨stack, locals, calls⟩ =
      rt.effects ops ⟨rt.static field :: stack, locals, calls⟩ := rfl

@[simp] lemma effects_getLocal (slot : Nat) :
    rt.effects (.getLocal slot :: ops) ⟨stack, locals, calls⟩ =
      rt.effects ops ⟨locals slot :: stack, locals, calls⟩ := rfl

@[simp] lemma effects_setLocal (slot : Nat) (v : V) :
    rt.effects (.setLocal slot :: ops) ⟨v :: stack, locals, calls⟩ =
      rt.effects ops ⟨stack, Function.update locals slot v, calls⟩ := rfl

@[simp] lemma effects_pop (v : V) :
    rt.effects (.pop :: ops) ⟨v :: stack, locals, calls⟩ = rt.effects ops ⟨stack, locals, calls⟩ :=
  rfl

end

variable {rt}

lemma step_of_loads {pool : Pool} {c : Constant} {i : Instr} (h : Operation.Loads pool c i)
    (m : Machine V) : rt.step pool i m = some (m.push (rt.load c)) := by
  rcases h with ⟨b, rfl, hc⟩ | ⟨w, rfl, -, hc⟩
  · simp [step, hc]
  · simp [step, hc]

lemma step_of_encodes {pool : Pool} {op : Operation} {i : Instr} (h : op.Encodes pool i)
    (m : Machine V) : rt.step pool i m = rt.effect op m := by
  cases op with
  | constant c => exact step_of_loads h m
  | string s => exact step_of_loads h m
  | int n =>
    simp only [Operation.Encodes] at h
    split_ifs at h with h0 h1
    · subst h h0
      rfl
    · subst h h1
      rfl
    · exact step_of_loads h m
  | null | pop =>
    cases h
    rfl
  | getLocal n | setLocal n =>
    rcases h with ⟨b, rfl, rfl⟩ | ⟨w, rfl, -, rfl⟩
    · rfl
    · rfl
  | getStatic field | call method argc | callMethod method argc | callGeneric method args argc
  | callMethodGeneric method args argc =>
    obtain ⟨w, rfl, hc⟩ := h
    simp [step, effect, hc]
  | setLine line => exact h.elim

lemma steps_of_laid {pool : Pool} {n : Nat} {es : List Operation.Emission} {is : List Instr}
    (h : List.Forall₂ (fun e x => x.1 = e.offset ∧ e.op.Encodes pool x.2) es (Instr.layout n is))
    (m : Machine V) : rt.steps pool is m = rt.effects (es.map (·.op)) m := by
  induction is generalizing n es m with
  | nil =>
    cases h
    rfl
  | cons i is ih =>
    cases h with
    | cons hi hes =>
      simp only [steps, effects, List.map_cons, List.foldlM_cons, step_of_encodes hi.2]
      congr 1
      funext m'
      exact ih hes m'

/-- **Code has the effect of its operations**, in the pool it was emitted with and in any later
one. -/
theorem execute_of_gains {a b : Assembler} {ops : List Operation} (h : a.Gains b ops) {pool : Pool}
    (hpool : b.pool.Extends pool) (m : Machine V) :
    rt.execute pool b.chunk a.chunk.size m = rt.effects ops m := by
  obtain ⟨es, is, h, rfl⟩ := h
  have hlaid := h.laid.imp fun e x hx => (⟨hx.1, hx.2.mono hpool⟩ : x.1 = e.offset ∧ _)
  calc rt.execute pool b.chunk a.chunk.size m
      = rt.execute pool b.chunk a.chunk.code.length m := by rw [Chunk.length_code]
    _ = rt.steps pool is m := rt.execute_of_code h.code pool m
    _ = rt.effects (es.map (·.op)) m := steps_of_laid hlaid m

end PropertyLowering.Runtime
