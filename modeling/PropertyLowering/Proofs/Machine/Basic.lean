import Mathlib.Logic.Function.Basic
import PropertyLowering.Decl.Member
import PropertyLowering.Proofs.Code.Layout
import PropertyLowering.Code.Pool

/-!
The stack machine that code is written for.

Loads push, and storing into a local pops. A call pops its arguments and, for methods, the receiver
beneath them, and pushes the return value if the method has one. What a machine computes with is
left open: a runtime says what constants and static fields stand for and what calls return.
-/

namespace PropertyLowering

/-- A call, with what it took from the stack. The arguments are in the order they were pushed. -/
structure Call (V : Type) where
  method : Ident
  typeArgs : List Ident
  receiver : Option V
  args : List V

structure Runtime (V : Type) where
  /-- The value that a constant is loaded as. -/
  load : Constant → V
  null : V
  /-- The value of a static field. -/
  static : Ident → V
  /-- What a call returns, if the method has a return value. -/
  result : Call V → Option V

/-- The top of the stack is the head of the list, and the last call made is the last one listed. -/
structure Machine (V : Type) where
  stack : List V
  locals : Nat → V
  calls : List (Call V)

namespace Machine

variable {V : Type}

def push (m : Machine V) (v : V) : Machine V := { m with stack := v :: m.stack }

def pop? (m : Machine V) : Option (Machine V) :=
  match m.stack with
  | [] => none
  | _ :: rest => some { m with stack := rest }

/-- Moves the top of the stack into a local. -/
def store? (m : Machine V) (slot : Nat) : Option (Machine V) :=
  match m.stack with
  | [] => none
  | v :: rest => some { m with stack := rest, locals := Function.update m.locals slot v }

end Machine

namespace Runtime

variable {V : Type} (rt : Runtime V)

/-- A method returns a value in the runtime just when its declaration says so. -/
def Implements (m : MethodDecl) : Prop :=
  ∀ c : Call V, c.method = m.id → (rt.result c).isSome = m.returnsValue

def perform (m : Machine V) (c : Call V) (rest : List V) : Machine V :=
  { m with stack := (rt.result c).toList ++ rest, calls := m.calls ++ [c] }

/-- Calls a method on the topmost `argc` values, the last argument on top. -/
def call? (method : Ident) (typeArgs : List Ident) (argc : Nat) (m : Machine V) :
    Option (Machine V) :=
  if m.stack.length < argc then
    none
  else
    some (rt.perform m ⟨method, typeArgs, none, (m.stack.take argc).reverse⟩ (m.stack.drop argc))

/-- Calls a method on the receiver beneath the topmost `argc` values. -/
def callMethod? (method : Ident) (typeArgs : List Ident) (argc : Nat) (m : Machine V) :
    Option (Machine V) :=
  match m.stack.drop argc with
  | [] => none
  | inst :: rest =>
    some (rt.perform m ⟨method, typeArgs, some inst, (m.stack.take argc).reverse⟩ rest)

/-- Executes an instruction. A machine is stuck if a value or a constant is missing, or if the
constant is of another kind than the instruction needs. -/
def step (pool : Pool) (i : Instr) (m : Machine V) : Option (Machine V) :=
  match i with
  | .constant index => (pool.get? index.toNat).map fun c => m.push (rt.load c)
  | .constantWide index => (pool.get? index.toNat).map fun c => m.push (rt.load c)
  | .pushNull => some (m.push rt.null)
  | .pushZero => some (m.push (rt.load (.int 0)))
  | .pushOne => some (m.push (rt.load (.int 1)))
  | .pop => m.pop?
  | .getLocal slot => some (m.push (m.locals slot.toNat))
  | .setLocal slot => m.store? slot.toNat
  | .getLocalWide slot => some (m.push (m.locals slot.toNat))
  | .setLocalWide slot => m.store? slot.toNat
  | .getStatic index =>
    match pool.get? index.toNat with
    | some (.ident field) => some (m.push (rt.static field))
    | _ => none
  | .call index argc =>
    match pool.get? index.toNat with
    | some (.ident method) => rt.call? method [] argc.toNat m
    | _ => none
  | .callMethod index argc =>
    match pool.get? index.toNat with
    | some (.ident method) => rt.callMethod? method [] argc.toNat m
    | _ => none
  | .callGeneric index argc =>
    match pool.get? index.toNat with
    | some (.genericMethod method args) => rt.call? method args argc.toNat m
    | _ => none
  | .callMethodGeneric index argc =>
    match pool.get? index.toNat with
    | some (.genericMethod method args) => rt.callMethod? method args argc.toNat m
    | _ => none

/-- Executes a chunk from an offset to its end. -/
def execute (pool : Pool) (c : Chunk) (offset : Nat) (m : Machine V) : Option (Machine V) :=
  if offset < c.size then
    match c.instrAt? offset with
    | none => none
    | some i => (rt.step pool i m).bind (execute pool c (offset + i.bytes.length))
  else
    some m
termination_by c.size - offset
decreasing_by
  rw [Instr.length_bytes]
  omega

/-- Executes instructions one after the other. -/
def steps (pool : Pool) (is : List Instr) (m : Machine V) : Option (Machine V) :=
  is.foldlM (fun m i => rt.step pool i m) m

lemma execute_of_code {c : Chunk} {before : List UInt8} {is : List Instr}
    (h : c.code = before ++ Instr.code is) (pool : Pool) (m : Machine V) :
    rt.execute pool c before.length m = rt.steps pool is m := by
  induction is generalizing before m with
  | nil =>
    have hend : ¬ before.length < c.size := by
      rw [← Chunk.length_code, h]
      simp
    rw [execute, if_neg hend]
    rfl
  | cons i is ih =>
    have hlt : before.length < c.size := by
      rw [← Chunk.length_code, h]
      simp only [List.length_append, Instr.code_cons, Instr.length_bytes]
      omega
    have hcode : c.code = (before ++ i.bytes) ++ Instr.code is := by
      rw [h, Instr.code_cons, List.append_assoc]
    rw [execute, if_pos hlt, Chunk.instrAt?_of_code h]
    simp only [steps, List.foldlM_cons]
    congr 1
    funext m'
    rw [← List.length_append]
    exact ih hcode m'

end Runtime

end PropertyLowering
