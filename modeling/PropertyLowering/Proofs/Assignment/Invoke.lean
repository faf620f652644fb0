import PropertyLowering.Assignment.Call
import PropertyLowering.Proofs.Framework.Shape
import PropertyLowering.Proofs.Machine.Effect

/-!
The calls that assignments come down to.

The property store has three methods for assignments, each with the descriptor of the property as
its first parameter and with a result that code drops at once.
-/

namespace PropertyLowering

/-- The runtime has the methods of the property store as they are declared. -/
structure Runtime.HasStore {V : Type} (rt : Runtime V) (fw : Framework) : Prop where
  bind : rt.Implements fw.bind
  setValue : rt.Implements fw.setValue
  setStyledValue : rt.Implements fw.setStyledValue

/-- A runtime of numbers, in which every method returns zero. -/
def Runtime.numbers : Runtime Nat where
  load
    | .int n => n.toNat
    | _ => 0
  null := 0
  static field := field.bits.toNat
  result _ := some 0

/-- The call that a setter stands for, on an instance and on operands in the order of the
parameters. -/
def Setter.call? {V : Type} (rt : Runtime V) (ctx : Context) (s : Setter) (inst : V)
    (operands : List V) : Option (Call V) :=
  let fw := ctx.framework
  let field := rt.static s.property.field.id
  let zero := rt.load (.int 0)
  let valueType := s.property.valueType
  match s.convention, operands with
  | .unset, [_] => some ⟨fw.setValue.id, [], some inst, [field, rt.static fw.unsetValue.id, zero]⟩
  | .binding, [binding] | .bindingWithPriority, [_, binding] =>
    some ⟨fw.bind.id, [], some inst, [field, binding, rt.null]⟩
  | .plain, [value] => some ⟨fw.setStyledValue.id, [valueType], some inst, [field, value, zero]⟩
  | .plainWithPriority, [priority, value] =>
    some ⟨fw.setStyledValue.id, [valueType], some inst, [field, value, priority]⟩
  | _, _ => none

lemma FieldProperty.mem_setters {p : FieldProperty} {ctx : Context} {s : Setter}
    (h : s ∈ p.setters ctx) : ∃ convention rank, s = p.setter ctx convention rank := by
  obtain ⟨rank, hlt, rfl⟩ := List.mem_mapIdx.mp h
  exact ⟨_, rank, rfl⟩

lemma Setter.exists_call {V : Type} (rt : Runtime V) {ctx : Context} {p : FieldProperty}
    {s : Setter} (hs : s ∈ p.setters ctx) (inst : V) {operands : List V}
    (h : operands.length = s.arity) : ∃ call, s.call? rt ctx inst operands = some call := by
  obtain ⟨convention, rank, rfl⟩ := FieldProperty.mem_setters hs
  cases convention with
  | plain | binding | unset =>
    obtain ⟨x, rfl⟩ := List.length_eq_one_iff.mp h
    exact ⟨_, rfl⟩
  | plainWithPriority | bindingWithPriority =>
    obtain ⟨x, y, rfl⟩ := List.length_eq_two.mp h
    exact ⟨_, rfl⟩

lemma Setter.receiver_of_call {V : Type} {rt : Runtime V} {ctx : Context} {s : Setter} {inst : V}
    {operands : List V} {call : Call V} (h : s.call? rt ctx inst operands = some call) :
    call.receiver = some inst := by
  unfold call? at h
  split at h <;> cases h <;> rfl

lemma MethodDecl.error_of_argumentCount {m : MethodDecl} {f : UInt8 → List Operation}
    {e : CompileError} (h : (do .ok (f (← m.argumentCount))) = (.error e : Piece)) :
    ∃ reason, e = .internal reason := by
  unfold argumentCount at h
  split_ifs at h
  · cases h
  · exact ⟨_, (Except.error.inj h).symm⟩

/-- The constant that a call refers to. -/
def MethodDecl.callee (m : MethodDecl) (typeArg : Option Ident) : Constant :=
  match typeArg.filter fun _ => m.isGeneric with
  | none => .ident m.id
  | some type => .genericMethod m.id [type]

namespace Asm

/-- The instruction that calls a method. -/
def callOperation (m : MethodDecl) (typeArg : Option Ident) (argc : UInt8) : Operation :=
  match m.isStatic, typeArg.filter fun _ => m.isGeneric with
  | true, none => .call m.id argc
  | false, none => .callMethod m.id argc
  | true, some type => .callGeneric m.id [type] argc
  | false, some type => .callMethodGeneric m.id [type] argc

/-- A call whose result is dropped. -/
def callOperations (m : MethodDecl) (typeArg : Option Ident) (argc : UInt8) : List Operation :=
  callOperation m typeArg argc :: if m.returnsValue then [.pop] else []

/-- The call as a piece of code, which may complain about the number of arguments. -/
def invocation (m : MethodDecl) (typeArg : Option Ident) : Piece := do
  let argc ← m.argumentCount
  .ok (callOperations m typeArg argc)

lemma invoke_eq_all (m : MethodDecl) (typeArg : Option Ident) :
    invoke m typeArg = Piece.all [invocation m typeArg] := by
  unfold invoke invocation callOperations callOperation
  cases m.argumentCount with
  | error e => rfl
  | ok argc =>
    cases m.isStatic <;> cases typeArg.filter fun _ => m.isGeneric <;> cases m.returnsValue <;>
      simp [Piece.all, Operation.all, Operation.perform]

lemma emits_callOperations (m : MethodDecl) (typeArg : Option Ident) (argc : UInt8) :
    (callOperations m typeArg argc).all (·.emits) = true := by
  unfold callOperations callOperation
  cases m.isStatic <;> cases typeArg.filter fun _ => m.isGeneric <;> cases m.returnsValue <;> rfl

lemma emitting_invocation (m : MethodDecl) (typeArg : Option Ident) :
    (invocation m typeArg).Emitting := by
  unfold invocation
  cases m.argumentCount with
  | error e => exact fun _ h => by cases h
  | ok argc => exact Piece.emitting_ok (emits_callOperations m typeArg argc)

lemma invoke_eq {m : MethodDecl} (hm : m.HasShape false 3 0) (typeArg : Option Ident) :
    invoke m typeArg = Operation.all [.callMethod m.id 3, .pop] := by
  have hargc : m.argumentCount = .ok 3 := by simp [MethodDecl.argumentCount, hm.params]
  have hgeneric : m.isGeneric = false := by simp [MethodDecl.isGeneric, hm.typeParams]
  have hfilter : (typeArg.filter fun _ => false) = none := by cases typeArg <;> rfl
  have hcall : callOperations m typeArg 3 = [.callMethod m.id 3, .pop] := by
    rw [callOperations, callOperation, hm.isStatic, hgeneric, hm.returns, hfilter]
    rfl
  rw [invoke_eq_all, Piece.all_singleton, invocation, hargc, ← hcall]
  rfl

lemma invoke_generic_eq {m : MethodDecl} (hm : m.HasShape false 3 1) (type : Ident) :
    invoke m (some type) = Operation.all [.callMethodGeneric m.id [type] 3, .pop] := by
  have hargc : m.argumentCount = .ok 3 := by simp [MethodDecl.argumentCount, hm.params]
  have hgeneric : m.isGeneric = true := by simp [MethodDecl.isGeneric, hm.typeParams]
  have hcall : callOperations m (some type) 3 = [.callMethodGeneric m.id [type] 3, .pop] := by
    rw [callOperations, callOperation, hm.isStatic, hgeneric, hm.returns]
    rfl
  rw [invoke_eq_all, Piece.all_singleton, invocation, hargc, ← hcall]
  rfl

/-- What unsets the property of an instance on the stack. -/
def unsetOperations (ctx : Context) (field : Ident) : List Operation :=
  [.getStatic field, .getStatic ctx.framework.unsetValue.id, .int 0,
    .callMethod ctx.framework.setValue.id 3, .pop]

lemma unsetTail_eq {ctx : Context} (hfw : ctx.framework.StoreShaped) (field : Ident) :
    unsetTail ctx field = Operation.all (unsetOperations ctx field) := by
  unfold unsetTail
  rw [invoke_eq hfw.setValue none]
  rfl

end Asm

namespace Runtime

variable {V : Type} {rt : Runtime V} {m : MethodDecl} {params : Nat}

lemma effects_invoke (hm : m.HasShape false 3 params) (hrt : rt.Implements m) (x y z inst : V)
    (stack : List V) (locals : Nat → V) (calls : List (Call V)) :
    rt.effects [.callMethod m.id 3, .pop] ⟨z :: y :: x :: inst :: stack, locals, calls⟩ =
      some ⟨stack, locals, calls ++ [⟨m.id, [], some inst, [x, y, z]⟩]⟩ := by
  have hresult := hrt ⟨m.id, [], some inst, [x, y, z]⟩ rfl
  rw [hm.returns, Option.isSome_iff_exists] at hresult
  obtain ⟨r, hr⟩ := hresult
  simp [effects, effect, callMethod?, perform, hr, Machine.pop?]

lemma effects_invoke_generic (hm : m.HasShape false 3 params) (hrt : rt.Implements m)
    (type : Ident) (x y z inst : V) (stack : List V) (locals : Nat → V) (calls : List (Call V)) :
    rt.effects [.callMethodGeneric m.id [type] 3, .pop]
        ⟨z :: y :: x :: inst :: stack, locals, calls⟩ =
      some ⟨stack, locals, calls ++ [⟨m.id, [type], some inst, [x, y, z]⟩]⟩ := by
  have hresult := hrt ⟨m.id, [type], some inst, [x, y, z]⟩ rfl
  rw [hm.returns, Option.isSome_iff_exists] at hresult
  obtain ⟨r, hr⟩ := hresult
  simp [effects, effect, callMethod?, perform, hr, Machine.pop?]

lemma effects_unset {ctx : Context} (hfw : ctx.framework.StoreShaped)
    (hrt : rt.HasStore ctx.framework) (field : Ident) (inst : V) (stack : List V)
    (locals : Nat → V) (calls : List (Call V)) :
    rt.effects (Asm.unsetOperations ctx field) ⟨inst :: stack, locals, calls⟩ =
      some ⟨stack, locals, calls ++ [⟨ctx.framework.setValue.id, [], some inst,
        [rt.static field, rt.static ctx.framework.unsetValue.id, rt.load (.int 0)]⟩]⟩ := by
  simp only [Asm.unsetOperations, effects_getStatic, effects_int,
    effects_invoke hfw.setValue hrt.setValue]

end Runtime

end PropertyLowering
