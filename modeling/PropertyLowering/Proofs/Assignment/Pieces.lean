import PropertyLowering.Proofs.Assembler.Pieces
import PropertyLowering.Proofs.Assignment.Arguments

/-!
Assignments as pieces of code, whatever methods the framework has.

How many arguments a method takes shows only when it is called, after its operands were emitted. So
the call is a piece of its own, and it may be the one that complains.
-/

namespace PropertyLowering

namespace Value

open Asm

/-- The pieces that pass a value where a type is expected, after it was found to fit. -/
def passed (ctx : Context) (v : Value) (expected : Ident) : List Piece :=
  (do v.check ctx.catalog expected; .ok []) :: v.pieces ctx

lemma argument_eq_all (ctx : Context) (v : Value) (expected : Ident) :
    Asm.argument ctx v expected = Piece.all (v.passed ctx expected) := by
  unfold Asm.argument passed
  rw [push_eq_all]
  cases v.check ctx.catalog expected <;> simp [Piece.all, Operation.all]

lemma emitting_passed (ctx : Context) (v : Value) (expected : Ident) :
    ∀ c ∈ v.passed ctx expected, c.Emitting := by
  refine List.forall_mem_cons.mpr ⟨?_, v.emitting_pieces ctx⟩
  exact (Piece.emitting_ok rfl).check _

end Value

namespace Setter

open Asm

/-- The method that an assignment calls. -/
def entry (ctx : Context) (s : Setter) : MethodDecl :=
  match s.convention with
  | .unset => ctx.framework.setValue
  | .binding | .bindingWithPriority => ctx.framework.bind
  | .plain | .plainWithPriority => ctx.framework.setStyledValue

/-- The type argument of the call, should the method be generic. -/
def typeArg (s : Setter) : Option Ident :=
  match s.convention with
  | .plain | .plainWithPriority => some s.property.valueType
  | .unset | .binding | .bindingWithPriority => none

/-- What inline code emits before the call, with the slots of the spilled operands. -/
def prepared (ctx : Context) (s : Setter) (slots : List Nat) : List Operation :=
  let field := s.property.field.id
  match s.convention, slots with
  | .unset, [] => [.pop, .getStatic field, .getStatic ctx.framework.unsetValue.id, .int 0]
  | .binding, [binding] => [.setLocal binding, .getStatic field, .getLocal binding, .null]
  | .bindingWithPriority, [binding] =>
    [.setLocal binding, .pop, .getStatic field, .getLocal binding, .null]
  | .plain, [value] => [.setLocal value, .getStatic field, .getLocal value, .int 0]
  | .plainWithPriority, [value, priority] =>
    [.setLocal value, .setLocal priority, .getStatic field, .getLocal value, .getLocal priority]
  | _, _ => []

/-- The pieces of inline code. -/
def inlinePieces (ctx : Context) (s : Setter) (slots : List Nat) : List Piece :=
  [.ok (s.prepared ctx slots), invocation (s.entry ctx) s.typeArg]

lemma inline_eq_all (ctx : Context) (s : Setter) :
    s.inline ctx = withSlots (s.spilled ctx) fun slots => Piece.all (s.inlinePieces ctx slots) := by
  obtain ⟨convention, _⟩ := s
  cases convention <;>
    simp [inline, unsetTail, invoke_eq_all, inlinePieces, Piece.all_cons_ok, withSlots, spilled,
      prepared, entry, typeArg, Operation.all, Operation.perform, Convention.hasPriority]

/-- The pieces for arguments before the call. -/
def preparedArguments (ctx : Context) (s : Setter) (args : List Value) : List Piece :=
  let fw := ctx.framework
  let field := s.property.field.id
  let valueType := s.property.valueType
  match s.convention, args with
  | .unset, v :: _ =>
    [do v.check ctx.catalog fw.unsetValueType
        .ok [.getStatic field, .getStatic fw.unsetValue.id, .int 0]]
  | .binding, v :: _ | .bindingWithPriority, _ :: v :: _ =>
    .ok [.getStatic field] :: v.passed ctx fw.binding ++ [.ok [.null]]
  | .plainWithPriority, priority :: value :: _ =>
    .ok [.getStatic field] :: value.passed ctx valueType ++ priority.passed ctx fw.bindingPriority
  | .plain, value :: _ =>
    .ok [.getStatic field] :: value.passed ctx valueType ++ [.ok [.int 0]]
  | _, _ => [.error (s.countError args)]

/-- The pieces of code from arguments. -/
def passedPieces (ctx : Context) (s : Setter) (args : List Value) : List Piece :=
  if args.length ≠ s.arity then [.error (s.countError args)]
  else s.preparedArguments ctx args ++ [invocation (s.entry ctx) s.typeArg]

lemma withArguments_eq_all (ctx : Context) (s : Setter) (args : List Value) :
    s.withArguments ctx args = Piece.all (s.passedPieces ctx args) := by
  obtain ⟨convention, _⟩ := s
  simp only [withArguments, passedPieces]
  split_ifs with hlen
  · rfl
  · simp only [unsetTail, invoke_eq_all, Value.argument_eq_all, Piece.all_append]
    cases convention <;> rcases args with _ | ⟨v, _ | ⟨w, args⟩⟩ <;>
      simp [preparedArguments, Piece.all, Piece.all_append, entry, typeArg, Operation.all,
        Operation.perform]

lemma emits_prepared (ctx : Context) (s : Setter) (slots : List Nat) :
    (s.prepared ctx slots).all (·.emits) = true := by
  unfold prepared
  split <;> rfl

lemma emitting_inlinePieces (ctx : Context) (s : Setter) (slots : List Nat) :
    ∀ c ∈ s.inlinePieces ctx slots, c.Emitting := by
  have hprepared := Piece.emitting_ok (s.emits_prepared ctx slots)
  exact List.forall_mem_cons.mpr
    ⟨hprepared, List.forall_mem_singleton.mpr (emitting_invocation _ _)⟩

lemma emitting_preparedArguments (ctx : Context) (s : Setter) (args : List Value) :
    ∀ c ∈ s.preparedArguments ctx args, c.Emitting := by
  have hargument := fun (v : Value) (expected : Ident) => v.emitting_passed ctx expected
  unfold preparedArguments
  split <;> simp only [List.cons_append, List.forall_mem_cons, List.forall_mem_append]
  · exact ⟨(Piece.emitting_ok rfl).check _, List.forall_mem_nil _⟩
  · exact ⟨Piece.emitting_ok rfl, hargument _ _, Piece.emitting_ok rfl, List.forall_mem_nil _⟩
  · exact ⟨Piece.emitting_ok rfl, hargument _ _, Piece.emitting_ok rfl, List.forall_mem_nil _⟩
  · exact ⟨Piece.emitting_ok rfl, hargument _ _, hargument _ _⟩
  · exact ⟨Piece.emitting_ok rfl, hargument _ _, Piece.emitting_ok rfl, List.forall_mem_nil _⟩
  · exact ⟨fun _ h => by (cases h), List.forall_mem_nil _⟩

lemma emitting_passedPieces (ctx : Context) (s : Setter) (args : List Value) :
    ∀ c ∈ s.passedPieces ctx args, c.Emitting := by
  unfold passedPieces
  split_ifs
  · exact List.forall_mem_singleton.mpr fun _ h => by cases h
  · refine List.forall_mem_append.mpr ⟨s.emitting_preparedArguments ctx args, ?_⟩
    exact List.forall_mem_singleton.mpr (emitting_invocation _ _)

end Setter

end PropertyLowering
