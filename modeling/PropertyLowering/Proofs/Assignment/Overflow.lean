import PropertyLowering.Proofs.Assignment.Pieces
import PropertyLowering.Proofs.Assignment.Selection

/-!
Assignments that fail.

Main statement: inline code fails exactly when a slot, the index of a constant or a number of
arguments does not fit its operand, and whatever assignment fails leaves whole instructions behind
what was there, the constants at their indices and the same slots held.
-/

namespace PropertyLowering

namespace Chunk

/-- The code from an offset on, as a chunk of its own. -/
def drop (c : Chunk) (n : Nat) : Chunk := ⟨c.cells.extract n c.cells.size⟩

lemma code_drop (c : Chunk) (n : Nat) : (c.drop n).code = c.code.drop n := by
  simp [drop, code, List.take_of_length_le]

end Chunk

namespace Operation

/-- The constants that operations refer to, in their order. -/
def constants (ops : List Operation) : List Constant :=
  ops.filterMap fun op =>
    match op.referent with
    | .constant c => some c
    | .none | .slot _ => none

lemma fit_iff {ops : List Operation} {p : Pool} :
    Fit ops p ↔ (∀ op ∈ ops, ∀ n, op.referent = .slot n → n ≤ 65535) ∧
      ∀ c ∈ constants ops, ∀ i, (p.addAll (constants ops)).get? i = some c → i ≤ 65535 := by
  induction ops generalizing p with
  | nil => simp [Fit, constants]
  | cons op ops ih =>
    rw [Fit, ih, Overflows, List.forall_mem_cons]
    cases hop : op.referent with
    | none => simp [constants, hop, Referent.number, Referent.stored]
    | slot n => simp [constants, hop, Referent.number, Referent.stored, and_assoc]
    | constant c =>
      have hcons : constants (op :: ops) = c :: constants ops := by simp [constants, hop]
      have hindex : ((p.add c).2.addAll (constants ops)).get? (p.add c).1 = some c :=
        Pool.extends_addAll _ _ _ _ (p.get?_add c)
      have hc : (∀ i, ((p.add c).2.addAll (constants ops)).get? i = some c → i ≤ 65535) ↔
          (p.add c).1 ≤ 65535 := by
        constructor
        · exact fun h => h _ hindex
        · intro h i hi
          rwa [Pool.get?_inj hi hindex]
      have haddAll : p.addAll (c :: constants ops) = (p.add c).2.addAll (constants ops) := rfl
      rw [hcons, List.forall_mem_cons, haddAll, hc]
      simp only [Referent.number, Referent.stored, Nat.not_lt, reduceCtorEq, false_implies,
        implies_true, true_and]
      exact and_left_comm

end Operation

namespace Assembler

/-- `b` is `a` with whole instructions emitted that do the operations, and else as it was: what
stood in the chunk and in the pool is still there, and the same leases are held. -/
structure Cut (a b : Assembler) (done : List Operation) (is : List Instr) : Prop where
  code : b.chunk.code = a.chunk.code ++ Instr.code is
  lines : a.chunk.lines <+: b.chunk.lines
  /-- The operand of each instruction is the one that was asked for. -/
  encodes : List.Forall₂ (fun op i => op.Encodes b.pool i) done is
  instructions : (b.chunk.drop a.chunk.size).instructions =
    (Instr.layout 0 is).map fun x => (x.1, x.2.opcode)
  instrAt : ∀ x ∈ Instr.layout 0 is, (b.chunk.drop a.chunk.size).instrAt? x.1 = some x.2
  /-- The chunk as a whole is taken apart where the old code was whole. -/
  whole : ∀ js, a.chunk.code = Instr.code js → b.chunk.instructions =
    a.chunk.instructions ++ (Instr.layout a.chunk.size is).map fun x => (x.1, x.2.opcode)
  pool : a.pool.Extends b.pool
  held : b.slots.held = a.slots.held
  live : ∀ base live, Slots.Holding base live a.slots → Slots.Holding base live b.slots

lemma Gains.cut {a b : Assembler} {done : List Operation} (h : a.Gains b done)
    (hslots : a.slots.Restored b.slots) : ∃ is, Cut a b done is := by
  obtain ⟨es, is, h, rfl⟩ := h
  have hcode : (b.chunk.drop a.chunk.size).code = Instr.code is := by
    rw [Chunk.code_drop, h.code, ← Chunk.length_code, List.drop_left]
  obtain ⟨hinstructions, hinstrAt⟩ := Operation.instructions_of_code hcode
  refine ⟨is, h.code, ⟨_, h.lines.symm⟩, ?_, hinstructions, hinstrAt, fun js hjs => ?_, h.pool,
    hslots.held, hslots.live⟩
  · rw [List.forall₂_map_left_iff, ← Instr.map_snd_layout a.chunk.size is,
      List.forall₂_map_right_iff]
    exact h.laid.imp fun e x hx => hx.2
  · have hwhole : b.chunk.code = Instr.code (js ++ is) := by
      rw [h.code, hjs, Instr.code_append]
    have hsize : (Instr.code js).length = a.chunk.size := by
      rw [← hjs, Chunk.length_code]
    rw [(Operation.instructions_of_code hwhole).1, (Operation.instructions_of_code hjs).1,
      Instr.layout_append, List.map_append, Nat.zero_add, hsize]

end Assembler

namespace Asm

lemma failsBy_withSlots {P : CompileError → Prop} {types : List Ident}
    {body : List Nat → Asm α} (hbody : ∀ slots, (body slots).FailsBy P) :
    (withSlots types body).FailsBy P := by
  intro a e b h
  have hfst : (outcome (withSlots types body) a).1 = .error e := by rw [h]
  rw [fst_outcome_withSlots] at hfst
  exact hbody _ _ e _ (Prod.ext hfst rfl)

lemma referent_callOperation (m : MethodDecl) (typeArg : Option Ident) (argc : UInt8) :
    (callOperation m typeArg argc).referent = .constant (m.callee typeArg) := by
  unfold callOperation MethodDecl.callee
  cases m.isStatic <;> cases typeArg.filter fun _ => m.isGeneric <;> rfl

lemma constants_callOperations (m : MethodDecl) (typeArg : Option Ident) (argc : UInt8) :
    Operation.constants (callOperations m typeArg argc) = [m.callee typeArg] := by
  simp only [Operation.constants, callOperations, List.filterMap_cons, referent_callOperation]
  cases m.returnsValue <;> rfl

lemma referent_callOperations_ne_slot (m : MethodDecl) (typeArg : Option Ident) (argc : UInt8) :
    ∀ op ∈ callOperations m typeArg argc, ∀ n, op.referent ≠ .slot n := by
  refine List.forall_mem_cons.mpr ⟨fun n => by simp [referent_callOperation], ?_⟩
  cases m.returnsValue <;> simp [Operation.referent]

end Asm

namespace Setter

open Asm

/-- The constants that inline code needs. -/
def constants (ctx : Context) (s : Setter) : List Constant :=
  let field := Constant.ident s.property.field.id
  let callee := (s.entry ctx).callee s.typeArg
  match s.convention with
  | .unset => [field, .ident ctx.framework.unsetValue.id, callee]
  | .plain | .plainWithPriority | .binding | .bindingWithPriority => [field, callee]

/-- A slot that is acquired, the index of a constant that is needed or the number of parameters of
the method that is called does not fit its operand. -/
def Exceeds (ctx : Context) (s : Setter) (a : Assembler) : Prop :=
  (∃ n ∈ (a.slots.acquireAll (s.spilled ctx)).1, 65535 < n) ∨
    (∃ c ∈ s.constants ctx, ∃ i, (a.pool.addAll (s.constants ctx)).get? i = some c ∧ 65535 < i) ∨
    255 < (s.entry ctx).params.length

lemma constants_inline (ctx : Context) (s : Setter) {slots : List Nat}
    (hlen : slots.length = (s.spilled ctx).length) (argc : UInt8) :
    Operation.constants (s.prepared ctx slots ++ callOperations (s.entry ctx) s.typeArg argc) =
      s.constants ctx := by
  have hcall := constants_callOperations (s.entry ctx) s.typeArg argc
  unfold Operation.constants at hcall ⊢
  rw [List.filterMap_append, hcall]
  obtain ⟨convention, _⟩ := s
  cases convention with
  | unset =>
    obtain rfl := List.length_eq_zero_iff.mp hlen
    rfl
  | plain | binding | bindingWithPriority =>
    obtain ⟨slot, rfl⟩ := List.length_eq_one_iff.mp hlen
    rfl
  | plainWithPriority =>
    obtain ⟨slot, slot', rfl⟩ := List.length_eq_two.mp hlen
    rfl

lemma exists_slot_prepared_iff (ctx : Context) (s : Setter) {slots : List Nat}
    (hlen : slots.length = (s.spilled ctx).length) (n : Nat) :
    (∃ op ∈ s.prepared ctx slots, op.referent = .slot n) ↔ n ∈ slots := by
  obtain ⟨convention, _⟩ := s
  cases convention with
  | unset =>
    obtain rfl := List.length_eq_zero_iff.mp hlen
    simp [prepared, Operation.referent]
  | plain | binding | bindingWithPriority =>
    obtain ⟨slot, rfl⟩ := List.length_eq_one_iff.mp hlen
    simp [prepared, Operation.referent, eq_comm]
  | plainWithPriority =>
    obtain ⟨slot, slot', rfl⟩ := List.length_eq_two.mp hlen
    simp only [prepared, Operation.referent, List.exists_mem_cons_iff, List.not_mem_nil, eq_comm,
      Referent.slot.injEq, reduceCtorEq, false_and, exists_false, or_false, false_or]
    rw [← or_assoc, or_self, List.mem_pair]

lemma fit_inline (ctx : Context) (s : Setter) {slots : List Nat}
    (hlen : slots.length = (s.spilled ctx).length) (argc : UInt8) (p : Pool) :
    Operation.Fit (s.prepared ctx slots ++ callOperations (s.entry ctx) s.typeArg argc) p ↔
      (∀ n ∈ slots, n ≤ 65535) ∧
        ∀ c ∈ s.constants ctx, ∀ i, (p.addAll (s.constants ctx)).get? i = some c → i ≤ 65535 := by
  rw [Operation.fit_iff, s.constants_inline ctx hlen]
  refine and_congr_left fun _ => ?_
  have hcall := referent_callOperations_ne_slot (s.entry ctx) s.typeArg argc
  simp only [List.forall_mem_append, ← s.exists_slot_prepared_iff ctx hlen]
  constructor
  · rintro ⟨hprepared, -⟩ n ⟨op, hop, hn⟩
    exact hprepared op hop n hn
  · intro hslots
    exact ⟨fun op hop n hn => hslots n ⟨op, hop, hn⟩, fun op hop n hn => absurd hn (hcall op hop n)⟩

lemma inline_ok_iff_not_exceeds (ctx : Context) (s : Setter) (a : Assembler) :
    (outcome (s.inline ctx) a).1 = .ok () ↔ ¬ s.Exceeds ctx a := by
  rw [inline_eq_all, fst_outcome_withSlots, inlinePieces, Piece.all_cons_ok, Piece.all_singleton,
    invocation]
  cases hargc : (s.entry ctx).argumentCount with
  | ok argc =>
    have hroom : ¬ 255 < (s.entry ctx).params.length := fun h => by
      rw [MethodDecl.argumentCount, if_neg (by omega)] at hargc
      cases hargc
    have hemits : ∀ op ∈ s.prepared ctx (a.slots.acquireAll (s.spilled ctx)).1 ++
        callOperations (s.entry ctx) s.typeArg argc, op.emits = true := by
      rw [← List.all_eq_true, List.all_append, emits_prepared, emits_callOperations]
      rfl
    have hfit := s.fit_inline ctx (a.slots.length_acquireAll (s.spilled ctx)) argc a.pool
    change (outcome (do Operation.all _; Operation.all _) _).1 = _ ↔ _
    rw [← Operation.all_append, Operation.ok_all_iff hemits, hfit]
    simp only [Exceeds, hroom, or_false, not_or, not_exists, not_and, Nat.not_lt]
  | error e =>
    have hexceeds : 255 < (s.entry ctx).params.length := by
      by_contra h
      rw [MethodDecl.argumentCount, if_pos (by omega)] at hargc
      cases hargc
    refine iff_of_false (fun hok => ?_) fun h => h (.inr (.inr hexceeds))
    obtain ⟨_, _, -, hcall⟩ := outcome_bind_ok.mp (Prod.ext hok rfl)
    cases (Prod.mk.inj hcall).1

lemma failsBy_inline (ctx : Context) (s : Setter) :
    (s.inline ctx).FailsBy fun e => ∃ reason, e = .internal reason := by
  rw [inline_eq_all]
  refine failsBy_withSlots fun slots => ?_
  refine failsBy_pieces (s.emitting_inlinePieces ctx slots) (fun reason => ⟨reason, rfl⟩) ?_
  intro e hmem
  rw [inlinePieces, List.mem_cons, List.mem_singleton] at hmem
  rcases hmem with hmem | hmem
  · cases hmem
  · exact MethodDecl.error_of_argumentCount hmem.symm

/-- **An assignment that fails leaves whole instructions.** Inline code fails exactly when a slot,
the index of a constant or a number of arguments does not fit its operand, with an internal error.
Whatever the error of inline code or of code from arguments, the first operations of the code were
emitted, each of them in full, and the chunk, the pool and the leases are otherwise as before. -/
theorem inline_fails_iff_and_cut (ctx : Context) (s : Setter) (a : Assembler) :
    ((∃ e b, outcome (s.inline ctx) a = (.error e, b)) ↔ s.Exceeds ctx a) ∧
    (∀ e b, outcome (s.inline ctx) a = (.error e, b) →
      (∃ reason, e = .internal reason) ∧ ∃ done is,
        done <+: Piece.operations (s.inlinePieces ctx (a.slots.acquireAll (s.spilled ctx)).1) ∧
          Assembler.Cut a b done is) ∧
    ∀ args e b, outcome (s.withArguments ctx args) a = (.error e, b) →
      ∃ done is, done <+: Piece.operations (s.passedPieces ctx args) ∧
        Assembler.Cut a b done is := by
  refine ⟨?_, fun e b h => ⟨s.failsBy_inline ctx a e b h, ?_⟩, fun args e b h => ?_⟩
  · rw [← not_iff_not, ← inline_ok_iff_not_exceeds]
    rcases outcome (s.inline ctx) a with ⟨e | u, b⟩ <;> simp
  · rw [inline_eq_all] at h
    obtain ⟨done, hdone, hgains⟩ := emitsFirst_withSlots
      (fun slots => Piece.emitsFirst_all (s.emitting_inlinePieces ctx slots)) h
    have hrestores := Restores.withSlots
      (fun slots => Piece.restores_all (s.emitting_inlinePieces ctx slots)) a _ b h
    obtain ⟨is, hcut⟩ := hgains.cut hrestores.2
    exact ⟨done, is, hdone, hcut⟩
  · rw [withArguments_eq_all] at h
    have hemitting := s.emitting_passedPieces ctx args
    obtain ⟨done, hdone, hgains, -⟩ := Piece.emitsFirst_all hemitting a _ b h
    obtain ⟨is, hcut⟩ := hgains.cut (Piece.restores_all hemitting a _ b h).2
    exact ⟨done, is, hdone, hcut⟩

/-- From the last slot on, the first of two spilled operands has a slot in range and the second has
none. -/
theorem inline_cut_at_last_slot :
    let ctx := Context.declared .customary []
    let p := FieldProperty.declared .customary FrameworkNames.customary.bindingPriority
    let s := p.setter ctx .plainWithPriority 2
    let a := Assembler.start .empty 65535
    ∃ reason b done is, outcome (s.inline ctx) a = (.error (.internal reason), b) ∧
      Assembler.Cut a b done is := by
  intro ctx p s a
  obtain ⟨hfails, hinline, -⟩ := inline_fails_iff_and_cut ctx s a
  have hslots : (a.slots.acquireAll (s.spilled ctx)).1 = [65535, 65536] :=
    Slots.acquireAll_of_freeOf _ (Slots.freeOf_startingAt 65535)
  have hexceeds : s.Exceeds ctx a := by
    refine .inl ⟨65536, ?_, by decide⟩
    rw [hslots]
    exact List.mem_cons_of_mem _ (List.mem_singleton_self _)
  obtain ⟨e, b, h⟩ := hfails.mpr hexceeds
  obtain ⟨⟨reason, rfl⟩, done, is, -, hcut⟩ := hinline e b h
  exact ⟨reason, b, done, is, h, hcut⟩

end Setter

end PropertyLowering
