import PropertyLowering.Proofs.Assignment.Invoke

/-!
The code of values.

Each value has its own few operations, whatever it is pushed for, and executing them pushes one
value. Only a property without descriptor field has none.
-/

namespace PropertyLowering

/-- The operations that push a value, or the complaint that there are none. -/
def Value.code (ctx : Context) : Value → Piece
  | .stored slot _ _ => .ok [.getLocal slot]
  | .null _ => .ok [.null]
  | .property n =>
    match n.descriptor with
    | .field p => .ok [.getStatic p.field.id]
    | .accessors p =>
      match ctx.descriptorField? p.owner p.name with
      | some field => .ok [.getStatic field.id]
      | none => .error (.notAStyledProperty p.name n.span)
    | .selector className => .ok [.string className, .call ctx.framework.hasClass.id 1]
  | .literal (.int n) _ => .ok [.int n]
  | .literal c _ => .ok [.constant c]

lemma Value.emitting_code (ctx : Context) (v : Value) : (v.code ctx).Emitting := by
  intro ops h
  rw [← List.all_eq_true]
  unfold code at h
  split at h <;> (try split at h) <;> (try split at h) <;> cases h <;> rfl

namespace Value

open Asm

/-- The pieces that push a value. A class is looked up by a method, which may be the one to
complain. -/
def pieces (ctx : Context) (v : Value) : List Piece :=
  match v with
  | .property ⟨.selector className, _, _, _, _, _⟩ =>
    [.ok [.string className], do
      let argc ← ctx.framework.hasClass.argumentCount
      .ok [.call ctx.framework.hasClass.id argc]]
  | v => [v.code ctx]

lemma push_eq_all (ctx : Context) (v : Value) : push ctx v = Piece.all (v.pieces ctx) := by
  cases v with
  | stored slot type span => simp [pieces, code, push, Piece.all, Operation.perform]
  | null span => simp [pieces, code, push, Piece.all, Operation.perform]
  | literal c type =>
    cases c <;> simp [pieces, code, push, Piece.all, Operation.perform]
  | property n =>
    obtain ⟨d, staticType, valueType, params, setters, span⟩ := n
    cases d with
    | field p => simp [pieces, code, push, node, Piece.all, Operation.perform]
    | accessors p =>
      cases hfield : ctx.descriptorField? p.owner p.name <;>
        simp [pieces, code, push, node, propertyField, hfield, Piece.all, Operation.perform]
    | selector className =>
      cases hargc : ctx.framework.hasClass.argumentCount <;>
        simp [pieces, push, node, selector, hargc, Piece.all, Operation.perform]

lemma emitting_pieces (ctx : Context) (v : Value) : ∀ c ∈ v.pieces ctx, c.Emitting := by
  unfold pieces
  split
  · refine List.forall_mem_cons.mpr ⟨Piece.emitting_ok rfl, List.forall_mem_singleton.mpr ?_⟩
    cases ctx.framework.hasClass.argumentCount with
    | error e => exact fun _ h => by cases h
    | ok argc => exact Piece.emitting_ok rfl
  · exact List.forall_mem_singleton.mpr (v.emitting_code ctx)

end Value

namespace Asm

lemma push_eq {ctx : Context} (hclass : ctx.framework.hasClass.HasShape true 1 0) (v : Value) :
    push ctx v = (do Operation.all (← v.code ctx)) := by
  have hargc : ctx.framework.hasClass.argumentCount = .ok 1 := by
    simp [MethodDecl.argumentCount, hclass.params]
  rw [v.push_eq_all]
  unfold Value.pieces
  split
  · rw [hargc]
    exact Piece.all_map_ok [_, _]
  · exact Piece.all_singleton _

lemma gains_push {ctx : Context} (hclass : ctx.framework.hasClass.HasShape true 1 0) {v : Value}
    {a b : Assembler} (h : outcome (push ctx v) a = (.ok (), b)) :
    ∃ ops, v.code ctx = .ok ops ∧ a.Gains b ops := by
  rw [push_eq hclass] at h
  cases hcode : v.code ctx with
  | error e =>
    rw [hcode, liftExcept_error_bind] at h
    cases (Prod.mk.inj h).1
  | ok ops =>
    rw [hcode, liftExcept_ok_bind] at h
    exact ⟨ops, rfl, (Operation.emits_all (Value.emitting_code ctx v ops hcode) a () b h).1⟩

end Asm

namespace Runtime

variable {V : Type} (rt : Runtime V)

/-- The operations push a value and leave the rest as it is, apart from calls that are made on no
instance. -/
def Yields (locals : Nat → V) (ops : List Operation) (x : V) : Prop :=
  ∀ stack calls, ∃ made : List (Call V), (∀ c ∈ made, c.receiver = none) ∧
    rt.effects ops ⟨stack, locals, calls⟩ = some ⟨x :: stack, locals, calls ++ made⟩

/-- So does the code of the value, wherever it was emitted. -/
def Pushes (ctx : Context) (locals : Nat → V) (v : Value) (x : V) : Prop :=
  ∀ a b, Asm.outcome (Asm.push ctx v) a = (.ok (), b) → ∀ later stack calls,
    ∃ made : List (Call V), (∀ c ∈ made, c.receiver = none) ∧
      rt.execute (b.pool.addAll later) b.chunk a.chunk.size ⟨stack, locals, calls⟩ =
        some ⟨x :: stack, locals, calls ++ made⟩

variable {rt}

lemma yields_of_effects {locals : Nat → V} {ops : List Operation} {x : V}
    (h : ∀ stack calls,
      rt.effects ops ⟨stack, locals, calls⟩ = some ⟨x :: stack, locals, calls⟩) :
    rt.Yields locals ops x := by
  intro stack calls
  exact ⟨[], by simp, by rw [h, List.append_nil]⟩

lemma yields_selector {m : MethodDecl} (hm : m.HasShape true 1 0) (hrt : rt.Implements m)
    (locals : Nat → V) (className : String) :
    ∃ x, rt.Yields locals [.string className, .call m.id 1] x := by
  let call : Call V := ⟨m.id, [], none, [rt.load (.ofString className)]⟩
  have hresult := hrt call rfl
  rw [hm.returns, Option.isSome_iff_exists] at hresult
  obtain ⟨x, hx⟩ := hresult
  refine ⟨x, fun stack calls => ⟨[call], by simp [call], ?_⟩⟩
  rw [effects_string]
  simp [effects, effect, call?, perform, call, hx]

lemma exists_yields {ctx : Context} (hclass : ctx.framework.hasClass.HasShape true 1 0)
    (hrt : rt.Implements ctx.framework.hasClass) (locals : Nat → V) {v : Value}
    {ops : List Operation} (h : v.code ctx = .ok ops) : ∃ x, rt.Yields locals ops x := by
  unfold Value.code at h
  split at h
  · cases h
    exact ⟨_, yields_of_effects fun _ _ => rfl⟩
  · cases h
    exact ⟨_, yields_of_effects fun _ _ => rfl⟩
  · split at h
    · cases h
      exact ⟨_, yields_of_effects fun _ _ => rfl⟩
    · split at h
      · cases h
        exact ⟨_, yields_of_effects fun _ _ => rfl⟩
      · cases h
    · cases h
      exact yields_selector hclass hrt locals _
  · cases h
    exact ⟨_, yields_of_effects fun _ _ => rfl⟩
  · cases h
    exact ⟨_, yields_of_effects fun _ _ => rfl⟩

lemma Yields.pushes {ctx : Context} (hclass : ctx.framework.hasClass.HasShape true 1 0)
    {locals : Nat → V} {v : Value} {ops : List Operation} (hcode : v.code ctx = .ok ops) {x : V}
    (h : rt.Yields locals ops x) : rt.Pushes ctx locals v x := by
  intro a b hab later stack calls
  obtain ⟨ops', hcode', hgains⟩ := Asm.gains_push hclass hab
  obtain rfl := Except.ok.inj (hcode.symm.trans hcode')
  rw [execute_of_gains hgains (b.pool.extends_addAll later)]
  exact h stack calls

lemma Pushes.yields {ctx : Context} (hclass : ctx.framework.hasClass.HasShape true 1 0)
    {locals : Nat → V} {v : Value} {x : V} (h : rt.Pushes ctx locals v x) {ops : List Operation}
    (hops : Piece.Performed (v.code ctx) ops) : rt.Yields locals ops x := by
  obtain ⟨hcode, a, b, hab⟩ := hops
  have hpush : Asm.outcome (Asm.push ctx v) a = (.ok (), b) := by
    rw [Asm.push_eq hclass, hcode, Asm.liftExcept_ok_bind, hab]
  intro stack calls
  obtain ⟨made, hmade, hexec⟩ := h a b hpush [] stack calls
  have hgains := (Operation.emits_all (Value.emitting_code ctx v ops hcode) a () b hab).1
  rw [execute_of_gains hgains (b.pool.extends_addAll [])] at hexec
  exact ⟨made, hmade, hexec⟩

/-- **The code of a value pushes one value**, the same wherever it is emitted and whatever is on
the stack. -/
theorem exists_pushes {ctx : Context} (hclass : ctx.framework.hasClass.HasShape true 1 0)
    (hrt : rt.Implements ctx.framework.hasClass) (locals : Nat → V) (v : Value) :
    ∃ x, rt.Pushes ctx locals v x := by
  cases hcode : v.code ctx with
  | ok ops =>
    obtain ⟨x, hx⟩ := exists_yields hclass hrt locals hcode
    exact ⟨x, hx.pushes hclass hcode⟩
  | error e =>
    -- The value is never pushed.
    refine ⟨rt.null, fun a b hab => ?_⟩
    obtain ⟨ops, hops, -⟩ := Asm.gains_push hclass hab
    rw [hcode] at hops
    cases hops

end Runtime

end PropertyLowering
