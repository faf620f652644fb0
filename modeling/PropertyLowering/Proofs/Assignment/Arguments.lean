import Mathlib.Data.List.Forall2
import PropertyLowering.Proofs.Assignment.Inline
import PropertyLowering.Proofs.Assignment.Values
import PropertyLowering.Proofs.Catalog.Walks

/-!
Assignments from arguments on the machine.

Main statement: code that a setter emitted for arguments makes the same call as its inline code
makes for the values that the arguments push.
-/

namespace PropertyLowering

/-- How many of the first operands the call does not depend on: the unset value is implied, and the
priority of a binding is dropped. -/
def Convention.dropped : Convention → Nat
  | .unset | .bindingWithPriority => 1
  | .plain | .plainWithPriority | .binding => 0

/-- The operations that pass a value where a type is expected, if it fits. -/
def Value.argumentCode (ctx : Context) (v : Value) (expected : Ident) : Piece := do
  v.check ctx.catalog expected
  v.code ctx

namespace Piece

lemma eq_ok_of_check {check : Except CompileError Unit} {c : Piece} {ops : List Operation}
    (h : (do check; c) = .ok ops) : c = .ok ops := by
  cases check with
  | error e => cases h
  | ok _ => exact h

lemma Emitting.check {c : Piece} (h : c.Emitting) (check : Except CompileError Unit) :
    Emitting (do check; c) := fun ops hops => h ops (eq_ok_of_check hops)

end Piece

namespace Runtime

variable {V : Type} {rt : Runtime V} {ctx : Context} {locals : Nat → V} {v : Value} {x : V}
  {expected : Ident}

lemma Pushes.effects_append (hclass : ctx.framework.hasClass.HasShape true 1 0)
    (h : rt.Pushes ctx locals v x) {ops : List Operation}
    (hops : Piece.Performed (v.argumentCode ctx expected) ops) (stack : List V)
    (calls : List (Call V)) :
    ∃ made : List (Call V), (∀ c ∈ made, c.receiver = none) ∧ ∀ rest,
      rt.effects (ops ++ rest) ⟨stack, locals, calls⟩ =
        rt.effects rest ⟨x :: stack, locals, calls ++ made⟩ := by
  obtain ⟨made, hmade, heffects⟩ :=
    h.yields hclass ⟨Piece.eq_ok_of_check hops.1, hops.2⟩ stack calls
  refine ⟨made, hmade, fun rest => ?_⟩
  rw [Runtime.effects_append, heffects, Option.bind_some]

lemma Pushes.effects_passed (hclass : ctx.framework.hasClass.HasShape true 1 0)
    (h : rt.Pushes ctx locals v x) {field : Ident} {tail : List Operation}
    {codes : List (List Operation)}
    (hcodes : List.Forall₂ Piece.Performed
      [.ok [.getStatic field], v.argumentCode ctx expected, .ok tail] codes)
    (inst : V) (stack : List V) (calls : List (Call V)) :
    ∃ made : List (Call V), (∀ c ∈ made, c.receiver = none) ∧
      rt.effects codes.flatten ⟨inst :: stack, locals, calls⟩ =
        rt.effects tail ⟨x :: rt.static field :: inst :: stack, locals, calls ++ made⟩ := by
  simp only [List.forall₂_cons_left_iff, List.forall₂_nil_left_iff] at hcodes
  obtain ⟨_, _, hfield, ⟨ops, _, hops, ⟨_, _, htail, rfl, rfl⟩, rfl⟩, rfl⟩ := hcodes
  obtain rfl := hfield.eq
  obtain rfl := htail.eq
  obtain ⟨made, hmade, heffects⟩ :=
    h.effects_append hclass hops (rt.static field :: inst :: stack) calls
  refine ⟨made, hmade, ?_⟩
  simp [heffects]

end Runtime

namespace Setter

open Asm

/-- What is emitted for arguments, piece by piece. -/
def argumentPieces (ctx : Context) (s : Setter) (args : List Value) : List Piece :=
  let fw := ctx.framework
  let field := s.property.field.id
  let valueType := s.property.valueType
  match s.convention, args with
  | .unset, [v] => [do v.check ctx.catalog fw.unsetValueType; .ok (unsetOperations ctx field)]
  | .binding, [v] | .bindingWithPriority, [_, v] =>
    [.ok [.getStatic field], v.argumentCode ctx fw.binding,
      .ok [.null, .callMethod fw.bind.id 3, .pop]]
  | .plain, [v] =>
    [.ok [.getStatic field], v.argumentCode ctx valueType,
      .ok [.int 0, .callMethodGeneric fw.setStyledValue.id [valueType] 3, .pop]]
  | .plainWithPriority, [priority, v] =>
    [.ok [.getStatic field], v.argumentCode ctx valueType,
      priority.argumentCode ctx fw.bindingPriority,
      .ok [.callMethodGeneric fw.setStyledValue.id [valueType] 3, .pop]]
  | _, _ => []

lemma argument_eq {ctx : Context} (hclass : ctx.framework.hasClass.HasShape true 1 0) (v : Value)
    (expected : Ident) :
    argument ctx v expected = (do Operation.all (← v.argumentCode ctx expected)) := by
  unfold argument Value.argumentCode
  rw [push_eq hclass]
  cases v.check ctx.catalog expected <;> rfl

lemma withArguments_eq {ctx : Context} (hfw : ctx.framework.Shaped) {p : FieldProperty}
    {s : Setter} (hs : s ∈ p.setters ctx) {args : List Value} (hlen : args.length = s.arity) :
    s.withArguments ctx args = Piece.all (s.argumentPieces ctx args) := by
  obtain ⟨convention, rank, rfl⟩ := FieldProperty.mem_setters hs
  simp only [withArguments, hlen, ne_eq, not_true, if_false, argument_eq hfw.hasClass,
    invoke_eq hfw.bind, invoke_generic_eq hfw.setStyledValue, unsetTail_eq hfw.toStoreShaped]
  cases convention with
  | unset =>
    obtain ⟨x, rfl⟩ := List.length_eq_one_iff.mp hlen
    simp [FieldProperty.setter, argumentPieces, Piece.all]
  | plain | binding =>
    obtain ⟨x, rfl⟩ := List.length_eq_one_iff.mp hlen
    simp [FieldProperty.setter, argumentPieces, Piece.all, Operation.all, Operation.perform]
  | plainWithPriority | bindingWithPriority =>
    obtain ⟨x, y, rfl⟩ := List.length_eq_two.mp hlen
    simp [FieldProperty.setter, argumentPieces, Piece.all, Operation.all, Operation.perform]

lemma emitting_argumentPieces (ctx : Context) (s : Setter) (args : List Value) :
    ∀ c ∈ s.argumentPieces ctx args, c.Emitting := by
  have hargument := fun (v : Value) (expected : Ident) =>
    (v.emitting_code ctx).check (v.check ctx.catalog expected)
  unfold argumentPieces
  split <;> simp only [List.forall_mem_cons]
  · exact ⟨(Piece.emitting_ok rfl).check _, List.forall_mem_nil _⟩
  · exact ⟨Piece.emitting_ok rfl, hargument _ _, Piece.emitting_ok rfl, List.forall_mem_nil _⟩
  · exact ⟨Piece.emitting_ok rfl, hargument _ _, Piece.emitting_ok rfl, List.forall_mem_nil _⟩
  · exact ⟨Piece.emitting_ok rfl, hargument _ _, Piece.emitting_ok rfl, List.forall_mem_nil _⟩
  · exact ⟨Piece.emitting_ok rfl, hargument _ _, hargument _ _, Piece.emitting_ok rfl,
      List.forall_mem_nil _⟩
  · exact List.forall_mem_nil _

lemma effects_arguments {V : Type} {rt : Runtime V} {ctx : Context} (hfw : ctx.framework.Shaped)
    (hrt : rt.HasStore ctx.framework) {s : Setter} {locals : Nat → V} {args : List Value}
    {codes : List (List Operation)}
    (hcodes : List.Forall₂ Piece.Performed (s.argumentPieces ctx args) codes) {operands : List V}
    (hlen : args.length = operands.length)
    (hpushes : List.Forall₂ (rt.Pushes ctx locals) (args.drop s.convention.dropped)
      (operands.drop s.convention.dropped))
    {inst : V} {call : Call V} (hcall : s.call? rt ctx inst operands = some call)
    (stack : List V) (calls : List (Call V)) :
    ∃ made : List (Call V), (∀ c ∈ made, c.receiver = none) ∧
      rt.effects codes.flatten ⟨inst :: stack, locals, calls⟩ =
        some ⟨stack, locals, calls ++ made ++ [call]⟩ := by
  obtain ⟨convention, _, _, _, _, _, p⟩ := s
  have hgeneric := @Runtime.effects_invoke_generic V rt _ _ hfw.setStyledValue hrt.setStyledValue
  have hbind := @Runtime.effects_invoke V rt _ _ hfw.bind hrt.bind
  cases convention with
  | unset =>
    match operands, hcall with
    | [x], rfl =>
      obtain ⟨v, rfl⟩ := List.length_eq_one_iff.mp hlen
      simp only [argumentPieces, List.forall₂_cons_left_iff, List.forall₂_nil_left_iff] at hcodes
      obtain ⟨ops, _, hops, rfl, rfl⟩ := hcodes
      obtain rfl := Except.ok.inj (Piece.eq_ok_of_check hops.1)
      refine ⟨[], by simp, ?_⟩
      simp [Runtime.effects_unset hfw.toStoreShaped hrt]
  | plain =>
    match operands, hcall with
    | [x], rfl =>
      obtain ⟨v, rfl⟩ := List.length_eq_one_iff.mp hlen
      obtain ⟨hpush, -⟩ := List.forall₂_cons.mp hpushes
      obtain ⟨made, hmade, heffects⟩ :=
        hpush.effects_passed hfw.hasClass hcodes inst stack calls
      refine ⟨made, hmade, ?_⟩
      rw [heffects, Runtime.effects_int, hgeneric]
  | binding =>
    match operands, hcall with
    | [x], rfl =>
      obtain ⟨v, rfl⟩ := List.length_eq_one_iff.mp hlen
      obtain ⟨hpush, -⟩ := List.forall₂_cons.mp hpushes
      obtain ⟨made, hmade, heffects⟩ :=
        hpush.effects_passed hfw.hasClass hcodes inst stack calls
      refine ⟨made, hmade, ?_⟩
      rw [heffects, Runtime.effects_null, hbind]
  | bindingWithPriority =>
    match operands, hcall with
    | [_, x], rfl =>
      obtain ⟨_, v, rfl⟩ := List.length_eq_two.mp hlen
      obtain ⟨hpush, -⟩ := List.forall₂_cons.mp hpushes
      obtain ⟨made, hmade, heffects⟩ :=
        hpush.effects_passed hfw.hasClass hcodes inst stack calls
      refine ⟨made, hmade, ?_⟩
      rw [heffects, Runtime.effects_null, hbind]
  | plainWithPriority =>
    match operands, hcall with
    | [y, x], rfl =>
      obtain ⟨w, v, rfl⟩ := List.length_eq_two.mp hlen
      obtain ⟨hpriority, hvalue⟩ := List.forall₂_cons.mp hpushes
      obtain ⟨hpush, -⟩ := List.forall₂_cons.mp hvalue
      simp only [argumentPieces, List.forall₂_cons_left_iff, List.forall₂_nil_left_iff] at hcodes
      obtain ⟨_, _, hfield, ⟨ops, _, hops, ⟨ops', _, hops', ⟨_, _, htail, rfl, rfl⟩, rfl⟩, rfl⟩,
        rfl⟩ := hcodes
      obtain rfl := hfield.eq
      obtain rfl := htail.eq
      -- The value goes first, so the calls that it makes come before those of the priority.
      obtain ⟨made, hmade, heffects⟩ :=
        hpush.effects_append hfw.hasClass hops (rt.static p.field.id :: inst :: stack) calls
      obtain ⟨made', hmade', heffects'⟩ :=
        hpriority.effects_append hfw.hasClass hops' (x :: rt.static p.field.id :: inst :: stack)
          (calls ++ made)
      refine ⟨made ++ made', ?_, ?_⟩
      · intro c hc
        exact (List.mem_append.mp hc).elim (hmade c) (hmade' c)
      · simp [heffects, heffects', hgeneric]

lemma gains_withArguments {ctx : Context} (hfw : ctx.framework.Shaped) {p : FieldProperty}
    {s : Setter} (hs : s ∈ p.setters ctx) {args : List Value} {a b : Assembler}
    (h : outcome (s.withArguments ctx args) a = (.ok (), b)) :
    args.length = s.arity ∧ b.slots = a.slots ∧
      ∃ codes, List.Forall₂ Piece.Performed (s.argumentPieces ctx args) codes ∧
        a.Gains b codes.flatten := by
  have hlen : args.length = s.arity := by
    by_contra hne
    unfold withArguments at h
    rw [if_pos hne] at h
    cases (Prod.mk.inj h).1
  rw [withArguments_eq hfw hs hlen] at h
  exact ⟨hlen, Piece.gains_all (emitting_argumentPieces ctx s args) h⟩

/-- **Both ways of assigning make the same call.** Code from arguments and inline code, each
emitted wherever it may be, make one call on the instance, the same one, if the operands of the
inline code are what the arguments push; an operand that the call does not depend on may be
anything. Both leave what was beneath the instance. Code from arguments touches no slot, and each
value pushes exactly one value. -/
theorem execute_withArguments {V : Type} {rt : Runtime V} {ctx : Context}
    (hfw : ctx.framework.Shaped) (hrt : rt.HasStore ctx.framework)
    (hclass : rt.Implements ctx.framework.hasClass) {p : FieldProperty} {s : Setter}
    (hs : s ∈ p.setters ctx) {args : List Value} {a a' b b' : Assembler}
    (hargs : outcome (s.withArguments ctx args) a = (.ok (), a')) {base : Nat} {live : List Lease}
    (hb : Slots.Holding base live b.slots) (hinline : outcome (s.inline ctx) b = (.ok (), b'))
    (locals : Nat → V) :
    a'.slots = a.slots ∧ (∀ v, ∃ x, rt.Pushes ctx locals v x) ∧
      ∀ (later later' : List Constant) (inst : V) (operands : List V),
        operands.length = args.length →
        List.Forall₂ (rt.Pushes ctx locals) (args.drop s.convention.dropped)
          (operands.drop s.convention.dropped) →
        ∀ (stack : List V) (calls : List (Call V)), ∃ call made locals',
          s.call? rt ctx inst operands = some call ∧ call.receiver = some inst ∧
          (∀ c ∈ made, c.receiver = none) ∧
          rt.execute (a'.pool.addAll later) a'.chunk a.chunk.size ⟨inst :: stack, locals, calls⟩ =
            some ⟨stack, locals, calls ++ made ++ [call]⟩ ∧
          rt.execute (b'.pool.addAll later') b'.chunk b.chunk.size
              ⟨operands.reverse ++ inst :: stack, locals, calls⟩ =
            some ⟨stack, locals', calls ++ [call]⟩ := by
  obtain ⟨hlen, hslots, codes, hcodes, hgains⟩ := gains_withArguments hfw hs hargs
  refine ⟨hslots, Runtime.exists_pushes hfw.hasClass hclass locals, ?_⟩
  intro later later' inst operands hoperands hpushes stack calls
  obtain ⟨-, slots, hslen, hnodup, -, hgains'⟩ := gains_inline hfw.toStoreShaped hb hinline
  obtain ⟨call, hcall⟩ := exists_call rt hs inst (hoperands.trans hlen)
  obtain ⟨made, hmade, heffects⟩ :=
    effects_arguments hfw hrt hcodes hoperands.symm hpushes hcall stack calls
  obtain ⟨locals', -, heffects'⟩ :=
    effects_inline hfw.toStoreShaped hrt hslen hnodup hcall stack locals calls
  refine ⟨call, made, locals', hcall, receiver_of_call hcall, hmade, ?_, ?_⟩
  · calc rt.execute (a'.pool.addAll later) a'.chunk a.chunk.size ⟨inst :: stack, locals, calls⟩
        = rt.effects codes.flatten ⟨inst :: stack, locals, calls⟩ :=
          Runtime.execute_of_gains hgains (a'.pool.extends_addAll later) _
      _ = some ⟨stack, locals, calls ++ made ++ [call]⟩ := heffects
  · calc rt.execute (b'.pool.addAll later') b'.chunk b.chunk.size
            ⟨operands.reverse ++ inst :: stack, locals, calls⟩
        = rt.effects (s.inlineOperations ctx slots)
            ⟨operands.reverse ++ inst :: stack, locals, calls⟩ :=
          Runtime.execute_of_gains hgains' (b'.pool.extends_addAll later') _
      _ = some ⟨stack, locals', calls ++ [call]⟩ := heffects'

theorem execute_withArguments_priority :
    let ctx := Context.declared .customary []
    let p := FieldProperty.declared .customary FrameworkNames.customary.bindingPriority
    let s := p.setter ctx .plainWithPriority 2
    let priority := fun slot => Value.stored slot ctx.framework.bindingPriority .unknown
    let a := (outcome (s.withArguments ctx [priority 0, priority 1]) (.start .empty 2)).2
    let b := (outcome (s.inline ctx) (.start .empty 2)).2
    ∃ call made locals,
      Runtime.numbers.execute a.pool a.chunk 0 ⟨[7, 9], fun slot => slot + 5, []⟩ =
        some ⟨[9], fun slot => slot + 5, made ++ [call]⟩ ∧
      Runtime.numbers.execute b.pool b.chunk 0 ⟨[6, 5, 7, 9], fun slot => slot + 5, []⟩ =
        some ⟨[9], locals, [call]⟩ := by
  intro ctx p s priority a b
  have hfw : ctx.framework.Shaped := Framework.declared_shaped _
  have hrt : Runtime.numbers.HasStore ctx.framework :=
    ⟨fun _ _ => rfl, fun _ _ => rfl, fun _ _ => rfl⟩
  have hs : s ∈ p.setters ctx := List.mem_mapIdx.mpr ⟨2, by decide, rfl⟩
  have hinline : (outcome (s.inline ctx) (.start .empty 2)).1 = .ok () :=
    inline_ok_of_start hfw.toStoreShaped s (by decide) (by decide)
  have hargs : (outcome (s.withArguments ctx [priority 0, priority 1]) (.start .empty 2)).1 =
      .ok () := by
    have hcode : ∀ slot, (priority slot).argumentCode ctx ctx.framework.bindingPriority =
        .ok [.getLocal slot] := by
      intro slot
      have hfits := ctx.catalog.isAssignable_refl ctx.framework.bindingPriority
      simp [Value.argumentCode, Value.check, Value.fits, Value.type?, Value.code, priority, hfits]
      rfl
    let codes : List (List Operation) :=
      [[.getStatic s.property.field.id], [.getLocal 1], [.getLocal 0],
        [.callMethodGeneric ctx.framework.setStyledValue.id [s.property.valueType] 3, .pop]]
    have hpieces : s.argumentPieces ctx [priority 0, priority 1] = codes.map .ok := by
      change [_, (priority 1).argumentCode ctx ctx.framework.bindingPriority,
        (priority 0).argumentCode ctx ctx.framework.bindingPriority, _] = _
      rw [hcode, hcode]
      rfl
    rw [withArguments_eq hfw hs rfl, hpieces, Piece.all_map_ok, Operation.ok_all_iff (by decide)]
    exact Operation.fit_of_room (by simp [codes, Operation.referent]) (by decide)
  have hpushes : ∀ slot, Runtime.numbers.Pushes ctx (fun slot => slot + 5) (priority slot)
      (slot + 5) := fun slot =>
    (Runtime.yields_of_effects fun _ _ => rfl).pushes hfw.hasClass rfl
  obtain ⟨-, -, hagree⟩ :=
    execute_withArguments hfw hrt (fun _ _ => rfl) hs (Prod.ext hargs rfl) .start
      (Prod.ext hinline rfl) (fun slot => slot + 5)
  obtain ⟨call, made, locals, -, -, -, hexec, hexec'⟩ :=
    hagree [] [] 7 [5, 6] rfl (.cons (hpushes 0) (.cons (hpushes 1) .nil)) [9] []
  exact ⟨call, made, locals, hexec, hexec'⟩

end Setter

end PropertyLowering
