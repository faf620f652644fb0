import PropertyLowering.Proofs.Assignment.Invoke

/-!
Inline assignments on the machine.

Main statement: code that a setter emitted for operands on the stack makes the one call that the
setter stands for, on the instance beneath the operands, and leaves what was beneath the instance.
-/

namespace PropertyLowering

namespace Setter

open Asm

/-- The types of the operands that inline code spills. -/
def spilled (ctx : Context) (s : Setter) : List Ident :=
  match s.convention with
  | .unset => []
  | .binding | .bindingWithPriority => [ctx.framework.binding]
  | .plain => [s.property.valueType]
  | .plainWithPriority => [s.property.valueType, ctx.framework.bindingPriority]

/-- What inline code emits, with the slots of the spilled operands. -/
def inlineOperations (ctx : Context) (s : Setter) (slots : List Nat) : List Operation :=
  let fw := ctx.framework
  let field := s.property.field.id
  let valueType := s.property.valueType
  match s.convention, slots with
  | .unset, [] => .pop :: unsetOperations ctx field
  | .binding, [binding] =>
    [.setLocal binding, .getStatic field, .getLocal binding, .null, .callMethod fw.bind.id 3, .pop]
  | .bindingWithPriority, [binding] =>
    [.setLocal binding, .pop, .getStatic field, .getLocal binding, .null,
      .callMethod fw.bind.id 3, .pop]
  | .plain, [value] =>
    [.setLocal value, .getStatic field, .getLocal value, .int 0,
      .callMethodGeneric fw.setStyledValue.id [valueType] 3, .pop]
  | .plainWithPriority, [value, priority] =>
    [.setLocal value, .setLocal priority, .getStatic field, .getLocal value, .getLocal priority,
      .callMethodGeneric fw.setStyledValue.id [valueType] 3, .pop]
  | _, _ => []

lemma inline_eq {ctx : Context} (hfw : ctx.framework.StoreShaped) (s : Setter) :
    s.inline ctx =
      withSlots (s.spilled ctx) fun slots => Operation.all (s.inlineOperations ctx slots) := by
  obtain ⟨convention, _⟩ := s
  simp only [inline, invoke_eq hfw.bind, invoke_generic_eq hfw.setStyledValue, unsetTail_eq hfw]
  cases convention <;> rfl

lemma emits_inlineOperations (ctx : Context) (s : Setter) (slots : List Nat) :
    ∀ op ∈ s.inlineOperations ctx slots, op.emits = true := by
  rw [← List.all_eq_true]
  unfold inlineOperations
  split <;> rfl

lemma slot_mem_of_inlineOperations (ctx : Context) (s : Setter) (slots : List Nat) :
    ∀ op ∈ s.inlineOperations ctx slots, ∀ n, op.referent = .slot n → n ∈ slots := by
  unfold inlineOperations
  split <;> simp [unsetOperations, Operation.referent]

theorem inline_ok_iff {ctx : Context} (hfw : ctx.framework.StoreShaped) (s : Setter)
    (a : Assembler) :
    (outcome (s.inline ctx) a).1 = .ok () ↔
      Operation.Fit (s.inlineOperations ctx (a.slots.acquireAll (s.spilled ctx)).1) a.pool := by
  rw [inline_eq hfw, fst_outcome_withSlots]
  exact Operation.ok_all_iff (emits_inlineOperations ctx s _) _

lemma inline_ok_of_room {ctx : Context} (hfw : ctx.framework.StoreShaped) (s : Setter)
    {a : Assembler} (hslots : ∀ n ∈ (a.slots.acquireAll (s.spilled ctx)).1, n ≤ 65535)
    (hroom : a.pool.size + 7 ≤ 65536) : (outcome (s.inline ctx) a).1 = .ok () := by
  rw [inline_ok_iff hfw]
  refine Operation.fit_of_room (fun op hop n hn => ?_) ?_
  · exact hslots n (slot_mem_of_inlineOperations ctx s _ op hop n hn)
  · have hlen : (s.inlineOperations ctx (a.slots.acquireAll (s.spilled ctx)).1).length ≤ 7 := by
      unfold inlineOperations
      split <;> simp [unsetOperations]
    omega

lemma inline_ok_of_start {ctx : Context} (hfw : ctx.framework.StoreShaped) (s : Setter)
    {pool : Pool} {base : Nat} (hroom : pool.size + 7 ≤ 65536) (hbase : base + 1 ≤ 65535) :
    (outcome (s.inline ctx) (.start pool base)).1 = .ok () := by
  refine inline_ok_of_room hfw s (fun n hn => ?_) hroom
  have hslots := Slots.acquireAll_of_freeOf (s.spilled ctx) (Slots.freeOf_startingAt base)
  change n ∈ ((Slots.startingAt base).acquireAll _).1 at hn
  rw [hslots, List.mem_range'_1] at hn
  have hnext : (Slots.startingAt base).next = base := rfl
  have htypes : (s.spilled ctx).length ≤ 2 := by
    unfold spilled
    split <;> simp
  omega

lemma effects_inline {V : Type} {rt : Runtime V} {ctx : Context}
    (hfw : ctx.framework.StoreShaped) (hrt : rt.HasStore ctx.framework) {s : Setter}
    {slots : List Nat} (hlen : slots.length = (s.spilled ctx).length) (hnodup : slots.Nodup)
    {inst : V} {operands : List V} {call : Call V}
    (hcall : s.call? rt ctx inst operands = some call) (stack : List V) (locals : Nat → V)
    (calls : List (Call V)) :
    ∃ locals', (∀ n ∉ slots, locals' n = locals n) ∧
      rt.effects (s.inlineOperations ctx slots)
          ⟨operands.reverse ++ inst :: stack, locals, calls⟩ =
        some ⟨stack, locals', calls ++ [call]⟩ := by
  obtain ⟨convention, _⟩ := s
  cases convention with
  | unset =>
    match operands, hcall with
    | [x], rfl =>
      obtain rfl := List.length_eq_zero_iff.mp hlen
      refine ⟨locals, by simp, ?_⟩
      simp [inlineOperations, Runtime.effects_unset hfw hrt]
  | binding =>
    match operands, hcall with
    | [x], rfl =>
      obtain ⟨slot, rfl⟩ := List.length_eq_one_iff.mp hlen
      refine ⟨Function.update locals slot x, by simp +contextual, ?_⟩
      simp [inlineOperations, Runtime.effects_invoke hfw.bind hrt.bind]
  | bindingWithPriority =>
    match operands, hcall with
    | [_, x], rfl =>
      obtain ⟨slot, rfl⟩ := List.length_eq_one_iff.mp hlen
      refine ⟨Function.update locals slot x, by simp +contextual, ?_⟩
      simp [inlineOperations, Runtime.effects_invoke hfw.bind hrt.bind]
  | plain =>
    match operands, hcall with
    | [x], rfl =>
      obtain ⟨slot, rfl⟩ := List.length_eq_one_iff.mp hlen
      refine ⟨Function.update locals slot x, by simp +contextual, ?_⟩
      simp [inlineOperations, Runtime.effects_invoke_generic hfw.setStyledValue hrt.setStyledValue]
  | plainWithPriority =>
    match operands, hcall with
    | [y, x], rfl =>
      obtain ⟨v, p, rfl⟩ := List.length_eq_two.mp hlen
      have hne : v ≠ p := by simpa using hnodup
      refine ⟨Function.update (Function.update locals v x) p y, by simp +contextual, ?_⟩
      simp [inlineOperations, hne,
        Runtime.effects_invoke_generic hfw.setStyledValue hrt.setStyledValue]

lemma gains_inline {ctx : Context} (hfw : ctx.framework.StoreShaped) {s : Setter} {base : Nat}
    {live : List Lease} {a b : Assembler} (ha : Slots.Holding base live a.slots)
    (h : outcome (s.inline ctx) a = (.ok (), b)) :
    Slots.Holding base live b.slots ∧
      ∃ slots : List Nat, slots.length = (s.spilled ctx).length ∧ slots.Nodup ∧
        (∀ n ∈ slots, Slots.Unheld base live n) ∧ a.Gains b (s.inlineOperations ctx slots) := by
  rw [inline_eq hfw] at h
  exact gains_withSlots (fun slots => Operation.emits_all (emits_inlineOperations ctx s slots)) ha h

/-- **Inline code makes the call of its setter.** Wherever it is emitted, the code executed on an
instance with operands above it, one for each parameter, makes that one call on the instance and
leaves what was beneath the instance. The locals below the slot pool and those that are held keep
their values, and the same slots are held afterwards as before. -/
theorem execute_inline {V : Type} {rt : Runtime V} {ctx : Context}
    (hfw : ctx.framework.StoreShaped) (hrt : rt.HasStore ctx.framework) {p : FieldProperty}
    {s : Setter} (hs : s ∈ p.setters ctx) {base : Nat} {live : List Lease} {a b : Assembler}
    (ha : Slots.Holding base live a.slots) (h : outcome (s.inline ctx) a = (.ok (), b))
    (later : List Constant) (inst : V) {operands : List V} (hoperands : operands.length = s.arity)
    (stack : List V) (locals : Nat → V) (calls : List (Call V)) :
    a.chunk.code <+: b.chunk.code ∧ Slots.Holding base live b.slots ∧
      ∃ call locals', s.call? rt ctx inst operands = some call ∧
        rt.execute (b.pool.addAll later) b.chunk a.chunk.size
            ⟨operands.reverse ++ inst :: stack, locals, calls⟩ =
          some ⟨stack, locals', calls ++ [call]⟩ ∧
        ∀ n, n < base ∨ (∃ l ∈ live, l.slot = n) → locals' n = locals n := by
  obtain ⟨hlive, slots, hlen, hnodup, hunheld, hgains⟩ := gains_inline hfw ha h
  obtain ⟨call, hcall⟩ := exists_call rt hs inst hoperands
  obtain ⟨locals', hlocals, heffects⟩ :=
    effects_inline hfw hrt hlen hnodup hcall stack locals calls
  refine ⟨hgains.code_prefix, hlive, call, locals', hcall, ?_, fun n hn => hlocals n fun hmem => ?_⟩
  · calc rt.execute (b.pool.addAll later) b.chunk a.chunk.size
            ⟨operands.reverse ++ inst :: stack, locals, calls⟩
        = rt.effects (s.inlineOperations ctx slots)
            ⟨operands.reverse ++ inst :: stack, locals, calls⟩ :=
          Runtime.execute_of_gains hgains (b.pool.extends_addAll later) _
      _ = some ⟨stack, locals', calls ++ [call]⟩ := heffects
  · obtain ⟨hbase, hne⟩ := hunheld n hmem
    rcases hn with hlt | ⟨l, hl, hslot⟩
    · omega
    · exact hne l hl hslot

theorem execute_inline_priority :
    let ctx := Context.declared .customary []
    let p := FieldProperty.declared .customary FrameworkNames.customary.bindingPriority
    let s := p.setter ctx .plainWithPriority 2
    let b := (outcome (s.inline ctx) (.start .empty 0)).2
    ∃ call locals, s.call? .numbers ctx 7 [5, 6] = some call ∧
      Runtime.numbers.execute b.pool b.chunk 0 ⟨[6, 5, 7, 9], fun _ => 0, []⟩ =
        some ⟨[9], locals, [call]⟩ := by
  intro ctx p s b
  have hfw : ctx.framework.StoreShaped := (Framework.declared_shaped _).toStoreShaped
  have hrt : Runtime.numbers.HasStore ctx.framework :=
    ⟨fun _ _ => rfl, fun _ _ => rfl, fun _ _ => rfl⟩
  have hs : s ∈ p.setters ctx := List.mem_mapIdx.mpr ⟨2, by decide, rfl⟩
  have hok : (outcome (s.inline ctx) (.start .empty 0)).1 = .ok () :=
    inline_ok_of_start hfw s (by decide) (by decide)
  have hoperands : [5, 6].length = s.arity := rfl
  obtain ⟨-, -, call, locals, hcall, hexec, -⟩ :=
    execute_inline hfw hrt hs .start (Prod.ext hok rfl) [] 7 hoperands [9] (fun _ => 0) []
  exact ⟨call, locals, hcall, hexec⟩

end Setter

end PropertyLowering
