import PropertyLowering.Proofs.Assembler.Restored
import PropertyLowering.Proofs.Code.Pool

/-!
Pieces of code that fail on the way.

Pieces are emitted one after the other up to the first complaint or the first operand out of range,
and what was emitted until then stays: the first of the operations, each a whole instruction.
-/

namespace PropertyLowering

namespace Asm

/-- What was emitted in the end are the first of the operations, and all of them on success. -/
def EmitsFirst (x : Asm α) (ops : List Operation) : Prop :=
  ∀ a r b, outcome x a = (r, b) →
    ∃ done, done <+: ops ∧ a.Gains b done ∧ ∀ s, r = .ok s → done = ops

lemma emitsFirst_pure (r : α) : (pure r : Asm α).EmitsFirst [] := by
  intro a s b h
  obtain ⟨-, rfl⟩ := Prod.mk.inj h
  exact ⟨[], List.prefix_rfl, .refl a, fun _ _ => rfl⟩

lemma emitsFirst_throw (e : CompileError) (ops : List Operation) :
    (throw e : Asm α).EmitsFirst ops := by
  intro a s b h
  obtain ⟨rfl, rfl⟩ := Prod.mk.inj h
  exact ⟨[], List.nil_prefix, .refl a, fun _ he => by cases he⟩

lemma EmitsFirst.bind {x : Asm α} {f : α → Asm β} {xs ys : List Operation} (hx : x.EmitsFirst xs)
    (hf : ∀ r, (f r).EmitsFirst ys) : (x >>= f).EmitsFirst (xs ++ ys) := by
  intro a s c h
  rw [outcome_bind] at h
  rcases hxa : outcome x a with ⟨e | r, b⟩
  · rw [hxa] at h
    obtain ⟨rfl, rfl⟩ := Prod.mk.inj h
    obtain ⟨done, hdone, hgains, -⟩ := hx a _ b hxa
    exact ⟨done, hdone.trans (List.prefix_append xs ys), hgains, fun _ he => by cases he⟩
  · rw [hxa] at h
    obtain ⟨xs', -, hab, hxs⟩ := hx a _ b hxa
    obtain rfl := hxs r rfl
    obtain ⟨done, hdone, hbc, hys⟩ := hf r b s c h
    refine ⟨xs' ++ done, (List.prefix_append_right_inj xs').mpr hdone, hab.trans hbc, ?_⟩
    intro t ht
    rw [hys t ht]

lemma emitsFirst_perform {op : Operation} (he : op.emits = true) :
    op.perform.EmitsFirst [op] := by
  intro a r b h
  cases r with
  | ok r =>
    exact ⟨[op], List.prefix_rfl, (emits_perform he a r b h).1, fun _ _ => rfl⟩
  | error e =>
    obtain ⟨is, his⟩ := Operation.appends_perform a op
    rw [Operation.emission, h] at his
    exact ⟨[], List.nil_prefix, ⟨[], is, his, rfl⟩, fun _ he => by cases he⟩

lemma emitsFirst_withSlots {types : List Ident} {body : List Nat → Asm α}
    {ops : List Nat → List Operation} (hbody : ∀ slots, (body slots).EmitsFirst (ops slots))
    {a b : Assembler} {r : Except CompileError α} (h : outcome (withSlots types body) a = (r, b)) :
    ∃ done, done <+: ops (a.slots.acquireAll types).1 ∧ a.Gains b done := by
  induction types generalizing body ops a b with
  | nil =>
    obtain ⟨done, hdone, hgains, -⟩ := hbody [] a r b h
    exact ⟨done, hdone, hgains⟩
  | cons type types ih =>
    obtain ⟨c, hc, rfl⟩ := outcome_withSlot_eq h
    obtain ⟨done, hdone, hgains⟩ := ih (fun slots => hbody (_ :: slots)) hc
    exact ⟨done, hdone, hgains.of_slots⟩

/-- Once it has succeeded, it succeeds wherever the constants of that time are known, with the same
bytes and without a new constant. The slots do not change. -/
def Repeats (x : Asm α) : Prop :=
  ∀ a r b, outcome x a = (.ok r, b) →
    a.pool.Extends b.pool ∧ ∃ bytes, b.chunk.code = a.chunk.code ++ bytes ∧
      ∀ c, b.pool.Extends c.pool → ∃ d, outcome x c = (.ok r, d) ∧
        d.chunk.code = c.chunk.code ++ bytes ∧ d.pool = c.pool ∧ d.slots = c.slots

lemma repeats_pure (r : α) : (pure r : Asm α).Repeats := by
  intro a s b h
  obtain ⟨hs, rfl⟩ := Prod.mk.inj h
  obtain rfl := Except.ok.inj hs
  exact ⟨.refl _, [], by simp, fun c _ => ⟨c, rfl, by simp, rfl, rfl⟩⟩

lemma repeats_throw (e : CompileError) : (throw e : Asm α).Repeats := by
  intro a s b h
  cases (Prod.mk.inj h).1

lemma Repeats.bind {x : Asm α} {f : α → Asm β} (hx : x.Repeats) (hf : ∀ r, (f r).Repeats) :
    (x >>= f).Repeats := by
  intro a s c h
  obtain ⟨r, b, hxa, hfb⟩ := outcome_bind_ok.mp h
  obtain ⟨hab, xs, hxs, hagain⟩ := hx a r b hxa
  obtain ⟨hbc, ys, hys, hagain'⟩ := hf r b s c hfb
  refine ⟨hab.trans hbc, xs ++ ys, by rw [hys, hxs, List.append_assoc], fun d hd => ?_⟩
  obtain ⟨d₁, hd₁, hcode₁, hpool₁, hslots₁⟩ := hagain d (hbc.trans hd)
  obtain ⟨d₂, hd₂, hcode₂, hpool₂, hslots₂⟩ := hagain' d₁ (hpool₁ ▸ hd)
  refine ⟨d₂, outcome_bind_ok.mpr ⟨r, d₁, hd₁, hd₂⟩, ?_, hpool₂.trans hpool₁,
    hslots₂.trans hslots₁⟩
  rw [hcode₂, hcode₁, List.append_assoc]

/-- With slots it succeeds again if the free lists still begin as it left them. It finds its slots
at their front then, and needs no new ones. -/
lemma repeats_withSlots {types : List Ident} {body : List Nat → Asm α}
    (hbody : ∀ slots, (body slots).Repeats) {a b : Assembler} {r : α}
    (h : outcome (withSlots types body) a = (.ok r, b)) :
    ∃ bytes, b.chunk.code = a.chunk.code ++ bytes ∧
      ∀ c, b.pool.Extends c.pool → (∀ type, b.slots.freeOf type <+: c.slots.freeOf type) →
        ∃ d, outcome (withSlots types body) c = (.ok r, d) ∧
          d.chunk.code = c.chunk.code ++ bytes ∧ d.pool = c.pool ∧
          d.slots.highWater = c.slots.highWater := by
  induction types generalizing body a b with
  | nil =>
    obtain ⟨-, bytes, hbytes, hagain⟩ := hbody [] a r b h
    refine ⟨bytes, hbytes, fun c hc _ => ?_⟩
    obtain ⟨d, hd, hcode, hpool, hslots⟩ := hagain c hc
    exact ⟨d, hd, hcode, hpool, by rw [hslots]⟩
  | cons type types ih =>
    obtain ⟨b, hb, rfl⟩ := outcome_withSlot_eq h
    obtain ⟨bytes, hbytes, hagain⟩ := ih (fun slots => hbody (_ :: slots)) hb
    refine ⟨bytes, hbytes, fun c hc hfree => ?_⟩
    -- The slot that was given back last is in front, and the body finds the others behind it.
    obtain ⟨rest, hrest, hbehind⟩ : ∃ rest,
        c.slots.freeOf type = (a.slots.acquire type).1.slot :: rest ∧
          b.slots.freeOf type <+: rest := by
      have hfront := hfree type
      rw [Slots.freeOf_release, Slots.type_acquire, if_pos rfl] at hfront
      obtain ⟨more, hmore⟩ := hfront
      exact ⟨_, hmore.symm, List.prefix_append _ _⟩
    have hacquire := Slots.acquire_cons hrest
    have hbody' : ∀ other,
        b.slots.freeOf other <+: (c.slots.acquire type).2.freeOf other := by
      intro other
      rw [hacquire, Slots.freeOf_insert]
      split_ifs with htype
      · exact htype ▸ hbehind
      · have hother := hfree other
        rwa [Slots.freeOf_release, Slots.type_acquire, if_neg htype] at hother
    obtain ⟨d, hd, hcode, hpool, hwater⟩ :=
      hagain { c with slots := (c.slots.acquire type).2 } hc hbody'
    refine ⟨{ d with slots := d.slots.release (c.slots.acquire type).1 }, ?_, hcode, hpool, ?_⟩
    · rw [withSlots, outcome_withSlot]
      rw [hacquire] at hd ⊢
      simp only [hd]
    · have hsame : (c.slots.acquire type).2.highWater = c.slots.highWater := by
        rw [hacquire]
        rfl
      exact hwater.trans hsame

end Asm

namespace Operation

open Asm

lemma stored_of_extends {op : Operation} {p q : Pool} (h : (op.referent.stored p).Extends q) :
    op.referent.stored q = q ∧ op.referent.number q = op.referent.number p := by
  cases hop : op.referent with
  | none => exact ⟨rfl, rfl⟩
  | slot n => exact ⟨rfl, rfl⟩
  | constant c =>
    rw [hop] at h
    have hadd := Pool.add_of_get? (h _ c (p.get?_add c))
    simp only [Referent.stored, Referent.number, hadd, and_self]

lemma eq_of_narrow_or_wide {narrow : UInt8 → Instr} {full : UInt16 → Instr} {n : Nat} {i j : Instr}
    (hi : (∃ b, i = narrow b ∧ b.toNat = n) ∨ ∃ w, i = full w ∧ 255 < n ∧ w.toNat = n)
    (hj : (∃ b, j = narrow b ∧ b.toNat = n) ∨ ∃ w, j = full w ∧ 255 < n ∧ w.toNat = n) :
    i = j := by
  rcases hi with ⟨b, rfl, rfl⟩ | ⟨w, rfl, hw, rfl⟩ <;>
    rcases hj with ⟨b', rfl, hb'⟩ | ⟨w', rfl, hw', heq⟩
  · rw [UInt8.toNat_inj.mp hb']
  · have := b.toNat_lt
    omega
  · have := b'.toNat_lt
    omega
  · rw [UInt16.toNat_inj.mp heq]

lemma Loads.unique {p : Pool} {c : Constant} {i j : Instr} (hi : Loads p c i) (hj : Loads p c j) :
    i = j := by
  have hform : ∀ {k}, Loads p c k → ∃ n, p.get? n = some c ∧
      ((∃ b, k = .constant b ∧ b.toNat = n) ∨
        ∃ w, k = .constantWide w ∧ 255 < n ∧ w.toNat = n) := by
    rintro k (⟨b, hk, hb⟩ | ⟨w, hk, hw, hc⟩)
    · exact ⟨_, hb, .inl ⟨b, hk, rfl⟩⟩
    · exact ⟨_, hc, .inr ⟨w, hk, hw, rfl⟩⟩
  obtain ⟨n, hn, hi⟩ := hform hi
  obtain ⟨m, hm, hj⟩ := hform hj
  obtain rfl := Pool.get?_inj hn hm
  exact eq_of_narrow_or_wide hi hj

lemma Encodes.unique {p : Pool} {op : Operation} {i j : Instr} (hi : op.Encodes p i)
    (hj : op.Encodes p j) : i = j := by
  cases op with
  | constant c => exact Loads.unique hi hj
  | string s => exact Loads.unique hi hj
  | int n =>
    simp only [Encodes] at hi hj
    split_ifs at hi hj
    · rw [hi, hj]
    · rw [hi, hj]
    · exact hi.unique hj
  | null | pop => exact Eq.trans hi (Eq.symm hj)
  | getLocal n | setLocal n => exact eq_of_narrow_or_wide hi hj
  | getStatic field | call method argc | callMethod method argc | callGeneric method args argc
  | callMethodGeneric method args argc =>
    obtain ⟨w, rfl, hw⟩ := hi
    obtain ⟨w', rfl, hw'⟩ := hj
    rw [UInt16.toNat_inj.mp (Pool.get?_inj hw hw')]
  | setLine line => cases hi

lemma repeats_perform {op : Operation} (he : op.emits = true) : op.perform.Repeats := by
  intro a r b h
  by_cases hover : op.Overflows a.pool
  · obtain ⟨m, hfail⟩ := outcome_perform_overflow hover
    rw [hfail] at h
    cases (Prod.mk.inj h).1
  · obtain ⟨i, hi, hok⟩ := outcome_perform he hover
    rw [hok] at h
    obtain ⟨-, rfl⟩ := Prod.mk.inj h
    refine ⟨Referent.extends_stored _ _, i.bytes, by simp [Assembler.write], fun c hc => ?_⟩
    obtain ⟨hstored, hnumber⟩ := stored_of_extends hc
    have hover' : ¬ op.Overflows c.pool := by
      rwa [Overflows, hnumber]
    obtain ⟨j, hj, hok'⟩ := outcome_perform he hover'
    rw [hstored] at hj hok'
    obtain rfl := Encodes.unique (hi.mono hc) hj
    exact ⟨_, hok', by simp [Assembler.write], rfl, rfl⟩

end Operation

namespace Piece

open Asm Operation

/-- The operations of pieces up to the first complaint. -/
def operations : List Piece → List Operation
  | [] => []
  | .ok ops :: cs => ops ++ operations cs
  | .error _ :: _ => []

variable {cs : List Piece}

lemma all_induction {C : Asm Unit → Prop} (hpure : C (pure ()))
    (hperform : ∀ op : Operation, op.emits = true → C op.perform)
    (hbind : ∀ x y : Asm Unit, C x → C y → C (do x; y)) (he : ∀ c ∈ cs, c.Emitting)
    (hthrow : ∀ e, .error e ∈ cs → C (throw e)) : C (all cs) := by
  have hops : ∀ ops : List Operation, (∀ op ∈ ops, op.emits = true) → C (Operation.all ops) := by
    intro ops hops
    induction ops with
    | nil => exact hpure
    | cons op ops ih =>
      exact hbind _ _ (hperform op (hops op (List.mem_cons_self ..)))
        (ih fun o ho => hops o (List.mem_cons_of_mem op ho))
  induction cs with
  | nil => exact hpure
  | cons c cs ih =>
    cases c with
    | error e => exact hthrow e (List.mem_cons_self ..)
    | ok ops =>
      refine hbind _ _ (hops ops (he (.ok ops) (List.mem_cons_self ..) ops rfl)) (ih ?_ ?_)
      · exact fun c hc => he c (List.mem_cons_of_mem _ hc)
      · exact fun e hmem => hthrow e (List.mem_cons_of_mem _ hmem)

lemma restores_all (he : ∀ c ∈ cs, c.Emitting) : (all cs).Restores :=
  all_induction (restores_pure ()) (fun op _ => restores_perform op)
    (fun _ _ hx hy => hx.bind fun _ => hy) he fun e _ => restores_throw e

lemma repeats_all (he : ∀ c ∈ cs, c.Emitting) : (all cs).Repeats :=
  all_induction (repeats_pure ()) (fun _ => repeats_perform) (fun _ _ hx hy => hx.bind fun _ => hy)
    he fun e _ => repeats_throw e

lemma emitsFirst_all (he : ∀ c ∈ cs, c.Emitting) : (all cs).EmitsFirst (operations cs) := by
  have hops : ∀ ops : List Operation, (∀ op ∈ ops, op.emits = true) →
      (Operation.all ops).EmitsFirst ops := by
    intro ops hops
    induction ops with
    | nil => exact emitsFirst_pure ()
    | cons op ops ih =>
      have hop := emitsFirst_perform (hops op (List.mem_cons_self ..))
      exact hop.bind fun _ => ih fun o ho => hops o (List.mem_cons_of_mem op ho)
  induction cs with
  | nil => exact emitsFirst_pure ()
  | cons c cs ih =>
    cases c with
    | error e => exact emitsFirst_throw e []
    | ok ops =>
      refine (hops ops (he (.ok ops) (List.mem_cons_self ..) ops rfl)).bind fun _ => ih ?_
      exact fun c hc => he c (List.mem_cons_of_mem _ hc)

end Piece

end PropertyLowering
