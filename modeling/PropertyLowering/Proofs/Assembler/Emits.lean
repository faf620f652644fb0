import PropertyLowering.Proofs.Assembler.Leases
import PropertyLowering.Proofs.Assembler.Run

/-!
Emissions as the operations that they come to.

An emission emits given operations if they are what it has appended whenever it succeeds. This
composes along the steps of an emission, so that each function of the assembler has one such list.
An emission that spills values emits them for whichever slots it is given.
-/

namespace PropertyLowering

/-- The code of `b` is that of `a` followed by instructions for the operations. -/
def Assembler.Gains (a b : Assembler) (ops : List Operation) : Prop :=
  ∃ es is, Operation.Appends a b es is ∧ es.map (·.op) = ops

namespace Assembler.Gains

variable {a b c : Assembler} {ops ops' : List Operation}

lemma refl (a : Assembler) : Gains a a [] := ⟨[], [], .refl a, rfl⟩

lemma trans (hab : Gains a b ops) (hbc : Gains b c ops') : Gains a c (ops ++ ops') := by
  obtain ⟨es, is, h, rfl⟩ := hab
  obtain ⟨fs, js, h', rfl⟩ := hbc
  exact ⟨es ++ fs, is ++ js, h.trans h', List.map_append⟩

lemma code_prefix (h : Gains a b ops) : a.chunk.code <+: b.chunk.code := by
  obtain ⟨es, is, h, -⟩ := h
  exact ⟨_, h.code.symm⟩

lemma of_slots {s t : Slots} (h : Gains { a with slots := s } b ops) :
    Gains a { b with slots := t } ops := by
  obtain ⟨es, is, h, hops⟩ := h
  exact ⟨es, is, ⟨h.laid, h.pool, h.code, h.lines⟩, hops⟩

end Assembler.Gains

namespace Asm

/-- Success means that the operations were emitted and that the slots are as they were. -/
def Emits (x : Asm α) (ops : List Operation) : Prop :=
  ∀ a r b, outcome x a = (.ok r, b) → a.Gains b ops ∧ b.slots = a.slots

lemma emits_pure (r : α) : Emits (pure r : Asm α) [] := by
  intro a s b h
  obtain ⟨-, rfl⟩ := Prod.mk.inj h
  exact ⟨.refl a, rfl⟩

lemma Emits.bind {x : Asm α} {f : α → Asm β} {xs ys : List Operation} (hx : x.Emits xs)
    (hf : ∀ r, (f r).Emits ys) : (x >>= f).Emits (xs ++ ys) := by
  intro a s c h
  obtain ⟨r, b, hxb, hfc⟩ := outcome_bind_ok.mp h
  obtain ⟨hab, hslots⟩ := hx a r b hxb
  obtain ⟨hbc, hslots'⟩ := hf r b s c hfc
  exact ⟨hab.trans hbc, hslots'.trans hslots⟩

lemma emits_perform {op : Operation} (he : op.emits = true) : op.perform.Emits [op] := by
  intro a r b h
  by_cases hover : op.Overflows a.pool
  · obtain ⟨m, h'⟩ := Operation.outcome_perform_overflow hover
    rw [h'] at h
    cases (Prod.mk.inj h).1
  · obtain ⟨is, his⟩ := Operation.appends_perform a op
    obtain ⟨i, -, h'⟩ := Operation.outcome_perform he hover
    rw [h] at his h'
    obtain ⟨-, rfl⟩ := Prod.mk.inj h'
    refine ⟨⟨_, is, his, ?_⟩, rfl⟩
    simp [Operation.emission, h, he]

/-- Runs a body with a slot for each of the types. -/
def withSlots : List Ident → (List Nat → Asm α) → Asm α
  | [], body => body []
  | type :: types, body => withSlot type fun n => withSlots types fun slots => body (n :: slots)

/-- Success means that the operations were emitted for distinct slots that nobody held, and that
these are given back. -/
lemma gains_withSlots {types : List Ident} {body : List Nat → Asm α}
    {ops : List Nat → List Operation} (hbody : ∀ slots, (body slots).Emits (ops slots))
    {base : Nat} {live : List Lease} {a b : Assembler} {r : α}
    (ha : Slots.Holding base live a.slots)
    (h : outcome (withSlots types body) a = (.ok r, b)) :
    Slots.Holding base live b.slots ∧
      ∃ slots : List Nat, slots.length = types.length ∧ slots.Nodup ∧
        (∀ n ∈ slots, Slots.Unheld base live n) ∧ a.Gains b (ops slots) := by
  induction types generalizing body ops live a b with
  | nil =>
    obtain ⟨hgains, hslots⟩ := hbody [] a r b h
    rw [hslots]
    exact ⟨ha, [], rfl, .nil, by simp, hgains⟩
  | cons type types ih =>
    obtain ⟨c, hc, rfl⟩ := outcome_withSlot_eq h
    have hbody' := fun slots => hbody ((a.slots.acquire type).1.slot :: slots)
    obtain ⟨hlive, slots, hlen, hnodup, hunheld, hgains⟩ := ih hbody' (ha.acquire type) hc
    have hlease := hlive.release (List.mem_cons_self ..)
    rw [List.erase_cons_head] at hlease
    refine ⟨hlease, (a.slots.acquire type).1.slot :: slots, by simp [hlen], ?_, ?_,
      hgains.of_slots⟩
    · refine List.nodup_cons.mpr ⟨fun hmem => ?_, hnodup⟩
      exact (hunheld _ hmem).2 _ (List.mem_cons_self ..) rfl
    · intro n hn
      rcases List.mem_cons.mp hn with rfl | hn
      · exact ha.acquire_unheld type
      · obtain ⟨hbase, hne⟩ := hunheld n hn
        exact ⟨hbase, fun l hl => hne l (List.mem_cons_of_mem _ hl)⟩

lemma fst_outcome_withSlots (types : List Ident) (body : List Nat → Asm α) (a : Assembler) :
    (outcome (withSlots types body) a).1 =
      (outcome (body (a.slots.acquireAll types).1)
        { a with slots := (a.slots.acquireAll types).2 }).1 := by
  induction types generalizing body a with
  | nil => rfl
  | cons type types ih =>
    rw [withSlots, outcome_withSlot]
    exact ih _ _

end Asm

namespace Operation

open Asm

/-- The operations, one after the other, up to the first that fails. -/
def all : List Operation → Asm Unit
  | [] => pure ()
  | op :: ops => do
    op.perform
    all ops

@[simp] lemma all_singleton (op : Operation) : all [op] = op.perform := by simp [all]

lemma all_cons (op : Operation) (ops : List Operation) :
    all (op :: ops) = (do op.perform; all ops) := rfl

lemma all_append (ops ops' : List Operation) :
    all (ops ++ ops') = (do all ops; all ops') := by
  induction ops with
  | nil => simp [all]
  | cons op ops ih => simp [all, ih]

/-- None of the operations overflows when its turn comes. -/
def Fit : List Operation → Pool → Prop
  | [], _ => True
  | op :: ops, p => ¬ op.Overflows p ∧ Fit ops (op.referent.stored p)

lemma emits_all {ops : List Operation} (he : ∀ op ∈ ops, op.emits = true) :
    (all ops).Emits ops := by
  induction ops with
  | nil => exact emits_pure ()
  | cons op ops ih =>
    have hop := emits_perform (he op (List.mem_cons_self ..))
    exact hop.bind fun _ => ih fun op hop => he op (List.mem_cons_of_mem _ hop)

lemma ok_all_iff {ops : List Operation} (he : ∀ op ∈ ops, op.emits = true) (a : Assembler) :
    (outcome (all ops) a).1 = .ok () ↔ Fit ops a.pool := by
  induction ops generalizing a with
  | nil => exact iff_of_true rfl trivial
  | cons op ops ih =>
    rw [all, outcome_bind, Fit]
    by_cases hover : op.Overflows a.pool
    · obtain ⟨m, h⟩ := outcome_perform_overflow hover
      rw [h]
      exact iff_of_false (by simp) fun hfit => hfit.1 hover
    · obtain ⟨i, -, h⟩ := outcome_perform (he op (List.mem_cons_self ..)) hover
      rw [h, ih fun op hop => he op (List.mem_cons_of_mem _ hop)]
      exact (and_iff_right hover).symm

lemma fit_of_room {ops : List Operation} {p : Pool}
    (hslots : ∀ op ∈ ops, ∀ n, op.referent = .slot n → n ≤ 65535)
    (hroom : p.size + ops.length ≤ 65536) : Fit ops p := by
  induction ops generalizing p with
  | nil => trivial
  | cons op ops ih =>
    rw [List.length_cons] at hroom
    have hsize := Referent.size_stored_le p op.referent
    refine ⟨?_, ih (fun o ho => hslots o (List.mem_cons_of_mem _ ho)) (by omega)⟩
    unfold Overflows
    cases hop : op.referent with
    | none => simp [Referent.number]
    | slot n => exact Nat.not_lt.mpr (hslots op (List.mem_cons_self ..) n hop)
    | constant c =>
      have hindex := p.index_add_le c
      simp only [Referent.number]
      omega

end Operation

/-- Operations to perform, or the complaint that stands in their way. -/
abbrev Piece := Except CompileError (List Operation)

namespace Piece

open Asm Operation

/-- Pieces one after the other, up to the first complaint. -/
def all : List Piece → Asm Unit
  | [] => pure ()
  | c :: cs => do
    Operation.all (← c)
    all cs

lemma all_singleton (c : Piece) : all [c] = (do Operation.all (← c)) := by simp [all]

lemma all_cons_ok (ops : List Operation) (cs : List Piece) :
    all (.ok ops :: cs) = (do Operation.all ops; all cs) := rfl

lemma all_append (cs ds : List Piece) : all (cs ++ ds) = (do all cs; all ds) := by
  induction cs with
  | nil => simp [all]
  | cons c cs ih => simp [all, ih]

/-- The operations of the piece, which succeeded from some state. -/
def Performed (c : Piece) (ops : List Operation) : Prop :=
  c = .ok ops ∧ ∃ a b, outcome (Operation.all ops) a = (.ok (), b)

/-- The piece does not change the line. -/
def Emitting (c : Piece) : Prop := ∀ ops, c = .ok ops → ∀ op ∈ ops, op.emits = true

lemma emitting_ok {ops : List Operation} (h : ops.all (·.emits) = true) : Emitting (.ok ops) := by
  intro ops' heq
  obtain rfl := Except.ok.inj heq
  exact List.all_eq_true.mp h

lemma Performed.eq {ops ops' : List Operation} (h : Performed (.ok ops) ops') : ops' = ops :=
  (Except.ok.inj h.1).symm

lemma gains_all {cs : List Piece} (he : ∀ c ∈ cs, Emitting c) {a b : Assembler}
    (h : outcome (all cs) a = (.ok (), b)) :
    b.slots = a.slots ∧
      ∃ codes, List.Forall₂ Performed cs codes ∧ a.Gains b codes.flatten := by
  induction cs generalizing a with
  | nil =>
    obtain ⟨-, rfl⟩ := Prod.mk.inj h
    exact ⟨rfl, [], .nil, .refl a⟩
  | cons c cs ih =>
    rw [all] at h
    cases c with
    | error e =>
      rw [liftExcept_error_bind] at h
      cases (Prod.mk.inj h).1
    | ok ops =>
      rw [liftExcept_ok_bind, outcome_bind_ok] at h
      obtain ⟨_, c, hops, hrest⟩ := h
      have hemits := he (.ok ops) (List.mem_cons_self ..) ops rfl
      obtain ⟨hac, hslots⟩ := emits_all hemits a _ c hops
      obtain ⟨hslots', codes, hcodes, hcb⟩ :=
        ih (fun c hc => he c (List.mem_cons_of_mem _ hc)) hrest
      exact ⟨hslots'.trans hslots, ops :: codes, .cons ⟨rfl, a, c, hops⟩ hcodes, hac.trans hcb⟩

lemma all_map_ok (codes : List (List Operation)) :
    all (codes.map .ok) = Operation.all codes.flatten := by
  induction codes with
  | nil => rfl
  | cons ops codes ih =>
    rw [List.map_cons, List.flatten_cons, Operation.all_append, all, liftExcept_ok_bind, ih]

end Piece

end PropertyLowering
