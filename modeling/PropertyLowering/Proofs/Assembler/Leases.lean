import Mathlib.Tactic.Lemma
import Mathlib.Tactic.SplitIfs
import Mathlib.Logic.Function.Basic
import PropertyLowering.Assembler.Slots

/-!
Which slots are held, and which are free.

The states of a slot pool are those that acquisitions and releases lead to, a release giving back a
lease that is held. In each of them every slot handed out has one owner, the type it was handed out
for, and is in one place: it is held under one lease or it is once on the free list of its owner.
-/

namespace PropertyLowering.Slots

/-- The states of the pool from `base` on, each with the leases that are held in it. -/
inductive Holding (base : Nat) : List Lease → Slots → Prop where
  | start : Holding base [] (startingAt base)
  | acquire {live : List Lease} {s : Slots} (type : Ident) (h : Holding base live s) :
    Holding base ((s.acquire type).1 :: live) (s.acquire type).2
  | release {live : List Lease} {s : Slots} {l : Lease} (h : Holding base live s) (hl : l ∈ live) :
    Holding base (live.erase l) (s.release l)

/-- In how many places a slot is for a type: among the leases held and on the free list. -/
def places (live : List Lease) (s : Slots) (type : Ident) (n : Nat) : Nat :=
  live.count ⟨n, type⟩ + (s.freeOf type).count n

/-- Each slot handed out is in one place, under its owner, and no other slot is anywhere. -/
structure Sound (live : List Lease) (s : Slots) : Prop where
  base_le : s.base ≤ s.next
  held : s.held = live.length
  one : ∃ owner : Nat → Ident, ∀ type n,
    s.places live type n = if s.base ≤ n ∧ n < s.next ∧ owner n = type then 1 else 0

lemma freeOf_insert (s : Slots) (type other : Ident) (slots : List Nat) (held : Nat) :
    freeOf { s with free := s.free.insert type slots, held } other =
      if type = other then slots else s.freeOf other := by
  simp [freeOf, Std.HashMap.getD_insert]

lemma count_lease_cons (live : List Lease) (n k : Nat) (type other : Ident) :
    (⟨n, type⟩ :: live).count ⟨k, other⟩ =
      live.count ⟨k, other⟩ + if n = k ∧ type = other then 1 else 0 := by
  simp [List.count_cons]

lemma acquire_cons {s : Slots} {type : Ident} {n : Nat} {rest : List Nat}
    (h : s.freeOf type = n :: rest) :
    s.acquire type =
      (⟨n, type⟩, { s with free := s.free.insert type rest, held := s.held + 1 }) := by
  simp only [acquire, h]

lemma acquire_nil {s : Slots} {type : Ident} (h : s.freeOf type = []) :
    s.acquire type = (⟨s.next, type⟩, { s with next := s.next + 1, held := s.held + 1 }) := by
  simp only [acquire, h]

lemma sound_start (base : Nat) : Sound [] (startingAt base) where
  base_le := Nat.le_refl base
  held := rfl
  one := by
    refine ⟨fun _ => .empty, fun type n => ?_⟩
    have hnone : ¬ (base ≤ n ∧ n < base ∧ Ident.empty = type) := by omega
    simp [places, freeOf, startingAt, hnone]

lemma places_acquire_cons {live : List Lease} {s : Slots} {type : Ident} {n : Nat} {rest : List Nat}
    (h : s.freeOf type = n :: rest) (held : Nat) (other : Ident) (k : Nat) :
    places (⟨n, type⟩ :: live) { s with free := s.free.insert type rest, held } other k =
      places live s other k := by
  unfold places
  rw [freeOf_insert, count_lease_cons]
  by_cases htype : type = other
  · subst htype
    rw [if_pos rfl, h, List.count_cons]
    simp only [and_true, beq_iff_eq]
    omega
  · simp [htype]

lemma places_release {live : List Lease} (s : Slots) {l : Lease} (hl : l ∈ live) (other : Ident)
    (k : Nat) : places (live.erase l) (s.release l) other k = places live s other k := by
  unfold places release
  rw [freeOf_insert, List.count_erase]
  by_cases htype : l.type = other
  · subst htype
    rw [if_pos rfl, List.count_cons]
    by_cases hslot : l.slot = k
    · subst hslot
      have hpos : 0 < live.count l := List.count_pos_iff.mpr hl
      simp only [beq_self_eq_true, if_true]
      change live.count l - 1 + _ = live.count l + _
      omega
    · have hne : ¬ l = ⟨k, l.type⟩ := fun h => hslot (congrArg Lease.slot h)
      simp [hslot, hne]
  · have hne : ¬ l = ⟨k, other⟩ := fun h => htype (congrArg Lease.type h)
    simp [htype, hne]

lemma Sound.acquire {live : List Lease} {s : Slots} (h : Sound live s) (type : Ident) :
    Sound ((s.acquire type).1 :: live) (s.acquire type).2 := by
  obtain ⟨hbase, hheld, owner, hone⟩ := h
  cases hfree : s.freeOf type with
  | cons n rest =>
    rw [acquire_cons hfree]
    refine ⟨hbase, by simp [hheld], owner, fun other k => ?_⟩
    rw [places_acquire_cons hfree, hone]
  | nil =>
    -- The slot was nowhere so far, and gets the type as its owner.
    rw [acquire_nil hfree]
    refine ⟨Nat.le_succ_of_le hbase, by simp [hheld], Function.update owner s.next type, ?_⟩
    intro other k
    have hplaces := hone other k
    unfold places at hplaces ⊢
    rw [count_lease_cons]
    change _ + (s.freeOf other).count k = _
    simp only [Function.update_apply]
    by_cases hk : k = s.next
    · subst hk
      by_cases htype : type = other <;> simp_all
    · have hk' : ¬ s.next = k := fun h => hk h.symm
      have hlt : k < s.next + 1 ↔ k < s.next := by omega
      simp only [hk, hk', hlt, false_and, if_false, Nat.add_zero]
      exact hplaces

lemma Sound.release {live : List Lease} {s : Slots} (h : Sound live s) {l : Lease} (hl : l ∈ live) :
    Sound (live.erase l) (s.release l) := by
  obtain ⟨hbase, hheld, owner, hone⟩ := h
  refine ⟨hbase, ?_, owner, fun other k => ?_⟩
  · rw [List.length_erase_of_mem hl, ← hheld]
    rfl
  · rw [places_release s hl, hone]
    rfl

lemma base_acquire (s : Slots) (type : Ident) : (s.acquire type).2.base = s.base := by
  unfold Slots.acquire
  split <;> rfl

lemma Holding.base_eq {base : Nat} {live : List Lease} {s : Slots} (h : Holding base live s) :
    s.base = base := by
  induction h with
  | start => rfl
  | acquire type h ih => rw [base_acquire, ih]
  | release h hl ih => exact ih

lemma Holding.sound {base : Nat} {live : List Lease} {s : Slots} (h : Holding base live s) :
    Sound live s := by
  induction h with
  | start => exact sound_start base
  | acquire type h ih => exact ih.acquire type
  | release h hl ih => exact ih.release hl

lemma Sound.lease {live : List Lease} {s : Slots} (h : Sound live s) :
    ∃ owner : Nat → Ident, ∀ l ∈ live,
      live.count l = 1 ∧ s.base ≤ l.slot ∧ owner l.slot = l.type := by
  obtain ⟨-, -, owner, hone⟩ := h
  refine ⟨owner, fun l hl => ?_⟩
  have hpos : 0 < live.count l := List.count_pos_iff.mpr hl
  have hplaces : live.count l + (s.freeOf l.type).count l.slot = _ := hone l.type l.slot
  split_ifs at hplaces with hin
  · exact ⟨by omega, hin.1, hin.2.2⟩
  · omega

lemma Sound.slot_ne {live : List Lease} {s : Slots} {l l' : Lease} (h : Sound (l :: live) s)
    (hl' : l' ∈ live) : l'.slot ≠ l.slot := by
  obtain ⟨owner, howner⟩ := h.lease
  obtain ⟨hcount, -, htype⟩ := howner l (List.mem_cons_self ..)
  obtain ⟨-, -, htype'⟩ := howner l' (List.mem_cons_of_mem l hl')
  intro hslot
  have heq : l' = l := by
    rw [hslot, htype] at htype'
    cases l
    cases l'
    simp_all
  subst heq
  have hpos : 0 < live.count l' := List.count_pos_iff.mpr hl'
  rw [List.count_cons_self] at hcount
  omega

/-- The slot belongs to the pool from `base` on, and no lease holds it. -/
def Unheld (base : Nat) (live : List Lease) (n : Nat) : Prop :=
  base ≤ n ∧ ∀ l ∈ live, l.slot ≠ n

/-- **A slot is acquired only if nobody holds it**, and never below the base. -/
theorem Holding.acquire_unheld {base : Nat} {live : List Lease} {s : Slots}
    (h : Holding base live s) (type : Ident) : Unheld base live (s.acquire type).1.slot := by
  have hsound := (h.acquire type).sound
  obtain ⟨owner, howner⟩ := hsound.lease
  have hbase := (howner _ (List.mem_cons_self ..)).2.1
  rw [(h.acquire type).base_eq] at hbase
  exact ⟨hbase, fun l hl => hsound.slot_ne hl⟩

/-- The slots that are acquired for types in turn, and the pool after that. -/
def acquireAll (s : Slots) : List Ident → List Nat × Slots
  | [] => ([], s)
  | type :: types =>
    let (lease, s) := s.acquire type
    let (slots, s) := s.acquireAll types
    (lease.slot :: slots, s)

lemma length_acquireAll (s : Slots) (types : List Ident) :
    (s.acquireAll types).1.length = types.length := by
  induction types generalizing s with
  | nil => rfl
  | cons type types ih => exact congrArg (· + 1) (ih _)

lemma acquireAll_of_freeOf (types : List Ident) {s : Slots} (h : ∀ type, s.freeOf type = []) :
    (s.acquireAll types).1 = List.range' s.next types.length := by
  induction types generalizing s with
  | nil => rfl
  | cons type types ih =>
    have hrest := @ih { s with next := s.next + 1, held := s.held + 1 } h
    simp only [acquireAll, acquire_nil (h type), List.length_cons, List.range'_succ, hrest]

lemma freeOf_startingAt (base : Nat) (type : Ident) : (startingAt base).freeOf type = [] := by
  simp [freeOf, startingAt]

end PropertyLowering.Slots
