import Mathlib.Algebra.BigOperators.Group.Finset.Piecewise
import PropertyLowering.Proofs.Assembler.Leases

/-!
Slots over the whole time that their pool is in use, with leases given back in any order.

Main statement: slots that are held together are different, a slot serves one type only, each slot
is held or free and not both, and there are as many slots as the types need at their peaks.
-/

namespace PropertyLowering.Slots

/-- A slot is asked for, or a lease is given back. -/
inductive Request where
  | acquire (type : Ident)
  | release (lease : Lease)

/-- A pool with the leases that are held and with all that were ever granted. -/
structure Ledger where
  slots : Slots
  live : List Lease
  granted : List Lease

namespace Ledger

def startingAt (base : Nat) : Ledger := ⟨.startingAt base, [], []⟩

/-- Only a lease that is held can be given back. -/
def serve (l : Ledger) : Request → Ledger
  | .acquire type =>
    let (lease, slots) := l.slots.acquire type
    ⟨slots, lease :: l.live, lease :: l.granted⟩
  | .release lease =>
    if lease ∈ l.live then ⟨l.slots.release lease, l.live.erase lease, l.granted⟩ else l

def serveAll (l : Ledger) (rs : List Request) : Ledger := rs.foldl serve l

/-- The number of leases of a type that are held. -/
def heldFor (l : Ledger) (type : Ident) : Nat := l.live.countP (·.type = type)

/-- The largest number of leases of a type that are held at once in the course of requests. -/
def peak (l : Ledger) (type : Ident) : List Request → Nat
  | [] => l.heldFor type
  | r :: rs => max (l.heldFor type) ((l.serve r).peak type rs)

/-- The number of slots of a type, held or free. -/
def stockOf (l : Ledger) (type : Ident) : Nat := l.heldFor type + (l.slots.freeOf type).length

variable {l : Ledger} {type : Ident} {lease : Lease}

lemma serve_acquire_cons {n : Nat} {rest : List Nat} (h : l.slots.freeOf type = n :: rest) :
    l.serve (.acquire type) =
      ⟨{ l.slots with free := l.slots.free.insert type rest, held := l.slots.held + 1 },
        ⟨n, type⟩ :: l.live, ⟨n, type⟩ :: l.granted⟩ := by
  simp only [serve, acquire_cons h]

lemma serve_acquire_nil (h : l.slots.freeOf type = []) :
    l.serve (.acquire type) =
      ⟨{ l.slots with next := l.slots.next + 1, held := l.slots.held + 1 },
        ⟨l.slots.next, type⟩ :: l.live, ⟨l.slots.next, type⟩ :: l.granted⟩ := by
  simp only [serve, acquire_nil h]

lemma serve_release (h : lease ∈ l.live) :
    l.serve (.release lease) = ⟨l.slots.release lease, l.live.erase lease, l.granted⟩ :=
  if_pos h

lemma serve_release_of_notMem (h : lease ∉ l.live) : l.serve (.release lease) = l := if_neg h

/-! ### One place for each slot -/

/-- What holds of a ledger whatever requests it has served: its leases are those of a state of the
pool, and what was granted once has kept its place under the type that it was granted for. -/
structure Kept (base : Nat) (l : Ledger) : Prop where
  holding : Holding base l.live l.slots
  placed : ∀ g ∈ l.granted, 0 < places l.live l.slots g.type g.slot

lemma kept_startingAt (base : Nat) : Kept base (startingAt base) := ⟨.start, by simp [startingAt]⟩

lemma places_le_serve (l : Ledger) (r : Request) (type : Ident) (n : Nat) :
    places l.live l.slots type n ≤ places (l.serve r).live (l.serve r).slots type n := by
  cases r with
  | acquire other =>
    cases hfree : l.slots.freeOf other with
    | cons k rest =>
      rw [serve_acquire_cons hfree]
      exact (places_acquire_cons hfree _ type n).ge
    | nil =>
      rw [serve_acquire_nil hfree]
      unfold places
      rw [count_lease_cons]
      exact Nat.add_le_add_right (Nat.le_add_right _ _) _
  | release lease =>
    by_cases hlive : lease ∈ l.live
    · rw [serve_release hlive]
      exact (places_release l.slots hlive type n).ge
    · rw [serve_release_of_notMem hlive]

lemma Kept.serve {base : Nat} (h : Kept base l) (r : Request) : Kept base (l.serve r) := by
  have hplaced : ∀ g ∈ l.granted, 0 < places (l.serve r).live (l.serve r).slots g.type g.slot :=
    fun g hg => Nat.lt_of_lt_of_le (h.placed g hg) (l.places_le_serve r g.type g.slot)
  cases r with
  | acquire type =>
    refine ⟨h.holding.acquire type, fun g hg => ?_⟩
    rcases List.mem_cons.mp hg with rfl | hg
    · exact Nat.add_pos_left (List.count_pos_iff.mpr (List.mem_cons_self ..)) _
    · exact hplaced g hg
  | release lease =>
    by_cases hlive : lease ∈ l.live
    · rw [serve_release hlive] at hplaced ⊢
      exact ⟨h.holding.release hlive, hplaced⟩
    · rw [serve_release_of_notMem hlive]
      exact h

lemma Kept.serveAll {base : Nat} (h : Kept base l) (rs : List Request) :
    Kept base (l.serveAll rs) := by
  induction rs generalizing l with
  | nil => exact h
  | cons r rs ih => exact ih (h.serve r)

lemma Kept.granted {base : Nat} (h : Kept base l) :
    ∃ owner : Nat → Ident, ∀ g ∈ l.granted,
      base ≤ g.slot ∧ g.slot < l.slots.next ∧ owner g.slot = g.type := by
  obtain ⟨-, -, owner, hone⟩ := h.holding.sound
  rw [h.holding.base_eq] at hone
  refine ⟨owner, fun g hg => ?_⟩
  have hplaced := h.placed g hg
  rw [hone] at hplaced
  by_contra hout
  rw [if_neg hout] at hplaced
  exact Nat.lt_irrefl 0 hplaced

lemma Kept.nodup {base : Nat} (h : Kept base l) : (l.live.map Lease.slot).Nodup := by
  obtain ⟨owner, howner⟩ := h.holding.sound.lease
  have hlive : l.live.Nodup := by
    rw [List.nodup_iff_count_eq_one]
    exact fun g hg => (howner g hg).1
  refine hlive.map_on fun g hg k hk hslot => ?_
  have htype : g.type = k.type := by
    rw [← (howner g hg).2.2, ← (howner k hk).2.2, hslot]
  cases g
  cases k
  simp_all

/-- A slot that was handed out is held once or free once. -/
lemma Kept.held_or_free {base : Nat} (h : Kept base l) {n : Nat} (hn : base ≤ n)
    (hn' : n < l.slots.next) :
    ((l.live.map Lease.slot).count n = 1 ∧ ∀ type, n ∉ l.slots.freeOf type) ∨
      n ∉ l.live.map Lease.slot ∧ ∃ type, (l.slots.freeOf type).count n = 1 ∧
        ∀ other, n ∈ l.slots.freeOf other → other = type := by
  obtain ⟨-, -, owner, hone⟩ := h.holding.sound
  rw [h.holding.base_eq] at hone
  have hplaces : l.live.count ⟨n, owner n⟩ + (l.slots.freeOf (owner n)).count n = 1 := by
    have := hone (owner n) n
    rwa [if_pos ⟨hn, hn', rfl⟩] at this
  have hother : ∀ type, type ≠ owner n → ⟨n, type⟩ ∉ l.live ∧ n ∉ l.slots.freeOf type := by
    intro type htype
    have hzero : l.live.count ⟨n, type⟩ + (l.slots.freeOf type).count n = 0 := by
      have := hone type n
      rwa [if_neg fun hin => htype hin.2.2.symm] at this
    rw [Nat.add_eq_zero_iff] at hzero
    exact ⟨List.count_eq_zero.mp hzero.1, List.count_eq_zero.mp hzero.2⟩
  by_cases hheld : ⟨n, owner n⟩ ∈ l.live
  · have hpos : 0 < l.live.count ⟨n, owner n⟩ := List.count_pos_iff.mpr hheld
    refine .inl ⟨List.count_eq_one_of_mem h.nodup (List.mem_map_of_mem hheld), fun type => ?_⟩
    by_cases htype : type = owner n
    · rw [htype, ← List.count_eq_zero]
      omega
    · exact (hother type htype).2
  · have hzero : l.live.count ⟨n, owner n⟩ = 0 := List.count_eq_zero.mpr hheld
    refine .inr ⟨?_, owner n, by omega, fun other hfree => ?_⟩
    · intro hmem
      obtain ⟨⟨k, type⟩, hlive, hslot⟩ := List.mem_map.mp hmem
      obtain rfl : n = k := hslot.symm
      by_cases htype : type = owner n
      · exact hheld (htype ▸ hlive)
      · exact (hother type htype).1 hlive
    · by_contra htype
      exact (hother other htype).2 hfree

/-! ### As many slots as are needed -/

lemma stockOf_acquire_cons {n : Nat} {rest : List Nat} (h : l.slots.freeOf type = n :: rest)
    (other : Ident) : (l.serve (.acquire type)).stockOf other = l.stockOf other := by
  rw [serve_acquire_cons h]
  simp only [stockOf, heldFor, List.countP_cons, freeOf_insert, decide_eq_true_eq]
  split_ifs with htype
  · subst htype
    rw [h, List.length_cons]
    omega
  · rfl

lemma heldFor_acquire_nil (h : l.slots.freeOf type = []) (other : Ident) :
    (l.serve (.acquire type)).heldFor other = l.heldFor other + if type = other then 1 else 0 := by
  rw [serve_acquire_nil h]
  simp only [heldFor, List.countP_cons, decide_eq_true_eq]

lemma stockOf_acquire_nil (h : l.slots.freeOf type = []) (other : Ident) :
    (l.serve (.acquire type)).stockOf other = l.stockOf other + if type = other then 1 else 0 := by
  have hfree : (l.serve (.acquire type)).slots.freeOf other = l.slots.freeOf other := by
    rw [serve_acquire_nil h]
    rfl
  rw [stockOf, stockOf, hfree, heldFor_acquire_nil h]
  omega

lemma stockOf_release (l : Ledger) (lease : Lease) (type : Ident) :
    (l.serve (.release lease)).stockOf type = l.stockOf type := by
  by_cases hlive : lease ∈ l.live
  · rw [serve_release hlive]
    simp only [stockOf, heldFor, List.countP_erase, Slots.release, freeOf_insert, hlive, true_and,
      decide_eq_true_eq]
    split_ifs with htype
    · subst htype
      have hheld : 0 < l.live.countP (·.type = lease.type) :=
        List.countP_pos_iff.mpr ⟨lease, hlive, by simp⟩
      rw [List.length_cons]
      omega
    · rfl
  · rw [serve_release_of_notMem hlive]

/-- The stock of a type grows just when more leases of it are to be held than ever before. -/
lemma stockOf_serve (l : Ledger) (r : Request) (type : Ident) :
    (l.serve r).stockOf type = max (l.stockOf type) ((l.serve r).heldFor type) := by
  have hle : (l.serve r).heldFor type ≤ (l.serve r).stockOf type := Nat.le_add_right _ _
  cases r with
  | release lease =>
    rw [stockOf_release] at hle ⊢
    exact (Nat.max_eq_left hle).symm
  | acquire other =>
    cases hfree : l.slots.freeOf other with
    | cons n rest =>
      rw [stockOf_acquire_cons hfree] at hle ⊢
      exact (Nat.max_eq_left hle).symm
    | nil =>
      have hheld : l.heldFor type ≤ l.stockOf type := Nat.le_add_right _ _
      rw [stockOf_acquire_nil hfree, heldFor_acquire_nil hfree]
      by_cases htype : other = type
      · -- All slots of the type were held.
        subst htype
        have hstock : l.stockOf other = l.heldFor other := by simp [stockOf, hfree]
        rw [if_pos rfl]
        omega
      · rw [if_neg htype]
        omega

lemma stockOf_serveAll (l : Ledger) (rs : List Request) (type : Ident) :
    (l.serveAll rs).stockOf type = max (l.stockOf type) (l.peak type rs) := by
  induction rs generalizing l with
  | nil => exact (Nat.max_eq_left (Nat.le_add_right _ _)).symm
  | cons r rs ih =>
    have hpeak : (l.serve r).heldFor type ≤ (l.serve r).peak type rs := by
      cases rs with
      | nil => exact Nat.le_refl _
      | cons r' rs => exact Nat.le_max_left _ _
    have hheld : l.heldFor type ≤ l.stockOf type := Nat.le_add_right _ _
    have hrun : (l.serveAll (r :: rs)).stockOf type = _ := ih (l.serve r)
    rw [hrun, stockOf_serve, peak]
    omega

lemma next_serve {base : Nat} {types : Finset Ident}
    (h : l.slots.next = base + ∑ type ∈ types, l.stockOf type) (r : Request)
    (hr : ∀ type, r = .acquire type → type ∈ types) :
    (l.serve r).slots.next = base + ∑ type ∈ types, (l.serve r).stockOf type := by
  cases r with
  | release lease =>
    simp only [stockOf_release]
    by_cases hlive : lease ∈ l.live
    · rw [serve_release hlive]
      exact h
    · rw [serve_release_of_notMem hlive]
      exact h
  | acquire other =>
    cases hfree : l.slots.freeOf other with
    | cons n rest =>
      simp only [stockOf_acquire_cons hfree]
      rw [serve_acquire_cons hfree]
      exact h
    | nil =>
      simp only [stockOf_acquire_nil hfree]
      rw [Finset.sum_add_distrib, Finset.sum_ite_eq, if_pos (hr other rfl), ← Nat.add_assoc, ← h,
        serve_acquire_nil hfree]

lemma next_serveAll {base : Nat} {types : Finset Ident}
    (h : l.slots.next = base + ∑ type ∈ types, l.stockOf type) {rs : List Request}
    (hrs : ∀ type, .acquire type ∈ rs → type ∈ types) :
    (l.serveAll rs).slots.next = base + ∑ type ∈ types, (l.serveAll rs).stockOf type := by
  induction rs generalizing l with
  | nil => exact h
  | cons r rs ih =>
    have hr : ∀ type, r = .acquire type → type ∈ types :=
      fun type heq => hrs type (heq ▸ List.mem_cons_self ..)
    exact ih (next_serve h r hr) fun type hmem => hrs type (List.mem_cons_of_mem r hmem)

lemma stockOf_startingAt (base : Nat) (type : Ident) : (startingAt base).stockOf type = 0 := by
  simp [stockOf, heldFor, startingAt, freeOf_startingAt]

/-- **The accounts of a slot pool.** Whatever slots are asked for and given back in whatever order,
leases that are held together have different slots, each slot that was ever granted lies between the
base and the high-water mark, and all leases of it are for one type. Each slot in that range is held
under one lease or is on one free list, once. The number of held slots is right, and as many slots
were handed out as the types needed, each for the most leases of it that were held at once. -/
theorem balanced_serveAll (base : Nat) (rs : List Request) :
    let l := (startingAt base).serveAll rs
    (l.live.map Lease.slot).Nodup ∧
      (∀ g ∈ l.granted, base ≤ g.slot ∧ g.slot < base + l.slots.highWater) ∧
      (∀ g ∈ l.granted, ∀ k ∈ l.granted, g.slot = k.slot → g.type = k.type) ∧
      (∀ n, base ≤ n → n < l.slots.next →
        ((l.live.map Lease.slot).count n = 1 ∧ ∀ type, n ∉ l.slots.freeOf type) ∨
          n ∉ l.live.map Lease.slot ∧ ∃ type, (l.slots.freeOf type).count n = 1 ∧
            ∀ other, n ∈ l.slots.freeOf other → other = type) ∧
      l.slots.held = l.live.length ∧
      ∀ types : Finset Ident, (∀ type, .acquire type ∈ rs → type ∈ types) →
        l.slots.highWater = ∑ type ∈ types, (startingAt base).peak type rs := by
  intro l
  have hkept : Kept base l := (kept_startingAt base).serveAll rs
  have hbase : l.slots.base = base := hkept.holding.base_eq
  have hle : base ≤ l.slots.next := hbase ▸ hkept.holding.sound.base_le
  obtain ⟨owner, howner⟩ := hkept.granted
  refine ⟨hkept.nodup, fun g hg => ?_, fun g hg k hk hslot => ?_,
    fun n hn hn' => hkept.held_or_free hn hn', hkept.holding.sound.held, fun types htypes => ?_⟩
  · obtain ⟨hg₁, hg₂, -⟩ := howner g hg
    rw [highWater, hbase]
    omega
  · rw [← (howner g hg).2.2, ← (howner k hk).2.2, hslot]
  · have hstart : (startingAt base).slots.next =
        base + ∑ type ∈ types, (startingAt base).stockOf type := by
      simp only [stockOf_startingAt, Finset.sum_const_zero]
      rfl
    have hnext := next_serveAll hstart htypes
    simp only [stockOf_serveAll, stockOf_startingAt, Nat.zero_max] at hnext
    rw [highWater, hbase, hnext, Nat.add_sub_cancel_left]

end Ledger

end PropertyLowering.Slots
