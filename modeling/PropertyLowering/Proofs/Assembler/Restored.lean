import PropertyLowering.Proofs.Assembler.Emits

/-!
What emissions leave of slots and constants, whether they succeed or not.

A slot is taken for the time of a body and given back however the body ends. So the same slots are
held afterwards as before, and the free ones are found again in the same order, with new ones behind
them at most.
-/

namespace PropertyLowering

namespace Slots

/-- In `t` the same leases are held as in `s`, and each free list begins as it was in `s`. -/
structure Restored (s t : Slots) : Prop where
  live : ∀ base live, Holding base live s → Holding base live t
  held : t.held = s.held
  free : ∀ type, s.freeOf type <+: t.freeOf type

namespace Restored

variable {s t u : Slots} {type : Ident}

lemma refl (s : Slots) : Restored s s := ⟨fun _ _ h => h, rfl, fun _ => List.prefix_rfl⟩

lemma trans (hst : Restored s t) (htu : Restored t u) : Restored s u where
  live := fun base live h => htu.live base live (hst.live base live h)
  held := htu.held.trans hst.held
  free := fun type => (hst.free type).trans (htu.free type)

end Restored

lemma freeOf_release (s : Slots) (l : Lease) (type : Ident) :
    (s.release l).freeOf type =
      if l.type = type then l.slot :: s.freeOf l.type else s.freeOf type := by
  rw [release, freeOf_insert]

lemma type_acquire (s : Slots) (type : Ident) : (s.acquire type).1.type = type := by
  unfold acquire
  split <;> rfl

lemma held_acquire (s : Slots) (type : Ident) : (s.acquire type).2.held = s.held + 1 := by
  unfold acquire
  split <;> rfl

lemma freeOf_acquire (s : Slots) (type other : Ident) :
    s.freeOf other <+:
      if type = other then (s.acquire type).1.slot :: (s.acquire type).2.freeOf type
      else (s.acquire type).2.freeOf other := by
  cases hfree : s.freeOf type with
  | nil =>
    rw [acquire_nil hfree]
    split_ifs with htype
    · rw [← htype, hfree]
      exact List.nil_prefix
    · exact List.prefix_rfl
  | cons n rest =>
    rw [acquire_cons hfree]
    simp only [freeOf_insert]
    split_ifs with htype
    · obtain rfl := htype
      exact hfree ▸ List.prefix_rfl
    · exact List.prefix_rfl

/-- What a body restores is restored for good when the slot of the body is given back. -/
lemma Restored.release {s t : Slots} {type : Ident} (h : Restored (s.acquire type).2 t) :
    Restored s (t.release (s.acquire type).1) where
  live := by
    intro base live hlive
    have hrelease := (h.live base _ (hlive.acquire type)).release (List.mem_cons_self ..)
    rwa [List.erase_cons_head] at hrelease
  held := by
    have hheld : (t.release (s.acquire type).1).held = t.held - 1 := rfl
    rw [hheld, h.held, held_acquire, Nat.add_sub_cancel]
  free := by
    intro other
    refine (s.freeOf_acquire type other).trans ?_
    rw [freeOf_release, type_acquire]
    split_ifs
    · exact List.cons_prefix_cons.mpr ⟨rfl, h.free type⟩
    · exact h.free other

end Slots

namespace Asm

/-- Constants keep their indices and slots are restored, also by a failure. -/
def Restores (x : Asm α) : Prop :=
  ∀ a r b, outcome x a = (r, b) → a.pool.Extends b.pool ∧ a.slots.Restored b.slots

lemma restores_pure (r : α) : (pure r : Asm α).Restores := by
  intro a s b h
  obtain ⟨-, rfl⟩ := Prod.mk.inj h
  exact ⟨.refl _, .refl _⟩

lemma restores_throw (e : CompileError) : (throw e : Asm α).Restores := by
  intro a s b h
  obtain ⟨-, rfl⟩ := Prod.mk.inj h
  exact ⟨.refl _, .refl _⟩

lemma Restores.bind {x : Asm α} {f : α → Asm β} (hx : x.Restores) (hf : ∀ r, (f r).Restores) :
    (x >>= f).Restores := by
  intro a s c h
  rw [outcome_bind] at h
  rcases hxa : outcome x a with ⟨e | r, b⟩
  · rw [hxa] at h
    obtain ⟨-, rfl⟩ := Prod.mk.inj h
    exact hx a _ b hxa
  · rw [hxa] at h
    obtain ⟨hpool, hslots⟩ := hx a _ b hxa
    obtain ⟨hpool', hslots'⟩ := hf r b s c h
    exact ⟨hpool.trans hpool', hslots.trans hslots'⟩

lemma Restores.withSlots {types : List Ident} {body : List Nat → Asm α}
    (hbody : ∀ slots, (body slots).Restores) : (withSlots types body).Restores := by
  induction types generalizing body with
  | nil => exact hbody []
  | cons type types ih =>
    intro a r c h
    obtain ⟨b, hb, rfl⟩ := outcome_withSlot_eq h
    obtain ⟨hpool, hslots⟩ := ih (fun slots => hbody (_ :: slots)) _ r b hb
    exact ⟨hpool, hslots.release⟩

lemma slots_outcome_perform (op : Operation) (a : Assembler) :
    (outcome op.perform a).2.slots = a.slots := by
  by_cases hover : op.Overflows a.pool
  · obtain ⟨m, h⟩ := Operation.outcome_perform_overflow hover
    rw [h]
  · cases he : op.emits with
    | true =>
      obtain ⟨i, -, h⟩ := Operation.outcome_perform he hover
      rw [h]
      rfl
    | false =>
      cases op with
      | setLine line => rfl
      | _ => cases he

lemma restores_perform (op : Operation) : op.perform.Restores := by
  intro a r b h
  obtain ⟨is, his⟩ := Operation.appends_perform a op
  have hslots := slots_outcome_perform op a
  rw [h] at his hslots
  exact ⟨his.pool, hslots ▸ .refl _⟩

end Asm

end PropertyLowering
