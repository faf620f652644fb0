import PropertyLowering.Proofs.Assignment.Pieces

/-!
Inline code that is emitted again.

Main statement: once a setter was emitted inline, it can be emitted again after whatever else went
into the assembler, and comes out in the same bytes, with no new constant and no new slot.
-/

namespace PropertyLowering

open Asm

/-- What code for a document is made of: assignments, values and single operations, each of them
in a context of its own. -/
inductive Lowering where
  | inline (ctx : Context) (s : Setter)
  | withArguments (ctx : Context) (s : Setter) (args : List Value)
  | push (ctx : Context) (v : Value)
  | argument (ctx : Context) (v : Value) (expected : Ident)
  | operation (op : Operation)

namespace Lowering

def perform : Lowering → Asm Unit
  | inline ctx s => s.inline ctx
  | withArguments ctx s args => s.withArguments ctx args
  | push ctx v => Asm.push ctx v
  | argument ctx v expected => Asm.argument ctx v expected
  | operation op => op.perform

/-- The assembler after several of them, the failing ones included. -/
def runAll (a : Assembler) (ls : List Lowering) : Assembler :=
  ls.foldl (fun a l => (outcome l.perform a).2) a

lemma restores_perform (l : Lowering) : l.perform.Restores := by
  cases l with
  | inline ctx s =>
    simp only [perform, s.inline_eq_all]
    exact Restores.withSlots fun slots => Piece.restores_all (s.emitting_inlinePieces ctx slots)
  | withArguments ctx s args =>
    simp only [perform, s.withArguments_eq_all]
    exact Piece.restores_all (s.emitting_passedPieces ctx args)
  | push ctx v =>
    simp only [perform, v.push_eq_all]
    exact Piece.restores_all (v.emitting_pieces ctx)
  | argument ctx v expected =>
    simp only [perform, v.argument_eq_all]
    exact Piece.restores_all (v.emitting_passed ctx expected)
  | operation op => exact Asm.restores_perform op

lemma restores_runAll (a : Assembler) (ls : List Lowering) :
    a.pool.Extends (runAll a ls).pool ∧ a.slots.Restored (runAll a ls).slots := by
  induction ls generalizing a with
  | nil => exact ⟨.refl _, .refl _⟩
  | cons l ls ih =>
    obtain ⟨hpool, hslots⟩ := l.restores_perform a _ _ rfl
    obtain ⟨hpool', hslots'⟩ := ih (outcome l.perform a).2
    exact ⟨hpool.trans hpool', hslots.trans hslots'⟩

end Lowering

namespace Setter

/-- **Inline code is emitted again as it was.** Once it was emitted, it is emitted after any other
emissions too, failing ones included. Its bytes are the same, and neither a constant nor a slot is
added for it. -/
theorem inline_again {ctx : Context} {s : Setter} {a b : Assembler}
    (h : outcome (s.inline ctx) a = (.ok (), b)) (between : List Lowering) :
    let c := Lowering.runAll b between
    ∃ bytes d, b.chunk.code = a.chunk.code ++ bytes ∧
      outcome (s.inline ctx) c = (.ok (), d) ∧ d.chunk.code = c.chunk.code ++ bytes ∧
      d.pool = c.pool ∧ d.slots.highWater = c.slots.highWater := by
  intro c
  rw [s.inline_eq_all] at h ⊢
  have hrepeats := fun slots => Piece.repeats_all (s.emitting_inlinePieces ctx slots)
  obtain ⟨bytes, hbytes, hagain⟩ := repeats_withSlots hrepeats h
  obtain ⟨hpool, hslots⟩ := Lowering.restores_runAll b between
  obtain ⟨d, hd⟩ := hagain c hpool hslots.free
  exact ⟨bytes, d, hbytes, hd⟩

theorem inline_again_priority :
    let ctx := Context.declared .customary []
    let p := FieldProperty.declared .customary FrameworkNames.customary.bindingPriority
    let s := p.setter ctx .plainWithPriority 2
    let a := Assembler.start .empty 0
    let b := (outcome (s.inline ctx) a).2
    let c := Lowering.runAll b [.operation (.setLocal 70000), .inline ctx (p.setter ctx .binding 3),
      .withArguments ctx s [.null .unknown, .null .unknown]]
    ∃ bytes d, b.chunk.code = a.chunk.code ++ bytes ∧
      outcome (s.inline ctx) c = (.ok (), d) ∧ d.chunk.code = c.chunk.code ++ bytes ∧
      d.pool = c.pool ∧ d.slots.highWater = c.slots.highWater := by
  intro ctx p s a b
  have hfw : ctx.framework.StoreShaped := (Framework.declared_shaped _).toStoreShaped
  have hok : (outcome (s.inline ctx) a).1 = .ok () :=
    inline_ok_of_start hfw s (by decide) (by decide)
  exact inline_again (Prod.ext hok rfl) _

end Setter

end PropertyLowering
