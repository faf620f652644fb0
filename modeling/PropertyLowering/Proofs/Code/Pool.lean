import Mathlib.Data.List.Forall2
import Mathlib.Data.List.Nodup
import Mathlib.Tactic.Lemma
import Mathlib.Tactic.SplitIfs
import PropertyLowering.Code.Pool

/-!
A constant pool over the whole time that it is in use.

Main statement: of all that is ever added to a new pool, equal constants and only they have one
index, and this index leads to the constant from then on.
-/

namespace PropertyLowering

namespace Pool

variable {p : Pool} {c d : Constant} {i j : Nat}

lemma add_of_get? (h : p.get? i = some c) : p.add c = (i, p) := by
  have hindex := (p.index_key_iff c i).mpr h
  unfold add
  split
  · next j hj => rw [Option.some.inj (hindex.symm.trans hj)]
  · next hnone => exact absurd (hindex.symm.trans hnone) (by simp)

lemma get?_inj (hi : p.get? i = some c) (hj : p.get? j = some c) : i = j := by
  rw [← p.index_key_iff] at hi hj
  exact Option.some.inj (hi.symm.trans hj)

lemma mem_constants : c ∈ p.constants.toList ↔ ∃ i, p.get? i = some c := by
  simp [List.mem_iff_getElem?, get?]

lemma nodup_constants (p : Pool) : p.constants.toList.Nodup := by
  rw [List.nodup_iff_getElem?_ne_getElem?]
  intro i j hij hj heq
  obtain ⟨c, hc⟩ : ∃ c, p.get? j = some c := ⟨_, Array.getElem?_eq_getElem hj⟩
  simp only [Array.getElem?_toList] at heq
  exact Nat.ne_of_lt hij (get?_inj (heq.trans hc) hc)

lemma mem_constants_add :
    d ∈ (p.add c).2.constants.toList ↔ d ∈ p.constants.toList ∨ d = c := by
  unfold add
  split
  · next i h =>
    have hc : c ∈ p.constants.toList := mem_constants.mpr ⟨i, (p.index_key_iff c i).mp h⟩
    constructor
    · exact .inl
    · rintro (hd | rfl)
      · exact hd
      · exact hc
  · simp [push]

end Pool

/-- A request for the index of a constant. -/
inductive Addition where
  | constant (c : Constant)
  | text (bytes : List UInt8)
  | ident (id : Ident)
  | genericMethod (method : Ident) (args : List Ident)

namespace Addition

/-- The constant that the request is about. -/
def asked : Addition → Constant
  | constant c => c
  | text bytes => .text bytes
  | ident id => .ident id
  | genericMethod method args => .genericMethod method args

def perform (p : Pool) : Addition → Nat × Pool
  | constant c => p.add c
  | text bytes => p.addText bytes
  | ident id => p.addIdent id
  | genericMethod method args => p.addGenericMethod method args

/-- The indices that are returned one after the other, and the pool in the end. -/
def performAll (p : Pool) : List Addition → List Nat × Pool
  | [] => ([], p)
  | a :: as =>
    let (index, p) := a.perform p
    let (indices, p) := performAll p as
    (index :: indices, p)

lemma perform_eq (p : Pool) (a : Addition) : a.perform p = p.add a.asked := by
  cases a <;> rfl

lemma performAll_cons (p : Pool) (a : Addition) (as : List Addition) :
    performAll p (a :: as) =
      let (index, p) := p.add a.asked
      (index :: (performAll p as).1, (performAll p as).2) := by
  rw [performAll, perform_eq]

variable {p : Pool} {c : Constant} {i : Nat}

lemma get?_performAll (as : List Addition) (h : p.get? i = some c) :
    (performAll p as).2.get? i = some c := by
  induction as generalizing p with
  | nil => exact h
  | cons a as ih =>
    rw [performAll_cons]
    exact ih (Pool.get?_add_of_get? a.asked h)

lemma forall₂_performAll (p : Pool) (as : List Addition) :
    List.Forall₂ (fun a i => (performAll p as).2.get? i = some a.asked) as
      (performAll p as).1 := by
  induction as generalizing p with
  | nil => exact .nil
  | cons a as ih =>
    rw [performAll_cons]
    exact .cons (get?_performAll as (p.get?_add a.asked)) (ih (p.add a.asked).2)

lemma mem_constants_performAll (p : Pool) (as : List Addition) :
    c ∈ (performAll p as).2.constants.toList ↔
      c ∈ p.constants.toList ∨ ∃ a ∈ as, a.asked = c := by
  induction as generalizing p with
  | nil => simp [performAll]
  | cons a as ih =>
    rw [performAll_cons]
    simp only [ih, Pool.mem_constants_add, or_assoc, List.exists_mem_cons_iff, eq_comm]

/-- **One index for each constant.** Whatever is asked of a new pool, it stores the constants that
were asked for, each once, and its index has their keys and no others, each with the position of its
constant. A request returns an index under which its constant is found, also after all later
requests, and two requests return the same index just in case they ask for the same constant. -/
theorem performAll_empty (as : List Addition) :
    let (indices, p) := performAll .empty as
    p.constants.toList.Nodup ∧
      (∀ c, c ∈ p.constants.toList ↔ ∃ a ∈ as, a.asked = c) ∧
      (∀ k i, p.index[k]? = some i ↔ ∃ c, p.get? i = some c ∧ c.key = k) ∧
      List.Forall₂ (fun a i => p.get? i = some a.asked) as indices ∧
      (∀ x ∈ as.zip indices, ∀ y ∈ as.zip indices, x.2 = y.2 ↔ x.1.asked = y.1.asked) ∧
      ∀ later i c, p.get? i = some c → (performAll p later).2.get? i = some c := by
  have hfound := forall₂_performAll .empty as
  refine ⟨Pool.nodup_constants _, fun c => ?_, fun k i => ?_, hfound, ?_, fun later i c => ?_⟩
  · rw [mem_constants_performAll]
    simp [Pool.empty]
  · rw [Pool.indexed, Option.map_eq_some_iff, Pool.get?]
  · intro x hx y hy
    have hget := List.forall₂_zip hfound hx
    have hget' := List.forall₂_zip hfound hy
    constructor
    · intro heq
      rw [heq, hget'] at hget
      exact (Option.some.inj hget).symm
    · intro heq
      rw [heq] at hget
      exact Pool.get?_inj hget hget'
  · exact get?_performAll later

end Addition

end PropertyLowering
