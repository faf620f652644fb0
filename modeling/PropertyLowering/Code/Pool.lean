import PropertyLowering.Ident
import Std.Data.HashMap

/-!
Constants that instructions refer to, and the pool that all chunks of a document share. Equal
constants are stored once, and a constant keeps its index.
-/

namespace PropertyLowering

inductive Constant where
  | int (value : Int)
  | text (bytes : List UInt8)
  /-- A type, field or method that is not generic. -/
  | ident (id : Ident)
  /-- A generic method closed over type arguments. -/
  | genericMethod (method : Ident) (args : List Ident)
  /-- A handle on the declaration of a property. -/
  | property (id : Ident)
  deriving DecidableEq, Hashable, Repr

namespace Constant

/-- The constant of a string literal, in UTF-8. -/
def ofString (s : String) : Constant := text s.toUTF8.toList

/-- What a pool looks constants up by. -/
inductive Key where
  | int (value : Int)
  | text (bytes : List UInt8)
  | ident (id : Ident)
  | genericMethod (method : Ident) (args : List Ident)
  | property (id : Ident)
  deriving DecidableEq, Hashable, Repr

def key : Constant → Key
  | int value => .int value
  | text bytes => .text bytes
  | ident id => .ident id
  | genericMethod method args => .genericMethod method args
  | property id => .property id

/-- No two constants are looked up by one key. -/
theorem key_inj {c d : Constant} (h : c.key = d.key) : c = d := by
  cases c <;> cases d <;> simp_all [key]

end Constant

structure Pool where
  constants : Array Constant
  index : Std.HashMap Constant.Key Nat
  /-- The index knows the keys of the stored constants and no others, each under the position of its
  constant. -/
  indexed : ∀ (k : Constant.Key) (i : Nat),
    index[k]? = some i ↔ constants[i]?.map Constant.key = some k

namespace Pool

def empty : Pool := ⟨#[], ∅, by simp⟩

def size (p : Pool) : Nat := p.constants.size

def get? (p : Pool) (index : Nat) : Option Constant := p.constants[index]?

/-- A pool with a constant that it does not have yet. -/
def push (p : Pool) (c : Constant) (fresh : p.index[c.key]? = none) : Pool where
  constants := p.constants.push c
  index := p.index.insert c.key p.constants.size
  indexed := by
    intro k i
    have absent : p.constants[i]?.map Constant.key ≠ some c.key := by
      rw [Ne, ← p.indexed, fresh]
      simp
    rw [Std.HashMap.getElem?_insert, Array.getElem?_push]
    by_cases hk : c.key = k
    · subst hk
      by_cases hi : i = p.constants.size
      · simp [hi]
      · simp only [beq_self_eq_true, if_true, hi, if_false, absent, iff_false]
        simpa [eq_comm] using hi
    · by_cases hi : i = p.constants.size
      · have past : p.constants[i]? = none := by simp [hi]
        simp [hk, hi, p.indexed]
      · simp [hk, hi, p.indexed]

/-- The index of a constant, which is stored if it is new. -/
def add (p : Pool) (c : Constant) : Nat × Pool :=
  match h : p.index[c.key]? with
  | some i => (i, p)
  | none => (p.constants.size, p.push c h)

def addText (p : Pool) (bytes : List UInt8) : Nat × Pool := p.add (.text bytes)

def addIdent (p : Pool) (id : Ident) : Nat × Pool := p.add (.ident id)

def addGenericMethod (p : Pool) (method : Ident) (args : List Ident) : Nat × Pool :=
  p.add (.genericMethod method args)

/-- A constant is looked up by its key just where it is stored. -/
theorem index_key_iff (p : Pool) (c : Constant) (i : Nat) :
    p.index[c.key]? = some i ↔ p.get? i = some c := by
  rw [p.indexed, Option.map_eq_some_iff]
  constructor
  · rintro ⟨d, hd, hkey⟩
    rw [get?, hd, Constant.key_inj hkey]
  · intro h
    exact ⟨c, h, rfl⟩

/-- The constant that was asked for is found under the index that was given. -/
theorem get?_add (p : Pool) (c : Constant) : (p.add c).2.get? (p.add c).1 = some c := by
  unfold add
  split
  · next i h => exact (p.index_key_iff c i).mp h
  · simp [get?, push]

/-- Stored constants stay where they are. -/
theorem get?_add_of_get? {p : Pool} {d : Constant} {i : Nat} (c : Constant)
    (h : p.get? i = some d) : (p.add c).2.get? i = some d := by
  unfold add
  split
  · exact h
  · have hi : i < p.constants.size := by
      rw [get?, Array.getElem?_eq_some_iff] at h
      exact h.1
    rw [get?] at h
    simp [get?, push, Array.getElem?_push, Nat.ne_of_lt hi, h]

end Pool

end PropertyLowering
