import PropertyLowering.Digest

/-!
Identities of types and members, computed from names alone.

Each kind of entity mixes in a marker of its own, so that a type and a field of one spelling
differ. Ordered parts, such as the arguments of a generic application, are folded in with a
marker for their position, so that their order counts.
-/

namespace PropertyLowering

structure Ident where
  bits : UInt64
  deriving DecidableEq, Hashable, Repr, Inhabited

namespace Ident

/-- The identity of nothing. -/
def empty : Ident := ⟨0⟩

def isEmpty (i : Ident) : Bool :=
  i.bits == 0

/-- The hexadecimal digit of a number below sixteen. -/
def hexDigit (n : Nat) : Char :=
  if n < 10 then Char.ofNat (48 + n) else Char.ofNat (87 + n)

/-- Sixteen lower-case hexadecimal digits after `0x`. -/
def text (i : Ident) : String :=
  "0x" ++ String.ofList
    ((List.range 16).map fun k => hexDigit (i.bits.toNat / Nat.pow 16 (15 - k) % 16))

def separator : UInt64 := 0x4bc94d6bd06053ad
def typeMarker : UInt64 := 0x2fac10b63a6cc57c
def fieldMarker : UInt64 := 0x1a095090689d4647
def methodMarker : UInt64 := 0x7d3c8b4a92e15f6d
def propertyMarker : UInt64 := 0x3e9f5d2a8c7b1403
def genericMethodMarker : UInt64 := 0x9a7f3d5e2b8c4601

def firstMarker : UInt64 := 0x9e3779b97f4a7c15

/-- Markers of the first positions. -/
def positionMarkers : List UInt64 :=
  [firstMarker, 0xbf58476d1ce4e5b9, 0x94d049bb133111eb, 0xd6e8feb86659fd93,
    0xe7037ed1a0b428db, 0xc6a4a7935bd1e995, 0x8648dbbc94d49b8d, 0xa2b48b2c69e0d657]

/-- Positions past the table count up from its first marker. -/
def positionMarker (n : Nat) : UInt64 :=
  positionMarkers[n]?.getD (firstMarker + UInt64.ofNat n)

/-- Folds parts into a seed, the first of them standing at position `n`. -/
def foldFrom : Nat → UInt64 → List Ident → UInt64
  | _, h, [] => h
  | n, h, part :: parts => foldFrom (n + 1) (h * separator + (positionMarker n ^^^ part.bits)) parts

def fold (seed : UInt64) (parts : List Ident) : UInt64 :=
  foldFrom 0 seed parts

/-- The type of a qualified name. -/
def ofTypeName (name : String) : Ident :=
  ⟨typeMarker ^^^ Digest.ofText name⟩

def ofField (owner : Ident) (name : String) : Ident :=
  ⟨fieldMarker ^^^ Digest.rotateLeft owner.bits 17 ^^^ Digest.ofText name⟩

def ofProperty (owner : Ident) (name : String) : Ident :=
  ⟨propertyMarker ^^^ Digest.rotateLeft owner.bits 23 ^^^ Digest.ofText name⟩

/-- The method of a name that takes the given types. -/
def ofMethod (owner : Ident) (name : String) (params : List Ident) : Ident :=
  ⟨fold (methodMarker ^^^ owner.bits ^^^ Digest.ofText name) params⟩

/-- A generic definition closed over arguments. -/
def ofInstance (definition : Ident) (args : List Ident) : Ident :=
  ⟨fold definition.bits args⟩

/-- A generic method closed over type arguments. -/
def ofMethodInstance (method : Ident) (args : List Ident) : Ident :=
  ⟨fold (genericMethodMarker ^^^ method.bits) args⟩

@[simp] theorem foldFrom_nil (n : Nat) (h : UInt64) : foldFrom n h [] = h := rfl

@[simp] theorem foldFrom_cons (n : Nat) (h : UInt64) (p : Ident) (ps : List Ident) :
    foldFrom n h (p :: ps) =
      foldFrom (n + 1) (h * separator + (positionMarker n ^^^ p.bits)) ps := rfl

@[simp] theorem ofInstance_nil (definition : Ident) : ofInstance definition [] = definition := rfl

end Ident

end PropertyLowering
