/-!
The 64-bit xxHash of a sequence of bytes, with seed zero.

Whole stripes of 32 bytes go through four accumulators. What is left is mixed in by words of
eight bytes, then at most one word of four, then single bytes.
-/

namespace PropertyLowering.Digest

def prime1 : UInt64 := 0x9e3779b185ebca87
def prime2 : UInt64 := 0xc2b2ae3d27d4eb4f
def prime3 : UInt64 := 0x165667b19e3779f9
def prime4 : UInt64 := 0x85ebca77c2b2ae63
def prime5 : UInt64 := 0x27d4eb2f165667c5

def rotateLeft (x n : UInt64) : UInt64 :=
  (x <<< n) ||| (x >>> (64 - n))

/-- The bytes as a number, least significant byte first. -/
def word : List UInt8 → UInt64
  | [] => 0
  | b :: rest => b.toUInt64 + 256 * word rest

def round (acc lane : UInt64) : UInt64 :=
  rotateLeft (acc + lane * prime2) 31 * prime1

structure Accumulators where
  a : UInt64
  b : UInt64
  c : UInt64
  d : UInt64

def Accumulators.start : Accumulators :=
  ⟨prime1 + prime2, prime2, 0, 0 - prime1⟩

/-- Takes in one stripe, eight bytes for each accumulator. -/
def Accumulators.absorb (s : Accumulators) (stripe : List UInt8) : Accumulators :=
  ⟨round s.a (word (stripe.take 8)), round s.b (word ((stripe.drop 8).take 8)),
    round s.c (word ((stripe.drop 16).take 8)), round s.d (word ((stripe.drop 24).take 8))⟩

def Accumulators.absorbAll : Nat → Accumulators → List UInt8 → Accumulators
  | 0, s, _ => s
  | n + 1, s, bytes => absorbAll n (s.absorb (bytes.take 32)) (bytes.drop 32)

def merge (h acc : UInt64) : UInt64 :=
  (h ^^^ round 0 acc) * prime1 + prime4

def Accumulators.converge (s : Accumulators) : UInt64 :=
  let h := rotateLeft s.a 1 + rotateLeft s.b 7 + rotateLeft s.c 12 + rotateLeft s.d 18
  merge (merge (merge (merge h s.a) s.b) s.c) s.d

def mixEight (h lane : UInt64) : UInt64 :=
  rotateLeft (h ^^^ round 0 lane) 27 * prime1 + prime4

def mixFour (h lane : UInt64) : UInt64 :=
  rotateLeft (h ^^^ (lane * prime1)) 23 * prime2 + prime3

def mixOne (h : UInt64) (b : UInt8) : UInt64 :=
  rotateLeft (h ^^^ (b.toUInt64 * prime5)) 11 * prime1

def mixEights : Nat → UInt64 → List UInt8 → UInt64
  | 0, h, _ => h
  | n + 1, h, bytes => mixEights n (mixEight h (word (bytes.take 8))) (bytes.drop 8)

/-- Mixes in fewer than 32 bytes. -/
def mixTail (h : UInt64) (bytes : List UInt8) : UInt64 :=
  let eights := bytes.length / 8
  let h := mixEights eights h bytes
  let rest := bytes.drop (8 * eights)
  if 4 ≤ rest.length then
    (rest.drop 4).foldl mixOne (mixFour h (word (rest.take 4)))
  else
    rest.foldl mixOne h

def avalanche (h : UInt64) : UInt64 :=
  let h := (h ^^^ (h >>> 33)) * prime2
  let h := (h ^^^ (h >>> 29)) * prime3
  h ^^^ (h >>> 32)

def ofBytes (bytes : List UInt8) : UInt64 :=
  let stripes := bytes.length / 32
  let h := if stripes = 0 then prime5 else (Accumulators.start.absorbAll stripes bytes).converge
  avalanche (mixTail (h + UInt64.ofNat bytes.length) (bytes.drop (32 * stripes)))

/-- The digest of a text is that of its UTF-8 bytes. -/
def ofText (text : String) : UInt64 :=
  ofBytes text.toUTF8.toList

end PropertyLowering.Digest
