import Mathlib.Data.List.Find
import PropertyLowering.Proofs.Catalog.Walks
import PropertyLowering.Resolution

/-!
How far the type of a property's values is looked for.

The search goes along the bases and stops at the first instance of a family or at the bound of
walks. Main statement: the distance of the nearest instance on the path, which itself has no bound,
decides what is found. So types put in front change nothing until the bound is reached, and on any
catalog the declarations of the types met settle the answer.
-/

namespace PropertyLowering

namespace Catalog

/-- A base is `n` types above a type, and none of the types before it is an instance of the
family. -/
structure Passes (c : Catalog) (family : Ident) (n : Nat) (type base : Ident) : Prop where
  reached : c.baseAfter n type = some base
  between : ∀ j < n, ∀ b, c.baseAfter j type = some b → c.definitionOf? b ≠ some family

/-- The nearest instance of the family on the path along the bases is `n` types above a type. -/
structure NearestAt (c : Catalog) (family : Ident) (n : Nat) (type nearest : Ident) : Prop
    extends c.Passes family n type nearest where
  isInstance : c.definitionOf? nearest = some family

variable {c d : Catalog} {family type base other a b : Ident} {m n i j : Nat}

lemma baseAfter_congr
    (h : ∀ j < n, ∀ b, c.baseAfter j type = some b → d.find? b = c.find? b) :
    d.baseAfter n type = c.baseAfter n type := by
  induction n generalizing type with
  | zero => rfl
  | succ n ih =>
    have hbase : d.baseOf? type = c.baseOf? type := by
      rw [baseOf?, baseOf?, h 0 (Nat.zero_lt_succ n) type rfl]
    rw [baseAfter, baseAfter, hbase]
    refine Option.bind_congr fun base hnext => ih fun j hj b hb => ?_
    refine h (j + 1) (Nat.succ_lt_succ hj) b ?_
    rw [baseAfter, hnext, Option.bind_some, hb]

lemma ancestry_congr (h : ∀ b ∈ c.ancestry type, d.find? b = c.find? b) :
    d.ancestry type = c.ancestry type := by
  ext1 i
  rw [ancestry, ancestry, getElem?_ancestryWithin, getElem?_ancestryWithin]
  by_cases hi : i < maxDepth
  · rw [if_pos hi, if_pos hi]
    exact baseAfter_congr fun j hj b hb =>
      h b (mem_ancestryWithin.mpr ⟨j, Nat.lt_trans hj hi, hb⟩)
  · rw [if_neg hi, if_neg hi]

namespace Passes

lemma trans (h : c.Passes family m type base) (hbase : c.Passes family n base other) :
    c.Passes family (m + n) type other where
  reached := by rw [baseAfter_add, h.reached, Option.bind_some, hbase.reached]
  between j hj b hb := by
    obtain hlt | hle := Nat.lt_or_ge j m
    · exact h.between j hlt b hb
    · obtain ⟨k, rfl⟩ := Nat.exists_eq_add_of_le hle
      rw [baseAfter_add, h.reached, Option.bind_some] at hb
      exact hbase.between k (Nat.lt_of_add_lt_add_left hj) b hb

lemma congr (h : c.Passes family n type base)
    (hd : ∀ j < n, ∀ b, c.baseAfter j type = some b → d.find? b = c.find? b) :
    d.Passes family n type base where
  reached := (baseAfter_congr hd).trans h.reached
  between j hj b hb := by
    have hpath : d.baseAfter j type = c.baseAfter j type :=
      baseAfter_congr fun k hk => hd k (Nat.lt_trans hk hj)
    rw [hpath] at hb
    rw [definitionOf?, hd j hj b hb]
    exact h.between j hj b hb

end Passes

namespace NearestAt

lemma eq (h : c.NearestAt family i type a) (h' : c.NearestAt family j type b) : i = j := by
  obtain hlt | heq | hgt := Nat.lt_trichotomy i j
  · exact absurd h.isInstance (h'.between i hlt a h.reached)
  · exact heq
  · exact absurd h'.isInstance (h.between j hgt b h'.reached)

lemma congr (h : c.NearestAt family n type a)
    (hd : ∀ j ≤ n, ∀ b, c.baseAfter j type = some b → d.find? b = c.find? b) :
    d.NearestAt family n type a where
  toPasses := h.toPasses.congr fun j hj => hd j (Nat.le_of_lt hj)
  isInstance := by rw [definitionOf?, hd n (Nat.le_refl n) a h.reached]; exact h.isInstance

lemma of_passes (hfront : c.Passes family m type base) (h : c.NearestAt family n base a) :
    c.NearestAt family (m + n) type a :=
  ⟨hfront.trans h.toPasses, h.isInstance⟩

end NearestAt

lemma find?_ancestry_eq_some :
    (c.ancestry type).find? (c.definitionOf? · == some family) = some a ↔
      ∃ i < maxDepth, c.NearestAt family i type a := by
  have hpath (i : Nat) (hi : i < maxDepth) : (c.ancestry type)[i]? = c.baseAfter i type := by
    rw [ancestry, getElem?_ancestryWithin, if_pos hi]
  rw [List.find?_eq_some_iff_getElem]
  constructor
  · rintro ⟨hinstance, i, hlength, hget, hbefore⟩
    have hi : i < maxDepth := Nat.lt_of_lt_of_le hlength (length_ancestryWithin_le maxDepth type)
    refine ⟨i, hi, ⟨?_, fun j hj b hb => ?_⟩, by simpa using hinstance⟩
    · rw [← hpath i hi, List.getElem?_eq_getElem hlength, hget]
    · rw [← hpath j (Nat.lt_trans hj hi),
        List.getElem?_eq_getElem (Nat.lt_trans hj hlength)] at hb
      simpa [Option.some.inj hb] using hbefore j hj
  · rintro ⟨i, hi, h⟩
    have hget : (c.ancestry type)[i]? = some a := by rw [hpath i hi, h.reached]
    obtain ⟨hlength, hget⟩ := List.getElem?_eq_some_iff.mp hget
    refine ⟨by simpa using h.isInstance, i, hlength, hget, fun j hj => ?_⟩
    have hb : c.baseAfter j type = some (c.ancestry type)[j] := by
      rw [← hpath j (Nat.lt_trans hj hi), List.getElem?_eq_getElem]
    simpa using h.between j hj _ hb

section ValueType

variable {field : String} {span : Span}

lemma valueType_of_argument (h : c.NearestAt family i type a) (hi : i < maxDepth) {value : Ident}
    (hvalue : (c.argsOf a).head? = some value) :
    c.valueType type family field span = .ok value := by
  simp only [valueType, find?_ancestry_eq_some.mpr ⟨i, hi, h⟩, Option.bind_some, hvalue]

lemma valueType_of_none (h : ∀ i < maxDepth, ∀ a, ¬ c.NearestAt family i type a) :
    c.valueType type family field span =
      .error (.notATypedProperty field (c.nameOf type) (c.nameOf family) span) := by
  have hnone : (c.ancestry type).find? (c.definitionOf? · == some family) = none := by
    rw [Option.eq_none_iff_forall_ne_some]
    intro a ha
    obtain ⟨i, hi, hnearest⟩ := find?_ancestry_eq_some.mp ha
    exact h i hi a hnearest
  rw [valueType, hnone, Option.bind_none]

lemma valueType_of_far (h : c.NearestAt family i type a) (hi : maxDepth ≤ i) :
    c.valueType type family field span =
      .error (.notATypedProperty field (c.nameOf type) (c.nameOf family) span) :=
  valueType_of_none fun _ hj _ h' => absurd (h'.eq h ▸ hj) (Nat.not_lt.mpr hi)

lemma valueType_of_bare (h : c.NearestAt family i type a) (hargs : c.argsOf a = []) :
    c.valueType type family field span =
      .error (.notATypedProperty field (c.nameOf type) (c.nameOf family) span) := by
  obtain hi | hi := Nat.lt_or_ge i maxDepth
  · simp only [valueType, find?_ancestry_eq_some.mpr ⟨i, hi, h⟩, Option.bind_some, hargs,
      List.head?_nil]
  · exact valueType_of_far h hi

lemma valueType_congr (h : ∀ b ∈ c.ancestry type, d.find? b = c.find? b)
    (hfamily : d.find? family = c.find? family) :
    d.valueType type family field span = c.valueType type family field span := by
  have hself : d.find? type = c.find? type := h type List.mem_cons_self
  have hsearch : (d.ancestry type).find? (d.definitionOf? · == some family) =
      (c.ancestry type).find? (c.definitionOf? · == some family) := by
    rw [ancestry_congr h]
    exact List.find?_congr fun b hb => by rw [definitionOf?, definitionOf?, h b hb]
  have hfirst : ((d.ancestry type).find? (d.definitionOf? · == some family)).bind
      (d.argsOf · |>.head?) =
      ((c.ancestry type).find? (c.definitionOf? · == some family)).bind (c.argsOf · |>.head?) := by
    rw [hsearch]
    refine Option.bind_congr fun b hb => ?_
    rw [argsOf, argsOf, h b (List.mem_of_find?_eq_some hb)]
  rw [valueType, valueType, hfirst, nameOf, nameOf, nameOf, nameOf, hself, hfamily]

/-- **The distance of the nearest instance decides.** On any catalog, the type of the values is the
first argument of the nearest instance of the family, if that is less than 256 types above the
storage and has an argument. If it is further up or has none, even if an instance above it has, or
if there is no instance on the path, because this ends, dangles or comes back, then the storage is
refused by name. So types in front that are no instances do not change what is found until the
nearest instance is 256 types away, not even where they are new to the catalog. The search is over
after 256 types on every catalog, and what they declare settles it. -/
theorem valueType_at_distance (c : Catalog) (storage family : Ident) (field : String)
    (span : Span) :
    (∀ i a, c.NearestAt family i storage a →
      (∀ value, i < 256 → (c.argsOf a).head? = some value →
        c.valueType storage family field span = .ok value) ∧
      (256 ≤ i ∨ c.argsOf a = [] →
        c.valueType storage family field span =
          .error (.notATypedProperty field (c.nameOf storage) (c.nameOf family) span))) ∧
    ((∀ i a, c.baseAfter i storage = some a → c.definitionOf? a ≠ some family) →
      c.valueType storage family field span =
        .error (.notATypedProperty field (c.nameOf storage) (c.nameOf family) span)) ∧
    (∀ i a, c.NearestAt family i storage a → ∀ d : Catalog,
      (∀ j ≤ i, ∀ b, c.baseAfter j storage = some b → d.find? b = c.find? b) →
      ∀ m derived, d.Passes family m derived storage →
        (i + m < 256 → ∀ value, d.valueType derived family field span = .ok value ↔
          c.valueType storage family field span = .ok value) ∧
        (256 ≤ i + m → d.valueType derived family field span =
          .error (.notATypedProperty field (d.nameOf derived) (d.nameOf family) span))) ∧
    (c.ancestry storage).length ≤ 256 ∧
      ∀ d : Catalog, (∀ b ∈ c.ancestry storage, d.find? b = c.find? b) →
        d.find? family = c.find? family →
          d.valueType storage family field span = c.valueType storage family field span := by
  refine ⟨fun i a h => ⟨fun value hi => valueType_of_argument h hi, ?bare⟩, fun h => ?missing,
    fun i a h d hd m derived hfront => ?front, length_ancestryWithin_le maxDepth storage,
    fun d => valueType_congr⟩
  case bare =>
    rintro (hi | hargs)
    · exact valueType_of_far h hi
    · exact valueType_of_bare h hargs
  case missing =>
    exact valueType_of_none fun i _ a hnearest => h i a hnearest.reached hnearest.isInstance
  case front =>
    have hderived : d.NearestAt family (m + i) derived a := .of_passes hfront (h.congr hd)
    have hargs : d.argsOf a = c.argsOf a := by
      rw [argsOf, argsOf, hd i (Nat.le_refl i) a h.reached]
    rw [Nat.add_comm i m]
    refine ⟨fun hnear value => ?_, fun hfar => valueType_of_far hderived hfar⟩
    cases hvalue : (c.argsOf a).head? with
    | some v =>
      rw [valueType_of_argument hderived hnear (hargs ▸ hvalue),
        valueType_of_argument h (Nat.lt_of_le_of_lt (Nat.le_add_left i m) hnear) hvalue]
    | none =>
      have hbare := List.head?_eq_none_iff.mp hvalue
      rw [valueType_of_bare hderived (hargs.trans hbare), valueType_of_bare h hbare]
      simp only [reduceCtorEq]

end ValueType

/-- The `n`-th of types in a row, each of which derives from the one before it. The first is an
instance of the family. -/
def storey (family value : Ident) : Nat → TypeDecl
  | 0 => { TypeDecl.reference "Property" with definition := some family, args := [value] }
  | n + 1 => { TypeDecl.reference "Derived" with baseType := some ⟨.ofNat n⟩ }

def tower (family value : Ident) : Catalog where
  resolve? _ := none
  find? type := some (storey family value type.bits.toNat)

section Tower

variable {value : Ident}

lemma find?_tower (hn : n < UInt64.size) :
    (tower family value).find? ⟨.ofNat n⟩ = some (storey family value n) := by
  simp only [tower, UInt64.toNat_ofNat_of_lt' hn]

lemma passes_tower (hn : n + 1 < UInt64.size) :
    (tower family value).Passes family 1 ⟨.ofNat (n + 1)⟩ ⟨.ofNat n⟩ where
  reached := by
    rw [baseAfter, baseOf?, find?_tower hn]
    rfl
  between j hj b hb := by
    obtain rfl : j = 0 := Nat.lt_one_iff.mp hj
    obtain rfl : ⟨.ofNat (n + 1)⟩ = b := Option.some.inj hb
    rw [definitionOf?, find?_tower hn]
    intro heq
    cases heq

lemma passes_tower_add (h : n + m < UInt64.size) :
    (tower family value).Passes family m ⟨.ofNat (n + m)⟩ ⟨.ofNat n⟩ := by
  induction m with
  | zero => exact ⟨rfl, fun j hj => absurd hj (Nat.not_lt_zero j)⟩
  | succ m ih =>
    have hstep : (tower family value).Passes family 1 ⟨.ofNat (n + m + 1)⟩ ⟨.ofNat (n + m)⟩ :=
      passes_tower h
    have hpath := hstep.trans (ih (Nat.lt_of_succ_lt h))
    rwa [Nat.add_comm 1 m] at hpath

lemma nearestAt_tower (hn : n < UInt64.size) :
    (tower family value).NearestAt family n ⟨.ofNat n⟩ ⟨0⟩ := by
  have hpasses : (tower family value).Passes family n ⟨.ofNat (0 + n)⟩ ⟨.ofNat 0⟩ :=
    passes_tower_add (by rwa [Nat.zero_add])
  rw [Nat.zero_add] at hpasses
  exact ⟨hpasses, rfl⟩

end Tower

/-- A type that derives from itself. -/
def loop : TypeDecl := (TypeDecl.reference "Loop").derivedFrom (TypeDecl.reference "Loop").id

/-- With 200 types in front of a storage that is 55 types below the instance the value is still
found, and with one more it is not. A walk in a circle meets no instance. -/
theorem valueType_at_distance_tower :
    let family := (TypeDecl.reference "Property`1").id
    let bool := (TypeDecl.value "bool").id
    let c := tower family bool
    let circle := listed [loop]
    c.NearestAt family 55 ⟨55⟩ ⟨0⟩ ∧
      c.valueType ⟨55⟩ family "XProperty" .unknown = .ok bool ∧
      c.Passes family 200 ⟨255⟩ ⟨55⟩ ∧ c.valueType ⟨255⟩ family "XProperty" .unknown = .ok bool ∧
      c.Passes family 201 ⟨256⟩ ⟨55⟩ ∧
      c.valueType ⟨256⟩ family "XProperty" .unknown =
        .error (.notATypedProperty "XProperty" "Derived" (c.nameOf family) .unknown) ∧
      circle.baseAfter 1 loop.id = some loop.id ∧
      circle.valueType loop.id family "XProperty" .unknown =
        .error (.notATypedProperty "XProperty" (circle.nameOf loop.id) family.text .unknown) := by
  intro family bool c circle
  have hnearest : c.NearestAt family 55 ⟨55⟩ ⟨0⟩ := nearestAt_tower (by decide)
  have hnear : c.Passes family 200 ⟨255⟩ ⟨55⟩ := passes_tower_add (n := 55) (by decide)
  have hfar : c.Passes family 201 ⟨256⟩ ⟨55⟩ := passes_tower_add (n := 55) (by decide)
  obtain ⟨hfound, -, hfront, -⟩ := valueType_at_distance c ⟨55⟩ family "XProperty" .unknown
  have hvalue := (hfound 55 _ hnearest).1 bool (by decide) rfl
  have hsame := hfront 55 _ hnearest c (fun _ _ _ _ => rfl)
  refine ⟨hnearest, hvalue, hnear, ((hsame 200 _ hnear).1 (by decide) bool).mpr hvalue, hfar,
    (hsame 201 _ hfar).2 (by decide), by decide +kernel, ?_⟩
  have hloop (a : Ident) (t : TypeDecl) (ht : circle.find? a = some t) : t = loop := by
    simpa using (mem_of_find?_listed ht).1
  have hunknown : circle.find? family = none := by decide +kernel
  have hnever (a : Ident) : circle.definitionOf? a ≠ some family := by
    intro ha
    obtain ⟨t, ht, hdefinition⟩ := Option.bind_eq_some_iff.mp ha
    rw [hloop a t ht] at hdefinition
    cases hdefinition
  obtain ⟨-, hnone, -⟩ := valueType_at_distance circle loop.id family "XProperty" .unknown
  rw [hnone fun _ a _ => hnever a]
  simp only [nameOf, hunknown]

end Catalog

end PropertyLowering
