import PropertyLowering.Proofs.Catalog.Lineage

/-!
The walks of a catalog against the bases of a type.

Each walk keeps its own count of the types it may still meet. Main statement: they all stop at the
same type, on whatever catalog, because each is a search of the ancestry, and the ancestry is the
path along the bases, cut off where it gets too long. Where no path gets that long, assignability is
a partial order.
-/

namespace PropertyLowering

namespace Catalog

variable (c : Catalog)

/-- The type that is `n` bases above another. -/
def baseAfter : Nat → Ident → Option Ident
  | 0, type => some type
  | n + 1, type => (c.baseOf? type).bind (baseAfter n)

/-- The path along the bases ends within as many types as a walk may meet. -/
def Ends (type : Ident) : Prop := c.baseAfter maxDepth type = none

variable {c} {type a b t : Ident}

lemma baseAfter_add (m n : Nat) (type : Ident) :
    c.baseAfter (m + n) type = (c.baseAfter m type).bind (c.baseAfter n) := by
  induction m generalizing type with
  | zero => simp [baseAfter]
  | succ m ih =>
    rw [Nat.succ_add, baseAfter, baseAfter, Option.bind_assoc]
    exact Option.bind_congr fun base _ => ih base

lemma baseAfter_of_le {m n : Nat} (h : c.baseAfter m type = none) (hle : m ≤ n) :
    c.baseAfter n type = none := by
  obtain ⟨k, rfl⟩ := Nat.exists_eq_add_of_le hle
  rw [baseAfter_add, h, Option.bind_none]

lemma ends_of_unknown (h : c.find? type = none) : c.Ends type :=
  baseAfter_of_le (m := 1) (by simp [baseAfter, baseOf?, h]) (by decide)

lemma not_ends_of_cycle {n : Nat} (hn : 0 < n) (h : c.baseAfter n type = some type) :
    ¬ c.Ends type := by
  intro hend
  have hround (k : Nat) : c.baseAfter (n * k) type = some type := by
    induction k with
    | zero => rfl
    | succ k ih => rw [Nat.mul_succ, baseAfter_add, ih, Option.bind_some, h]
  have hnone := baseAfter_of_le hend (Nat.le_mul_of_pos_left maxDepth hn)
  rw [hround] at hnone
  cases hnone

lemma getElem?_ancestryWithin (n i : Nat) (type : Ident) :
    (c.ancestryWithin n type)[i]? = if i < n then c.baseAfter i type else none := by
  induction n generalizing type i with
  | zero => simp [ancestryWithin]
  | succ n ih =>
    cases i with
    | zero => simp [ancestryWithin, baseAfter]
    | succ i =>
      rw [ancestryWithin, List.getElem?_cons_succ, baseAfter]
      cases hbase : c.baseOf? type with
      | none => simp
      | some base => simp [ih]

lemma length_ancestryWithin_le (n : Nat) (type : Ident) :
    (c.ancestryWithin n type).length ≤ n := by
  have hpast := getElem?_ancestryWithin (c := c) n n type
  rwa [if_neg (Nat.lt_irrefl n), List.getElem?_eq_none_iff] at hpast

lemma mem_ancestryWithin {n : Nat} :
    b ∈ c.ancestryWithin n type ↔ ∃ i < n, c.baseAfter i type = some b := by
  simp [List.mem_iff_getElem?, getElem?_ancestryWithin]

lemma ancestryWithin_of_le {m n : Nat} (h : c.baseAfter m type = none) (hle : m ≤ n) :
    c.ancestryWithin n type = c.ancestryWithin m type := by
  ext1 i
  rw [getElem?_ancestryWithin, getElem?_ancestryWithin]
  by_cases hm : i < m
  · rw [if_pos hm, if_pos (Nat.lt_of_lt_of_le hm hle)]
  · rw [if_neg hm, baseAfter_of_le h (Nat.not_lt.mp hm), ite_self]

section Derived

variable {derived base : Ident} {t : TypeDecl} {f : TypeDecl → Option α}

lemma baseAfter_of_ends (hends : c.Ends derived) (hbase : c.baseOf? derived = some base) :
    c.baseAfter (maxDepth - 1) base = none := by
  have hpath : c.baseAfter (1 + (maxDepth - 1)) derived = none := hends
  rwa [baseAfter_add, baseAfter, hbase, Option.bind_some, baseAfter, Option.bind_some] at hpath

lemma Ends.above (hends : c.Ends derived) (hbase : c.baseOf? derived = some base) : c.Ends base :=
  baseAfter_of_le (baseAfter_of_ends hends hbase) (Nat.sub_le ..)

lemma lineage_of_base (hends : c.Ends derived) (hfind : c.find? derived = some t)
    (hbase : t.baseType = some base) : c.lineage derived = t :: c.lineage base := by
  have hshort : c.baseAfter (maxDepth - 1) base = none :=
    baseAfter_of_ends hends (by rw [baseOf?, hfind, Option.bind_some, hbase])
  have hbases : c.lineageWithin (maxDepth - 1) base = c.lineage base := by
    rw [lineage, lineageWithin, lineageWithin, ancestryWithin_of_le hshort (Nat.sub_le ..)]
  rw [← hbases]
  exact lineageWithin_of_base hfind hbase (maxDepth - 1)

lemma nearest_of_baseAfter {k : Nat} (hends : c.Ends derived)
    (hbase : c.baseAfter k derived = some base)
    (hbetween : ∀ i < k, ∀ t, (c.baseAfter i derived).bind c.find? = some t → f t = none) :
    c.nearest f derived = c.nearest f base := by
  induction k generalizing derived with
  | zero => rw [Option.some.inj hbase]
  | succ k ih =>
    obtain ⟨next, hnext, hrest⟩ := Option.bind_eq_some_iff.mp hbase
    obtain ⟨t, hfind, ht⟩ := Option.bind_eq_some_iff.mp hnext
    have hskip : c.nearest f derived = c.nearest f next := by
      rw [nearest_eq, nearest_eq, lineage_of_base hends hfind ht, List.findSome?_cons,
        hbetween 0 (Nat.zero_lt_succ k) t (by rwa [baseAfter, Option.bind_some])]
    rw [hskip]
    refine ih (hends.above hnext) hrest fun i hi u hu => ?_
    refine hbetween (i + 1) (Nat.succ_lt_succ hi) u ?_
    rwa [baseAfter, hnext, Option.bind_some]

end Derived

lemma isAssignableWithin_iff (n : Nat) (type : Ident) :
    c.isAssignableWithin t n type = true ↔ t ∈ c.ancestryWithin n type := by
  induction n generalizing type with
  | zero => simp [isAssignableWithin, ancestryWithin]
  | succ n ih =>
    rw [isAssignableWithin, ancestryWithin, List.mem_cons]
    by_cases heq : type = t
    · simp [heq]
    · rw [if_neg heq, or_iff_right (Ne.symm heq)]
      cases c.baseOf? type with
      | none => simp
      | some base => exact ih base

lemma isAssignable_iff : c.isAssignable a t = true ↔ t ∈ c.ancestry a :=
  isAssignableWithin_iff maxDepth a

lemma isAssignable_iff_baseAfter :
    c.isAssignable a t = true ↔ ∃ i < maxDepth, c.baseAfter i a = some t := by
  rw [isAssignable_iff, ancestry, mem_ancestryWithin]

lemma isAssignable_refl (c : Catalog) (type : Ident) : c.isAssignable type type = true :=
  isAssignable_iff_baseAfter.mpr ⟨0, by decide, rfl⟩

lemma isAssignable_trans (hends : c.Ends a) (hab : c.isAssignable a b = true)
    (hbt : c.isAssignable b t = true) : c.isAssignable a t = true := by
  obtain ⟨i, -, hi⟩ := isAssignable_iff_baseAfter.mp hab
  obtain ⟨j, -, hj⟩ := isAssignable_iff_baseAfter.mp hbt
  have hpath : c.baseAfter (i + j) a = some t := by rw [baseAfter_add, hi, Option.bind_some, hj]
  refine isAssignable_iff_baseAfter.mpr ⟨i + j, ?_, hpath⟩
  rw [← Nat.not_le]
  intro hlong
  rw [baseAfter_of_le hends hlong] at hpath
  cases hpath

/-- Along a path that ends nothing is met later that is not met from its start. -/
lemma lineage_subset (hends : c.Ends a) (hb : b ∈ c.ancestry a) : c.lineage b ⊆ c.lineage a := by
  intro t ht
  obtain ⟨d, hd, hfind⟩ := mem_lineage.mp ht
  refine mem_lineage.mpr ⟨d, ?_, hfind⟩
  exact isAssignable_iff.mp
    (isAssignable_trans hends (isAssignable_iff.mpr hb) (isAssignable_iff.mpr hd))

lemma isAssignable_antisymm (hends : c.Ends a) (hab : c.isAssignable a b = true)
    (hba : c.isAssignable b a = true) : a = b := by
  obtain ⟨i, -, hi⟩ := isAssignable_iff_baseAfter.mp hab
  obtain ⟨j, -, hj⟩ := isAssignable_iff_baseAfter.mp hba
  have hcycle : c.baseAfter (i + j) a = some a := by rw [baseAfter_add, hi, Option.bind_some, hj]
  obtain hzero | hpos := Nat.eq_zero_or_pos (i + j)
  · obtain rfl : i = 0 := by omega
    exact Option.some.inj hi
  · exact absurd hends (not_ends_of_cycle hpos hcycle)

lemma findMethod?_eq (type : Ident) (name : String) :
    c.findMethod? type name =
      ((c.lineage type).flatMap (·.methods)).find? (·.name == name) := by
  rw [findMethod?, nearest_eq, List.find?_flatMap]
  rfl

/-- **All walks along bases agree.** On any catalog, one with cycles, missing bases or long paths
included, the ancestry of a type is the path along its bases, cut off at the bound; static fields,
properties and methods are those of the registered types in it, in its order; and assignability is
membership in it. If the paths from registered types end within the bound, assignability is a
partial order. -/
theorem walks_agree (c : Catalog) :
    (∀ type i, (c.ancestry type)[i]? = if i < maxDepth then c.baseAfter i type else none) ∧
      (∀ type, (c.ancestry type).length ≤ maxDepth) ∧
      (∀ type, c.staticFields type =
        ((c.ancestry type).filterMap c.find?).flatMap fun t => t.fields.filter (·.isStatic)) ∧
      (∀ type name, c.findProperty? type name =
        (((c.ancestry type).filterMap c.find?).flatMap (·.properties)).find? (·.name == name)) ∧
      (∀ type name, c.findMethod? type name =
        (((c.ancestry type).filterMap c.find?).flatMap (·.methods)).find? (·.name == name)) ∧
      (∀ source target, c.isAssignable source target = true ↔ target ∈ c.ancestry source) ∧
      ((∀ type t, c.find? type = some t → c.Ends type) →
        (∀ type, c.isAssignable type type = true) ∧
        (∀ a b t, c.isAssignable a b = true → c.isAssignable b t = true →
          c.isAssignable a t = true) ∧
        ∀ a b, c.isAssignable a b = true → c.isAssignable b a = true → a = b) := by
  refine ⟨fun type i => getElem?_ancestryWithin maxDepth i type,
    length_ancestryWithin_le maxDepth, staticFieldsWithin_eq maxDepth, findProperty?_eq,
    findMethod?_eq, fun _ _ => isAssignable_iff, fun hknown => ?_⟩
  have hends (type : Ident) : c.Ends type := by
    cases hfind : c.find? type with
    | none => exact ends_of_unknown hfind
    | some t => exact hknown type t hfind
  exact ⟨c.isAssignable_refl, fun _ _ _ => isAssignable_trans (hends _),
    fun _ _ => isAssignable_antisymm (hends _)⟩

/-- The catalog of the given types. -/
def listed (ts : List TypeDecl) : Catalog where
  resolve? name := (ts.find? (·.name == name)).map (·.id)
  find? type := ts.find? (·.id == type)

lemma mem_of_find?_listed {ts : List TypeDecl} {u : TypeDecl}
    (h : (listed ts).find? type = some u) : u ∈ ts ∧ u.id = type :=
  ⟨List.mem_of_find?_eq_some h, by simpa using List.find?_some h⟩

def control : TypeDecl := .reference "Control"

def button : TypeDecl := (TypeDecl.reference "Button").derivedFrom control.id

theorem walks_agree_button :
    let c := listed [control, button]
    (∀ type t, c.find? type = some t → c.Ends type) ∧
      c.ancestry button.id = [button.id, control.id] ∧
      c.isAssignable button.id control.id = true ∧
      c.isAssignable control.id button.id = false := by
  intro c
  have hwalk : c.ancestry button.id = [button.id, control.id] := by decide +kernel
  have hends (type : Ident) (t : TypeDecl) (hfind : c.find? type = some t) : c.Ends type := by
    obtain ⟨hmem, rfl⟩ := mem_of_find?_listed hfind
    have hshort : ∀ t ∈ [control, button], c.baseAfter 2 t.id = none := by decide +kernel
    exact baseAfter_of_le (hshort t hmem) (by decide)
  obtain ⟨-, -, -, -, -, hmem, horder⟩ := walks_agree c
  obtain ⟨-, -, hantisymm⟩ := horder hends
  have hup : c.isAssignable button.id control.id = true := by
    rw [hmem, hwalk]
    simp
  refine ⟨hends, hwalk, hup, ?_⟩
  rw [← Bool.not_eq_true]
  intro hdown
  have hne : button.id ≠ control.id := by decide +kernel
  exact hne (hantisymm _ _ hup hdown)

end Catalog

end PropertyLowering
