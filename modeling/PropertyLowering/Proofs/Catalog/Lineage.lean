import Mathlib.Data.List.Basic
import Mathlib.Tactic.Lemma
import PropertyLowering.Catalog

/-!
The declarations on the way along the bases of a type.

Walks of a catalog stop at different things, but all meet the declarations of one list, the lineage
of the type, in its order. What a walk finds is therefore a plain search of that list, and a change
of the members of types shows in it exactly where it shows in the members.
-/

namespace PropertyLowering

/-- The declaration without its members. -/
def TypeDecl.shell (t : TypeDecl) : TypeDecl :=
  { t with fields := [], properties := [], methods := [] }

lemma TypeDecl.name_of_shell {t u : TypeDecl} (h : u.shell = t.shell) : u.name = t.name :=
  congrArg (·.name) h

lemma TypeDecl.id_of_shell {t u : TypeDecl} (h : u.shell = t.shell) : u.id = t.id :=
  congrArg (·.id) h

namespace Catalog

section Lineage

variable (c : Catalog)

def lineageWithin (n : Nat) (type : Ident) : List TypeDecl :=
  (c.ancestryWithin n type).filterMap c.find?

/-- The declarations of a type and its bases, the most derived first. -/
def lineage (type : Ident) : List TypeDecl := c.lineageWithin maxDepth type

/-- The fields that a type declares and inherits, in the order of the lineage. -/
def fields (type : Ident) : List FieldDecl := (c.lineage type).flatMap (·.fields)

/-- The properties that a type declares and inherits, in the order of the lineage. -/
def properties (type : Ident) : List PropertyDecl := (c.lineage type).flatMap (·.properties)

variable {c} {type : Ident} {t : TypeDecl}

lemma mem_lineage : t ∈ c.lineage type ↔ ∃ a ∈ c.ancestry type, c.find? a = some t :=
  List.mem_filterMap

lemma lineageWithin_of_none (h : c.find? type = none) (n : Nat) :
    c.lineageWithin n type = [] := by
  cases n with
  | zero => rfl
  | succ n => simp [lineageWithin, ancestryWithin, baseOf?, h]

lemma lineageWithin_of_base {base : Ident} (h : c.find? type = some t)
    (hbase : t.baseType = some base) (n : Nat) :
    c.lineageWithin (n + 1) type = t :: c.lineageWithin n base := by
  simp [lineageWithin, ancestryWithin, baseOf?, h, hbase]

lemma lineageWithin_of_root (h : c.find? type = some t) (hbase : t.baseType = none) (n : Nat) :
    c.lineageWithin (n + 1) type = [t] := by
  simp [lineageWithin, ancestryWithin, baseOf?, h, hbase]

lemma nearestWithin_eq (f : TypeDecl → Option α) (n : Nat) (type : Ident) :
    c.nearestWithin f n type = (c.lineageWithin n type).findSome? f := by
  induction n generalizing type with
  | zero => rfl
  | succ n ih =>
    cases hfind : c.find? type with
    | none => simp [nearestWithin, lineageWithin_of_none, hfind]
    | some t =>
      cases hbase : t.baseType with
      | none =>
        simp only [nearestWithin, hfind, hbase, lineageWithin_of_root hfind hbase,
          List.findSome?_cons, List.findSome?_nil]
        cases f t <;> rfl
      | some base =>
        simp only [nearestWithin, hfind, hbase, lineageWithin_of_base hfind hbase, ih,
          List.findSome?_cons]
        cases f t <;> rfl

lemma nearest_eq (f : TypeDecl → Option α) (type : Ident) :
    c.nearest f type = (c.lineage type).findSome? f :=
  nearestWithin_eq f maxDepth type

lemma findProperty?_eq (type : Ident) (name : String) :
    c.findProperty? type name = (c.properties type).find? (·.name == name) := by
  rw [findProperty?, nearest_eq, properties, List.find?_flatMap]
  rfl

lemma staticFieldsWithin_eq (n : Nat) (type : Ident) :
    c.staticFieldsWithin n type = (c.lineageWithin n type).flatMap (·.staticFields) := by
  induction n generalizing type with
  | zero => rfl
  | succ n ih =>
    cases hfind : c.find? type with
    | none => simp [staticFieldsWithin, lineageWithin_of_none, hfind]
    | some t =>
      cases hbase : t.baseType with
      | none => simp [staticFieldsWithin, hfind, hbase, lineageWithin_of_root hfind hbase]
      | some base =>
        simp only [staticFieldsWithin, hfind, hbase, lineageWithin_of_base hfind hbase, ih,
          List.flatMap_cons]

lemma staticFields_eq (type : Ident) :
    c.staticFields type = (c.fields type).filter (·.isStatic) := by
  rw [staticFields, staticFieldsWithin_eq, fields, List.filter_flatMap]
  rfl

lemma find?_ancestry (p : TypeDecl → Bool) (f : TypeDecl → Option α) (type : Ident) :
    ((c.ancestry type).find? fun a => (c.find? a).any p).bind (fun a => (c.find? a).bind f) =
      ((c.lineage type).find? p).bind f := by
  rw [lineage, lineageWithin, ancestry]
  induction c.ancestryWithin maxDepth type with
  | nil => rfl
  | cons a rest ih =>
    cases hfind : c.find? a with
    | none => simpa [hfind] using ih
    | some t =>
      by_cases ht : p t = true
      · simp [hfind, ht]
      · simpa [hfind, ht] using ih

end Lineage

/-- The catalogs differ at most in the members of their types, and as `R` says where they do. -/
structure DiffersBy (R : Ident → TypeDecl → TypeDecl → Prop) (c d : Catalog) : Prop where
  resolve? : ∀ name, d.resolve? name = c.resolve? name
  shell : ∀ type, (d.find? type).map TypeDecl.shell = (c.find? type).map TypeDecl.shell
  members : ∀ type t u, c.find? type = some t → d.find? type = some u → R type t u

namespace DiffersBy

variable {R : Ident → TypeDecl → TypeDecl → Prop} {c d : Catalog} {type : Ident}

lemma find?_cases (h : DiffersBy R c d) (type : Ident) :
    (c.find? type = none ∧ d.find? type = none) ∨
    ∃ t u, c.find? type = some t ∧ d.find? type = some u ∧ u.shell = t.shell ∧ R type t u := by
  have hshell := h.shell type
  cases hc : c.find? type with
  | none => exact .inl ⟨rfl, by simpa [hc] using hshell⟩
  | some t =>
    obtain ⟨u, hu, heq⟩ : ∃ u, d.find? type = some u ∧ u.shell = t.shell := by
      simpa [hc] using hshell
    exact .inr ⟨t, u, rfl, hu, heq, h.members type t u hc hu⟩

lemma map_find? (h : DiffersBy R c d) {g : TypeDecl → α} (hg : ∀ t u, R type t u → g u = g t) :
    (d.find? type).map g = (c.find? type).map g := by
  obtain ⟨hc, hd⟩ | ⟨t, u, hc, hd, -, hmembers⟩ := h.find?_cases type
  · rw [hc, hd]
  · rw [hc, hd, Option.map_some, Option.map_some, hg t u hmembers]

lemma baseOf? (h : DiffersBy R c d) (type : Ident) : d.baseOf? type = c.baseOf? type := by
  obtain ⟨hc, hd⟩ | ⟨t, u, hc, hd, hshell, -⟩ := h.find?_cases type
  · rw [Catalog.baseOf?, Catalog.baseOf?, hc, hd]
  · rw [Catalog.baseOf?, Catalog.baseOf?, hc, hd]
    exact congrArg (·.baseType) hshell

lemma definitionOf? (h : DiffersBy R c d) (type : Ident) :
    d.definitionOf? type = c.definitionOf? type := by
  obtain ⟨hc, hd⟩ | ⟨t, u, hc, hd, hshell, -⟩ := h.find?_cases type
  · rw [Catalog.definitionOf?, Catalog.definitionOf?, hc, hd]
  · rw [Catalog.definitionOf?, Catalog.definitionOf?, hc, hd]
    exact congrArg (·.definition) hshell

lemma argsOf (h : DiffersBy R c d) (type : Ident) : d.argsOf type = c.argsOf type := by
  obtain ⟨hc, hd⟩ | ⟨t, u, hc, hd, hshell, -⟩ := h.find?_cases type
  · rw [Catalog.argsOf, Catalog.argsOf, hc, hd]
  · rw [Catalog.argsOf, Catalog.argsOf, hc, hd]
    exact congrArg (·.args) hshell

lemma nameOf (h : DiffersBy R c d) (type : Ident) : d.nameOf type = c.nameOf type := by
  obtain ⟨hc, hd⟩ | ⟨t, u, hc, hd, hshell, -⟩ := h.find?_cases type
  · rw [Catalog.nameOf, Catalog.nameOf, hc, hd]
  · rw [Catalog.nameOf, Catalog.nameOf, hc, hd]
    exact congrArg (·.name.text) hshell

lemma acceptsNull (h : DiffersBy R c d) (type : Ident) :
    d.acceptsNull type = c.acceptsNull type := by
  obtain ⟨hc, hd⟩ | ⟨t, u, hc, hd, hshell, -⟩ := h.find?_cases type
  · rw [Catalog.acceptsNull, Catalog.acceptsNull, hc, hd]
  · rw [Catalog.acceptsNull, Catalog.acceptsNull, hc, hd]
    exact congrArg (·.acceptsNull) hshell

lemma ancestryWithin (h : DiffersBy R c d) (n : Nat) (type : Ident) :
    d.ancestryWithin n type = c.ancestryWithin n type := by
  induction n generalizing type with
  | zero => rfl
  | succ n ih => simp only [Catalog.ancestryWithin, h.baseOf?, ih]

lemma map_filterMap_find? (h : DiffersBy R c d) {types : List Ident} {g : TypeDecl → α}
    (hg : ∀ a ∈ types, ∀ t u, R a t u → g u = g t) :
    (types.filterMap d.find?).map g = (types.filterMap c.find?).map g := by
  rw [List.map_filterMap, List.map_filterMap]
  exact List.filterMap_congr fun a ha => h.map_find? (hg a ha)

lemma findSome?_filterMap_find? (h : DiffersBy R c d) {types : List Ident}
    {f : TypeDecl → Option α} (hf : ∀ a ∈ types, ∀ t u, R a t u → f u = f t) :
    (types.filterMap d.find?).findSome? f = (types.filterMap c.find?).findSome? f := by
  have hfirst (l : List TypeDecl) : l.findSome? f = (l.map f).findSome? id := by
    rw [List.findSome?_map]
    rfl
  rw [hfirst, hfirst, h.map_filterMap_find? hf]

lemma lineage_eq (h : DiffersBy R c d) (type : Ident) :
    d.lineage type = (c.ancestry type).filterMap d.find? := by
  rw [lineage, lineageWithin, h.ancestryWithin, ancestry]

lemma flatMap_lineage (h : DiffersBy R c d) {g : TypeDecl → List α}
    (hg : ∀ a ∈ c.ancestry type, ∀ t u, R a t u → g u = g t) :
    (d.lineage type).flatMap g = (c.lineage type).flatMap g := by
  rw [List.flatMap_def, List.flatMap_def, h.lineage_eq, h.map_filterMap_find? hg]
  rfl

lemma nearest (h : DiffersBy R c d) {f : TypeDecl → Option α}
    (hf : ∀ a ∈ c.ancestry type, ∀ t u, R a t u → f u = f t) :
    d.nearest f type = c.nearest f type := by
  rw [nearest_eq, nearest_eq, h.lineage_eq, h.findSome?_filterMap_find? hf]
  rfl

/-- A search that is over before the catalogs differ gives the same on both. -/
lemma nearest_of_earlier (h : DiffersBy R c d) {f : TypeDecl → Option α} {earlier later : List Ident}
    (hsplit : c.ancestry type = earlier ++ later)
    (hf : ∀ a ∈ earlier, ∀ t u, R a t u → f u = f t) {a : Ident} {t : TypeDecl} (ha : a ∈ earlier)
    (hfind : c.find? a = some t) (ht : (f t).isSome = true) :
    d.nearest f type = c.nearest f type := by
  have hover : ((earlier.filterMap c.find?).findSome? f).isSome = true :=
    List.findSome?_isSome_iff.mpr ⟨t, List.mem_filterMap.mpr ⟨a, ha, hfind⟩, ht⟩
  obtain ⟨answer, hanswer⟩ := Option.isSome_iff_exists.mp hover
  have hc : c.lineage type = (c.ancestry type).filterMap c.find? := rfl
  rw [nearest_eq, nearest_eq, h.lineage_eq, hc, hsplit, List.filterMap_append,
    List.filterMap_append, List.findSome?_append, List.findSome?_append,
    h.findSome?_filterMap_find? hf, hanswer, Option.some_or, Option.some_or]

end DiffersBy

end Catalog

end PropertyLowering
