import PropertyLowering.Proofs.Catalog.Walks
import PropertyLowering.Proofs.Resolution.Descriptor

/-!
Resolution along the bases of a type.

A type that declares nothing of a name leaves the question to its base. Resolution walks from its
owner three times, for the field, for the property and for the attribute that keeps bindings away,
and each walk passes over such a type. Main statement: through any number of them, a name means what
it means on the base, and only the complaint that it means nothing tells the types apart.
-/

namespace PropertyLowering

/-- The error with another type named as the one where nothing of a name was found. -/
def CompileError.withOwner (owner : String) : CompileError → CompileError
  | unresolvedProperty _ name span => unresolvedProperty owner name span
  | e => e

namespace Context

variable {ctx : Context} {derived base : Ident} {name : String} {span : Span}

lemma lookUp_of_same (hfield : ctx.descriptorField? derived name = ctx.descriptorField? base name)
    (hproperty : ctx.catalog.findProperty? derived name = ctx.catalog.findProperty? base name) :
    ctx.lookUp derived name span =
      (ctx.lookUp base name span).mapError (·.withOwner (ctx.catalog.nameOf derived)) := by
  have hdescribed (f : FieldDecl) :
      ctx.fieldProperty derived name f span = ctx.fieldProperty base name f span := by
    simp only [fieldProperty, keepsBindingsAway, hproperty]
  rcases ctx.lookUp_cases base name span with
    ⟨f, hf, ⟨p, -, -, h⟩ | h⟩ | ⟨p, hf, hp, ⟨v, -, h⟩ | h⟩ | ⟨hf, hp, h⟩ <;> rw [h]
  case inl.inl | inl.inr =>
    simp only [lookUp, hf] at h
    simp only [lookUp, hfield, hf, hdescribed, h]
    rfl
  case inr.inl.inl | inr.inl.inr =>
    simp only [lookUp, hf, hp] at h
    simp only [lookUp, hfield, hproperty, hf, hp, h]
    rfl
  case inr.inr =>
    simp only [lookUp, hfield, hproperty, hf, hp]
    rfl

/-- **Resolution is transparent to inheritance.** Let `base` be above `derived`, with any number of
types from `derived` on to pass, none of which declares a field that publishes the name or a
property of it; what else they declare does not matter. If the path from `derived` ends within the
bound of walks, the name means the same on both: the same descriptor or the same error, but for the
complaint that there is nothing of the name, which names the type that was asked. -/
theorem resolve_inherited {k : Nat} (hbase : ctx.catalog.baseAfter k derived = some base)
    (hends : ctx.catalog.Ends derived)
    (hbetween : ∀ i < k, ∀ t, (ctx.catalog.baseAfter i derived).bind ctx.catalog.find? = some t →
      (∀ f ∈ t.fields, ctx.publishes name f = false) ∧ ∀ p ∈ t.properties, p.name ≠ name)
    (span : Span) :
    ctx.resolve derived (.unqualified name) span =
      (ctx.resolve base (.unqualified name) span).mapError
        (·.withOwner (ctx.catalog.nameOf derived)) ∧
    ∀ owner n s, ctx.resolve base (.unqualified name) span =
        .error (.unresolvedProperty owner n s) →
      owner = ctx.catalog.nameOf base ∧ n = name ∧ s = span := by
  have hskip (i : Nat) (hi : i < k) (t : TypeDecl)
      (ht : (ctx.catalog.baseAfter i derived).bind ctx.catalog.find? = some t) :
      t.fields.find? (ctx.publishes name) = none ∧ t.findProperty? name = none := by
    obtain ⟨hfields, hproperties⟩ := hbetween i hi t ht
    exact ⟨by simpa using hfields, by simpa [TypeDecl.findProperty?] using hproperties⟩
  have hfield : ctx.descriptorField? derived name = ctx.descriptorField? base name := by
    rw [descriptorField?_eq_nearest, descriptorField?_eq_nearest]
    exact Catalog.nearest_of_baseAfter hends hbase fun i hi t ht => (hskip i hi t ht).1
  have hproperty : ctx.catalog.findProperty? derived name = ctx.catalog.findProperty? base name :=
    Catalog.nearest_of_baseAfter hends hbase fun i hi t ht => (hskip i hi t ht).2
  rw [resolve_unqualified, resolve_unqualified]
  refine ⟨lookUp_of_same hfield hproperty, fun owner n s h => ?_⟩
  rcases ctx.lookUp_cases base name span with
    ⟨f, -, ⟨p, -, -, h'⟩ | h'⟩ | ⟨p, -, -, ⟨v, -, h'⟩ | h'⟩ | ⟨-, -, h'⟩ <;>
    rw [h] at h' <;> cases h'
  exact ⟨rfl, rfl, rfl⟩

/-- A toggle has the property of the control two types above it, although the button in between has
fields of its name; of what nobody declares, each type complains in its own name. -/
theorem resolve_inherited_toggle :
    let toggle := (TypeDecl.reference "Toggle").id
    let control := (TypeDecl.reference "Control").id
    let ctx := Context.declared .customary (toggles fun t => { t with fields := homonyms })
    let fw := ctx.framework
    let p : FieldProperty :=
      ⟨"IsEnabled", control,
        .descriptor "IsEnabledProperty" control (.ofInstance fw.styledProperty [fw.bool]), fw.bool,
        true, false, true⟩
    ctx.catalog.baseAfter 2 toggle = some control ∧ ctx.catalog.Ends toggle ∧
      ctx.resolve control (.unqualified "IsEnabled") .unknown = .ok (.field p) ∧
      ctx.resolve toggle (.unqualified "IsEnabled") .unknown = .ok (.field p) ∧
      ctx.resolve control (.unqualified "Title") .unknown =
        .error (.unresolvedProperty "Control" "Title" .unknown) ∧
      ctx.resolve toggle (.unqualified "Title") .unknown =
        .error (.unresolvedProperty "Toggle" "Title" .unknown) := by
  intro toggle control ctx fw p
  have hbase : ctx.catalog.baseAfter 2 toggle = some control := by decide +kernel
  have hends : ctx.catalog.Ends toggle :=
    Catalog.baseAfter_of_le (m := 3) (by decide +kernel) (by decide)
  have hbetween : ∀ name ∈ ["IsEnabled", "Title"], ∀ i < 2, ∀ t,
      (ctx.catalog.baseAfter i toggle).bind ctx.catalog.find? = some t →
        (∀ f ∈ t.fields, ctx.publishes name f = false) ∧ ∀ p ∈ t.properties, p.name ≠ name := by
    have hall : ∀ name ∈ ["IsEnabled", "Title"], ∀ i < 2,
        ∀ t ∈ ((ctx.catalog.baseAfter i toggle).bind ctx.catalog.find?).toList,
          (∀ f ∈ t.fields, ctx.publishes name f = false) ∧ ∀ p ∈ t.properties, p.name ≠ name := by
      decide +kernel
    exact fun name hname i hi t ht => hall name hname i hi t (Option.mem_toList.mpr ht)
  have hp : ctx.resolve control (.unqualified "IsEnabled") .unknown = .ok (.field p) := by
    decide +kernel
  have hnone : ctx.resolve control (.unqualified "Title") .unknown =
      .error (.unresolvedProperty "Control" "Title" .unknown) := by
    decide +kernel
  obtain ⟨hsame, -⟩ := resolve_inherited hbase hends (hbetween "IsEnabled" (by simp)) .unknown
  obtain ⟨hnamed, -⟩ := resolve_inherited hbase hends (hbetween "Title" (by simp)) .unknown
  refine ⟨hbase, hends, hp, ?_, hnone, ?_⟩
  · rw [hsame, hp]
    rfl
  · rw [hnamed, hnone]
    decide +kernel

end Context

end PropertyLowering
