import PropertyLowering.Compiler
import PropertyLowering.Proofs.Resolution.Descriptor

/-!
The setters of a reference to a property with a descriptor field.

Their conventions depend on the definition of the field's type, and on whether the first property
of the name on the lineage of the owner carries the attribute that keeps bindings away. Field and
property may stand on different types. Main statement: the list of a written reference, and how it
changes with the attribute alone.
-/

namespace PropertyLowering

namespace Convention

/-- What is passed is a binding. -/
def isBinding : Convention → Bool
  | binding | bindingWithPriority => true
  | plain | plainWithPriority | unset => false

end Convention

/-- The setter takes the place `rank` among those of a property with values of type `v`. -/
structure Setter.StandsAt (ctx : Context) (p : FieldProperty) (v : Ident) (rank : Nat)
    (s : Setter) : Prop where
  rank : s.rank = rank
  property : s.property = p
  target : s.target = p.field.owner
  params : s.params =
    match s.convention with
    | .plain => [v]
    | .plainWithPriority => [ctx.framework.bindingPriority, v]
    | .binding => [ctx.framework.binding]
    | .bindingWithPriority => [ctx.framework.bindingPriority, ctx.framework.binding]
    | .unset => [ctx.framework.unsetValueType]
  acceptsNull : s.acceptsNull = true ↔
    (s.convention = .plain ∨ s.convention = .plainWithPriority) ∧
      ctx.catalog.acceptsNull v = true
  acceptsRuntimeNull : s.acceptsRuntimeNull = s.acceptsNull

namespace FieldProperty

variable {ctx : Context} {p : FieldProperty}

lemma conventions_eq (p : FieldProperty) :
    p.conventions =
      (if p.isStyled = true ∨ p.isAttached = true then
        [.binding, .bindingWithPriority, .plainWithPriority, .unset]
      else [.binding, .unset, .plain]).filter fun k => p.allowsBinding || !k.isBinding := by
  unfold conventions takesPriority
  cases p.isStyled <;> cases p.isAttached <;> cases p.allowsBinding <;> rfl

lemma map_convention_setters : (p.setters ctx).map (·.convention) = p.conventions := by
  ext1 i
  simp [setters, setter, Function.comp_def]

lemma standsAt_setters {name : String} {f : FieldDecl} {v : Ident}
    (h : p.Describes ctx name f v) {i : Nat} {s : Setter} (hs : (p.setters ctx)[i]? = some s) :
    s.StandsAt ctx p v i := by
  simp only [setters, List.getElem?_mapIdx, Option.map_eq_some_iff] at hs
  obtain ⟨convention, -, rfl⟩ := hs
  obtain ⟨-, rfl, howner, rfl, -⟩ := h
  refine ⟨rfl, rfl, howner, ?_, ?_, rfl⟩
  · cases convention <;> rfl
  · cases convention <;> simp [setter, Convention.takesValue]

/-- The property with bindings kept away. -/
def withoutBindings (p : FieldProperty) : FieldProperty := { p with allowsBinding := false }

lemma withoutBindings_of_eq_false (h : p.allowsBinding = false) (b : Bool) :
    withoutBindings { p with allowsBinding := b } = p := by
  rw [withoutBindings, ← h]

end FieldProperty

/-- The node of the same property with bindings kept away: of its setters, those that take no
binding are left and are ranked anew. -/
def PropertyNode.withoutBindings (n : PropertyNode) : PropertyNode :=
  { n with
    descriptor :=
      match n.descriptor with
      | .field p => .field p.withoutBindings
      | d => d
    setters := (n.setters.filter (!·.convention.isBinding)).mapIdx fun rank s =>
      { s with rank, property := s.property.withoutBindings } }

lemma PropertyNode.ofDescriptor_withoutBindings (ctx : Context) (p : FieldProperty) (span : Span) :
    ofDescriptor ctx (.field p.withoutBindings) span =
      (ofDescriptor ctx (.field p) span).withoutBindings := by
  obtain ⟨name, owner, field, valueType, isStyled, isAttached, allowsBinding⟩ := p
  cases isStyled <;> cases isAttached <;> cases allowsBinding <;> rfl

namespace Context

variable {ctx : Context} {owner : Ident} {name : String}

/-- The first property of the name on a type or its bases carries the attribute that keeps bindings
away. -/
def Marked (ctx : Context) (owner : Ident) (name : String) : Prop :=
  ∃ p, (ctx.catalog.properties owner).find? (·.name == name) = some p ∧
    ∃ a ∈ p.attributes, a.type = ctx.framework.assignBindingAttribute

lemma keepsBindingsAway_iff : ctx.keepsBindingsAway owner name = true ↔ ctx.Marked owner name := by
  rw [keepsBindingsAway, Catalog.findProperty?_eq, Marked]
  cases (ctx.catalog.properties owner).find? (·.name == name) with
  | none => simp
  | some p => simp [PropertyDecl.hasAttribute]

lemma fieldProperty_congr {R : Ident → TypeDecl → TypeDecl → Prop} {d : Catalog}
    (h : ctx.catalog.DiffersBy R d) {f : FieldDecl} {span : Span} {p : FieldProperty}
    (hp : ctx.fieldProperty owner name f span = .ok p) :
    Context.fieldProperty { ctx with catalog := d } owner name f span =
      .ok { p with
        allowsBinding := !Context.keepsBindingsAway { ctx with catalog := d } owner name } := by
  unfold fieldProperty at hp ⊢
  simp only [h.valueType, h.definitionOf?]
  cases hv : ctx.catalog.valueType f.type ctx.framework.typedProperty f.name span with
  | error e => simp [hv, bind, Except.bind] at hp
  | ok v =>
    simp only [hv, bind, Except.bind, pure, Except.pure, Except.ok.injEq] at hp ⊢
    rw [← hp]

end Context

/-- The catalogs differ in properties at most. -/
def Catalog.DiffersInProperties (c d : Catalog) : Prop :=
  c.DiffersBy (fun _ t u => u.fields = t.fields ∧ u.methods = t.methods) d

namespace Catalog.DiffersInProperties

variable {c d : Catalog}

lemma fields (h : c.DiffersInProperties d) (type : Ident) : d.fields type = c.fields type :=
  h.flatMap_lineage fun _ _ _ _ hmembers => hmembers.1

lemma find (h : c.DiffersInProperties d) (names : FrameworkNames) :
    Framework.find d names = Framework.find c names := by
  have htype : Framework.findType d = Framework.findType c := by
    funext name
    rw [Framework.findType, Framework.findType, h.resolve?]
  have hmethod : Framework.findMethod d = Framework.findMethod c := by
    funext owner ownerName name
    have hnearest : d.findMethod? owner name = c.findMethod? owner name :=
      h.nearest fun _ _ t u hmembers => by
        rw [TypeDecl.findMethod?, TypeDecl.findMethod?, hmembers.2]
    rw [Framework.findMethod, Framework.findMethod, hnearest]
  have hfield : Framework.findStaticField d = Framework.findStaticField c := by
    funext owner ownerName name
    simp only [Framework.findStaticField, staticFields_eq, h.fields]
  have hinstance : Framework.findInstance d = Framework.findInstance c := by
    funext definition args name
    have hfound (type : Ident) :
        (d.find? type).map (fun _ => type) = (c.find? type).map fun _ => type :=
      h.map_find? fun _ _ _ => rfl
    rw [Framework.findInstance, Framework.findInstance, hfound]
  simp only [Framework.find, htype, hmethod, hfield, hinstance]

end Catalog.DiffersInProperties

lemma PropertyNode.ofDescriptor_congr {ctx : Context} {R : Ident → TypeDecl → TypeDecl → Prop}
    {d : Catalog} (h : ctx.catalog.DiffersBy R d) (descriptor : Descriptor) (span : Span) :
    ofDescriptor { ctx with catalog := d } descriptor span = ofDescriptor ctx descriptor span := by
  cases descriptor <;>
    simp only [ofDescriptor, FieldProperty.setters, FieldProperty.setter, h.acceptsNull]

namespace Compiler

variable {c : Compiler} {hint : Ident} {raw : String} {span : Span} {n : PropertyNode}

lemma make_eq_ok {catalog : Catalog} {names : FrameworkNames} {slotBase : Nat} :
    make catalog names slotBase = .ok c ↔
      slotBase ≤ lastSlot ∧ ∃ fw, Framework.find catalog names = .ok fw ∧
        c = ⟨⟨catalog, fw⟩, slotBase⟩ := by
  unfold make
  by_cases hbase : lastSlot < slotBase
  · simp [hbase, Nat.not_le.mpr hbase, bind, Except.bind, throw, throwThe, MonadExceptOf.throw]
  · cases Framework.find catalog names <;>
      simp [hbase, Nat.not_lt.mp hbase, bind, Except.bind, pure, Except.pure, eq_comm]

lemma make_congr {d : Catalog} {names : FrameworkNames} (h : c.catalog.DiffersInProperties d)
    (hc : make c.catalog names c.slotBase = .ok c) :
    make d names c.slotBase = .ok { c with catalog := d } := by
  obtain ⟨hbase, fw, hfind, hmade⟩ := make_eq_ok.mp hc
  refine make_eq_ok.mpr ⟨hbase, fw, (h.find names).trans hfind, ?_⟩
  rw [hmade]

lemma reference_eq_ok :
    c.reference hint raw span = .ok n ↔
      ∃ r d, Reference.parse raw span = .ok r ∧ c.resolve hint r span = .ok d ∧
        n = .ofDescriptor c.toContext d span := by
  unfold reference
  cases hr : Reference.parse raw span with
  | error e => simp [bind, Except.bind]
  | ok r =>
    cases hd : c.resolve hint r span with
    | error e => simp [hd, bind, Except.bind]
    | ok d => simp [hd, bind, Except.bind, pure, Except.pure, eq_comm]

/-- **Which setters a reference has, and what the attribute changes.** Take a written reference to
a property with a descriptor field. Its setters follow, in this order, the conventions of styled and
attached properties if the type of the field is such an instance itself, else those of other
properties; the conventions of bindings are left out just where the first property of the name
carries the attribute. The setters are ranked by position, belong to the type that declares the
field, take what their conventions say, and take null for a value alone, if the type of the values
accepts it.

Over a catalog that differs in properties at most, say in the attributes of that first one, the
compiler is the same otherwise and the reference is to a property with a descriptor field again. If
the one catalog has the attribute and the other has not, then the one node is that of the other
without the setters of bindings, the rest ranked anew. -/
theorem reference_setters {p : FieldProperty} (h : c.reference hint raw span = .ok n)
    (hp : n.descriptor = .field p) :
    ∃ r owner f t v, Reference.parse raw span = .ok r ∧ c.ownerOf hint r span = .ok owner ∧
      (c.catalog.fields owner).find? (c.publishes r.name) = some f ∧
      c.catalog.nearestInstance? f.type c.framework.typedProperty = some t ∧
      t.args.head? = some v ∧ p.Describes c.toContext r.name f v ∧
      (let all : List Convention :=
        if c.catalog.definitionOf? f.type = some c.framework.styledProperty ∨
            c.catalog.definitionOf? f.type = some c.framework.attachedProperty then
          [.binding, .bindingWithPriority, .plainWithPriority, .unset]
        else
          [.binding, .unset, .plain]
      (¬ c.Marked owner r.name → n.setters.map (·.convention) = all) ∧
        (c.Marked owner r.name →
          n.setters.map (·.convention) = all.filter (!·.isBinding))) ∧
      (∀ i (s : Setter), n.setters[i]? = some s → s.StandsAt c.toContext p v i) ∧
      ∀ d, c.catalog.DiffersInProperties d →
        let other : Compiler := { c with catalog := d }
        (∀ names, make c.catalog names c.slotBase = .ok c →
          make d names c.slotBase = .ok other) ∧
        ∃ n', other.reference hint raw span = .ok n' ∧
          (¬ c.Marked owner r.name → other.Marked owner r.name → n' = n.withoutBindings) ∧
          (c.Marked owner r.name → ¬ other.Marked owner r.name → n = n'.withoutBindings) := by
  obtain ⟨r, descriptor, hparse, hresolve, rfl⟩ := reference_eq_ok.mp h
  obtain rfl : descriptor = .field p := by cases descriptor <;> exact hp
  obtain ⟨hselector, owner, f, howner, hf, hfield⟩ := Context.resolve_eq_field.mp hresolve
  obtain ⟨t, v, ht, hv, hdescribes, hbinding⟩ := Context.exists_of_fieldProperty hfield
  refine ⟨r, owner, f, t, v, hparse, howner, hf, ht, hv, hdescribes, ?conventions,
    fun i s hs => FieldProperty.standsAt_setters hdescribes hs, fun d hd => ?other⟩
  case conventions =>
    have hlist : (PropertyNode.ofDescriptor c.toContext (.field p) span).setters.map
        (·.convention) = p.conventions := FieldProperty.map_convention_setters
    simp only [hlist, FieldProperty.conventions_eq, hdescribes.styled, hdescribes.attached,
      hbinding, ← Context.keepsBindingsAway_iff]
    refine ⟨fun hunmarked => ?_, fun hmarked => ?_⟩
    · simp [hunmarked]
    · simp [hmarked]
  case other =>
    intro other
    -- the same field is found and described, and only bindings depend on properties
    have hother : other.resolve hint r span = .ok (.field { p with
        allowsBinding := !other.keepsBindingsAway owner r.name }) := by
      refine Context.resolve_eq_field.mpr ⟨hselector, owner, f, ?_, ?_, ?_⟩
      · exact (Context.ownerOf_congr hd).trans howner
      · exact (congrArg (List.find? _) (hd.fields owner)).trans hf
      · exact Context.fieldProperty_congr hd hfield
    refine ⟨fun names => make_congr hd, _, reference_eq_ok.mpr ⟨r, _, hparse, hother, rfl⟩,
      fun hunmarked hmarked => ?_, fun hmarked hunmarked => ?_⟩
    · rw [Context.keepsBindingsAway_iff.mpr hmarked, ← PropertyNode.ofDescriptor_withoutBindings]
      exact PropertyNode.ofDescriptor_congr hd _ span
    · have hkept : p.allowsBinding = false := by
        rw [hbinding, Context.keepsBindingsAway_iff.mpr hmarked]
        rfl
      rw [← PropertyNode.ofDescriptor_withoutBindings,
        FieldProperty.withoutBindings_of_eq_false hkept]
      exact (PropertyNode.ofDescriptor_congr hd _ span).symm

theorem reference_setters_button :
    let button := (TypeDecl.reference "Button").id
    let control := (TypeDecl.reference "Control").id
    let compiler (attributes : List Attribute) : Compiler :=
      { Context.declared .customary
          (Context.controls (·.addProperty { PropertyDecl.bare "IsEnabled" button with attributes }))
        with slotBase := 0 }
    let plain := compiler []
    let fw := plain.framework
    let marked := compiler [⟨fw.assignBindingAttribute, []⟩]
    let p : FieldProperty :=
      ⟨"IsEnabled", control,
        .descriptor "IsEnabledProperty" control (.ofInstance fw.styledProperty [fw.bool]), fw.bool,
        true, false, true⟩
    ∃ n, plain.reference button "IsEnabled" .unknown = .ok n ∧ n.descriptor = .field p ∧
      n.setters.map (·.convention) =
        [.binding, .bindingWithPriority, .plainWithPriority, .unset] ∧
      marked.reference button "IsEnabled" .unknown = .ok n.withoutBindings := by
  intro button control compiler plain fw marked p
  have hn : plain.reference button "IsEnabled" .unknown =
      .ok (.ofDescriptor plain.toContext (.field p) .unknown) := by
    decide +kernel
  obtain ⟨r, owner, f, t, v, hparse, howner, -, -, -, -, -, -, hother⟩ := reference_setters hn rfl
  have hread : Reference.parse "IsEnabled" .unknown = .ok (.unqualified "IsEnabled") := by
    decide +kernel
  obtain rfl : r = .unqualified "IsEnabled" := Except.ok.inj (hparse.symm.trans hread)
  obtain rfl : button = owner := Except.ok.inj howner
  have hunmarked : ¬ plain.Marked button "IsEnabled" := by
    rw [← Context.keepsBindingsAway_iff]
    decide +kernel
  have hmarked : marked.Marked button "IsEnabled" := by
    rw [← Context.keepsBindingsAway_iff]
    decide +kernel
  have hdiffers : plain.catalog.DiffersInProperties marked.catalog :=
    Context.differsBy_declared (.cons ⟨rfl, rfl, rfl⟩ (.cons ⟨rfl, rfl, rfl⟩
      (.cons ⟨rfl, rfl, rfl⟩ (.cons ⟨rfl, rfl, rfl⟩ .nil))))
  obtain ⟨-, n', hn', hwithout, -⟩ := hother marked.catalog hdiffers
  refine ⟨_, hn, rfl, by decide +kernel, ?_⟩
  rw [← hwithout hunmarked hmarked]
  exact hn'

end Compiler

end PropertyLowering
