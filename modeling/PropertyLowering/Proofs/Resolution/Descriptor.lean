import Mathlib.Data.List.Forall2
import PropertyLowering.Proofs.Catalog.Lineage
import PropertyLowering.Proofs.Framework.Shape

/-!
Resolution to descriptor fields.

Of all the fields on the lineage of the owner, the first that publishes the name decides. It is the
property, or it is refused, and properties with accessors come in only where no field publishes the
name. Fields that do not publish the name are never seen.
-/

namespace PropertyLowering

namespace Catalog

/-- The nearest instance of a family among a type and its bases. -/
def nearestInstance? (c : Catalog) (storage family : Ident) : Option TypeDecl :=
  (c.lineage storage).find? (·.definition == some family)

variable {c d : Catalog} {R : Ident → TypeDecl → TypeDecl → Prop}

lemma valueType_eq (storage family : Ident) (field : String) (span : Span) :
    c.valueType storage family field span =
      match (c.nearestInstance? storage family).bind (·.args.head?) with
      | some type => .ok type
      | none => .error (.notATypedProperty field (c.nameOf storage) (c.nameOf family) span) := by
  have hdefinition (a : Ident) :
      (c.definitionOf? a == some family) = (c.find? a).any (·.definition == some family) := by
    cases hfind : c.find? a <;> simp [definitionOf?, hfind]
  have hargs (a : Ident) : (c.argsOf a).head? = (c.find? a).bind (·.args.head?) := by
    cases hfind : c.find? a <;> simp [argsOf, hfind]
  have hfirst : ((c.ancestry storage).find? (c.definitionOf? · == some family)).bind
      (c.argsOf · |>.head?) = (c.nearestInstance? storage family).bind (·.args.head?) := by
    simp only [hdefinition, hargs, find?_ancestry, nearestInstance?]
  cases hv : (c.nearestInstance? storage family).bind (·.args.head?) with
  | none => simp only [valueType, hfirst, hv]
  | some v => simp only [valueType, hfirst, hv]

lemma DiffersBy.valueType (h : DiffersBy R c d) (storage family : Ident) (field : String)
    (span : Span) :
    d.valueType storage family field span = c.valueType storage family field span := by
  simp only [Catalog.valueType, Catalog.ancestry, h.ancestryWithin, h.definitionOf?, h.argsOf,
    h.nameOf]

end Catalog

/-- The property is what the field `f` publishes under a name, with values of type `v`. -/
structure FieldProperty.Describes (ctx : Context) (name : String) (f : FieldDecl) (v : Ident)
    (p : FieldProperty) : Prop where
  name : p.name = name
  field : p.field = f
  owner : p.owner = f.owner
  valueType : p.valueType = v
  styled : p.isStyled = true ↔
    ctx.catalog.definitionOf? f.type = some ctx.framework.styledProperty
  attached : p.isAttached = true ↔
    ctx.catalog.definitionOf? f.type = some ctx.framework.attachedProperty
  apart : ctx.framework.styledProperty ≠ ctx.framework.attachedProperty →
    ¬ (p.isStyled = true ∧ p.isAttached = true)

namespace Context

variable {ctx : Context} {hint owner : Ident} {r : Reference} {name : String} {span : Span}

/-- The field publishes the property of a name: it is static and public, and its name is that of
the property with the suffix. -/
def publishes (ctx : Context) (name : String) (f : FieldDecl) : Bool :=
  f.isStatic && f.isPublic && f.name == name ++ ctx.framework.fieldSuffix

lemma descriptorField?_eq (owner : Ident) (name : String) :
    ctx.descriptorField? owner name = (ctx.catalog.fields owner).find? (ctx.publishes name) := by
  rw [descriptorField?, Catalog.staticFields_eq, List.find?_filter]
  congr 1
  funext f
  simp only [publishes, Bool.and_assoc, Bool.decide_and, Bool.decide_eq_true]

lemma descriptorField?_eq_nearest (owner : Ident) (name : String) :
    ctx.descriptorField? owner name =
      ctx.catalog.nearest (·.fields.find? (ctx.publishes name)) owner := by
  rw [descriptorField?_eq, Catalog.fields, List.find?_flatMap, Catalog.nearest_eq]

lemma resolve_eq_lookUp (hselector : ctx.isSelector r = false)
    (howner : ctx.ownerOf hint r span = .ok owner) :
    ctx.resolve hint r span = ctx.lookUp owner r.name span := by
  simp [resolve, hselector, howner, bind, Except.bind]

lemma resolve_unqualified (hint : Ident) (name : String) (span : Span) :
    ctx.resolve hint (.unqualified name) span = ctx.lookUp hint name span :=
  resolve_eq_lookUp (by simp [isSelector, Reference.unqualified]) rfl

lemma lookUp_of_published {f : FieldDecl}
    (h : (ctx.catalog.fields owner).find? (ctx.publishes name) = some f) :
    ctx.lookUp owner name span = .field <$> ctx.fieldProperty owner name f span := by
  simp [lookUp, descriptorField?_eq, h]

lemma fieldProperty_of_typed {f : FieldDecl} {t : TypeDecl} {v : Ident}
    (ht : ctx.catalog.nearestInstance? f.type ctx.framework.typedProperty = some t)
    (hv : t.args.head? = some v) :
    ∃ p, ctx.fieldProperty owner name f span = .ok p ∧ p.Describes ctx name f v ∧
      p.allowsBinding = !ctx.keepsBindingsAway owner name := by
  refine ⟨_, by simp only [fieldProperty, Catalog.valueType_eq, ht, Option.bind_some, hv]; rfl,
    ⟨rfl, rfl, rfl, rfl, by simp, by simp, fun hne hboth => ?_⟩, rfl⟩
  obtain ⟨hstyled, hattached⟩ := hboth
  rw [beq_iff_eq] at hstyled hattached
  exact hne (Option.some.inj (hstyled.symm.trans hattached))

lemma exists_of_fieldProperty {f : FieldDecl} {p : FieldProperty}
    (h : ctx.fieldProperty owner name f span = .ok p) :
    ∃ t v, ctx.catalog.nearestInstance? f.type ctx.framework.typedProperty = some t ∧
      t.args.head? = some v ∧ p.Describes ctx name f v ∧
      p.allowsBinding = !ctx.keepsBindingsAway owner name := by
  cases hv : (ctx.catalog.nearestInstance? f.type ctx.framework.typedProperty).bind
      (·.args.head?) with
  | none =>
    simp only [fieldProperty, Catalog.valueType_eq, hv] at h
    cases h
  | some v =>
    obtain ⟨t, ht, hv⟩ := Option.bind_eq_some_iff.mp hv
    obtain ⟨q, hq, hdescribes, hbinding⟩ := fieldProperty_of_typed ht hv
    obtain rfl : q = p := Except.ok.inj (hq.symm.trans h)
    exact ⟨t, v, ht, hv, hdescribes, hbinding⟩

lemma fieldProperty_of_untyped {f : FieldDecl}
    (h : ∀ t, ctx.catalog.nearestInstance? f.type ctx.framework.typedProperty = some t →
      t.args = []) :
    ctx.fieldProperty owner name f span =
      .error (.notATypedProperty f.name (ctx.catalog.nameOf f.type)
        (ctx.catalog.nameOf ctx.framework.typedProperty) span) := by
  have hnone : (ctx.catalog.nearestInstance? f.type ctx.framework.typedProperty).bind
      (·.args.head?) = none := by
    rw [Option.bind_eq_none_iff]
    exact fun t ht => by rw [h t ht]; rfl
  simp only [fieldProperty, Catalog.valueType_eq, hnone]
  rfl

lemma lookUp_of_unpublished
    (h : (ctx.catalog.fields owner).find? (ctx.publishes name) = none) :
    ctx.lookUp owner name span =
      match (ctx.catalog.properties owner).find? (·.name == name) with
      | some p => .accessors <$> AccessorProperty.ofDecl ctx.catalog p span
      | none => .error (.unresolvedProperty (ctx.catalog.nameOf owner) name span) := by
  cases hp : (ctx.catalog.properties owner).find? (·.name == name) with
  | none => simp only [lookUp, descriptorField?_eq, h, Catalog.findProperty?_eq, hp]
  | some p => simp only [lookUp, descriptorField?_eq, h, Catalog.findProperty?_eq, hp]

/-- **What a name can mean on a type.** -/
lemma lookUp_cases (ctx : Context) (owner : Ident) (name : String) (span : Span) :
    (∃ f, ctx.descriptorField? owner name = some f ∧
      ((∃ p, p.field = f ∧ ctx.fieldProperty owner name f span = .ok p ∧
        ctx.lookUp owner name span = .ok (.field p)) ∨
      ctx.lookUp owner name span =
        .error (.notATypedProperty f.name (ctx.catalog.nameOf f.type)
          (ctx.catalog.nameOf ctx.framework.typedProperty) span))) ∨
    (∃ p, ctx.descriptorField? owner name = none ∧
      ctx.catalog.findProperty? owner name = some p ∧
      ((∃ v, p.valueType? = some v ∧ ctx.lookUp owner name span =
        .ok (.accessors ⟨p.name, p.owner, p.getter, p.setters, v⟩)) ∨
      ctx.lookUp owner name span =
        .error (.missingAccessor (ctx.catalog.nameOf p.owner) p.name span))) ∨
    (ctx.descriptorField? owner name = none ∧ ctx.catalog.findProperty? owner name = none ∧
      ctx.lookUp owner name span =
        .error (.unresolvedProperty (ctx.catalog.nameOf owner) name span)) := by
  cases hf : ctx.descriptorField? owner name with
  | some f =>
    refine .inl ⟨f, rfl, ?_⟩
    simp only [lookUp, hf]
    cases hv : (ctx.catalog.nearestInstance? f.type ctx.framework.typedProperty).bind
        (·.args.head?) with
    | some v =>
      obtain ⟨t, ht, hv⟩ := Option.bind_eq_some_iff.mp hv
      obtain ⟨p, hp, hdescribes, -⟩ : ∃ p, ctx.fieldProperty owner name f span = .ok p ∧
          p.Describes ctx name f v ∧ _ := fieldProperty_of_typed ht hv
      exact .inl ⟨p, hdescribes.field, hp, by rw [hp]; rfl⟩
    | none =>
      refine .inr ?_
      rw [fieldProperty_of_untyped fun t ht => ?_]
      · rfl
      · simpa [ht] using hv
  | none =>
    cases hp : ctx.catalog.findProperty? owner name with
    | none => exact .inr (.inr ⟨rfl, rfl, by simp only [lookUp, hf, hp]⟩)
    | some p =>
      refine .inr (.inl ⟨p, rfl, rfl, ?_⟩)
      simp only [lookUp, hf, hp, AccessorProperty.ofDecl]
      cases p.valueType? with
      | none => exact .inr rfl
      | some v => exact .inl ⟨v, rfl, rfl⟩

lemma resolve_eq_ok {d : Descriptor} :
    ctx.resolve hint r span = .ok d ↔
      (ctx.isSelector r = true ∧ d = .selector r.name) ∨
      (ctx.isSelector r = false ∧ ∃ owner, ctx.ownerOf hint r span = .ok owner ∧
        ctx.lookUp owner r.name span = .ok d) := by
  cases hselector : ctx.isSelector r with
  | true => simp [resolve, hselector, eq_comm]
  | false =>
    cases howner : ctx.ownerOf hint r span with
    | error e => simp [resolve, hselector, howner, bind, Except.bind]
    | ok owner => simp [resolve, hselector, howner, bind, Except.bind]

lemma resolve_eq_field {p : FieldProperty} :
    ctx.resolve hint r span = .ok (.field p) ↔
      ctx.isSelector r = false ∧ ∃ owner f, ctx.ownerOf hint r span = .ok owner ∧
        (ctx.catalog.fields owner).find? (ctx.publishes r.name) = some f ∧
        ctx.fieldProperty owner r.name f span = .ok p := by
  constructor
  · intro h
    obtain ⟨-, hd⟩ | ⟨hselector, owner, howner, hlookUp⟩ := resolve_eq_ok.mp h
    · cases hd
    · refine ⟨hselector, owner, ?_⟩
      rcases ctx.lookUp_cases owner r.name span with
        ⟨f, hf, ⟨q, -, hq, h'⟩ | h'⟩ | ⟨q, -, -, ⟨v, -, h'⟩ | h'⟩ | ⟨-, -, h'⟩ <;>
        rw [hlookUp] at h' <;> cases h'
      rw [descriptorField?_eq] at hf
      exact ⟨f, howner, hf, hq⟩
  · rintro ⟨hselector, owner, f, howner, hf, hp⟩
    rw [resolve_eq_lookUp hselector howner, lookUp_of_published hf, hp]
    rfl

lemma exists_of_resolve_accessors {p : AccessorProperty}
    (h : ctx.resolve hint r span = .ok (.accessors p)) :
    ∃ owner q, ctx.ownerOf hint r span = .ok owner ∧
      (ctx.catalog.fields owner).find? (ctx.publishes r.name) = none ∧
      (ctx.catalog.properties owner).find? (·.name == r.name) = some q ∧
      p.name = q.name ∧ p.owner = q.owner := by
  obtain ⟨-, hd⟩ | ⟨-, owner, howner, hlookUp⟩ := resolve_eq_ok.mp h
  · cases hd
  · rcases ctx.lookUp_cases owner r.name span with
      ⟨f, -, ⟨q, -, -, h'⟩ | h'⟩ | ⟨q, hf, hq, ⟨v, -, h'⟩ | h'⟩ | ⟨-, -, h'⟩ <;>
      rw [hlookUp] at h' <;> cases h'
    rw [descriptorField?_eq] at hf
    rw [Catalog.findProperty?_eq] at hq
    exact ⟨owner, q, howner, hf, hq, rfl, rfl⟩

lemma lookUp_congr_of_found {R : Ident → TypeDecl → TypeDecl → Prop} {d : Catalog}
    (h : ctx.catalog.DiffersBy R d)
    (hfield : d.nearest (·.fields.find? (ctx.publishes name)) owner =
      ctx.catalog.nearest (·.fields.find? (ctx.publishes name)) owner)
    (hproperty : d.findProperty? owner name = ctx.catalog.findProperty? owner name) :
    Context.lookUp { ctx with catalog := d } owner name span = ctx.lookUp owner name span := by
  have hfield : Context.descriptorField? { ctx with catalog := d } owner name =
      ctx.descriptorField? owner name := by
    rw [descriptorField?_eq_nearest, descriptorField?_eq_nearest]
    exact hfield
  simp only [lookUp, hfield, hproperty, fieldProperty, keepsBindingsAway, h.valueType,
    h.definitionOf?, AccessorProperty.ofDecl, h.nameOf]

/-- What a name means depends on the first field that publishes it and on the first property of
the name, type by type. -/
lemma lookUp_congr {R : Ident → TypeDecl → TypeDecl → Prop} {d : Catalog}
    (h : ctx.catalog.DiffersBy R d)
    (hfields : ∀ a ∈ ctx.catalog.ancestry owner, ∀ t u, R a t u →
      u.fields.find? (ctx.publishes name) = t.fields.find? (ctx.publishes name))
    (hproperties : ∀ a ∈ ctx.catalog.ancestry owner, ∀ t u, R a t u →
      u.findProperty? name = t.findProperty? name) :
    Context.lookUp { ctx with catalog := d } owner name span = ctx.lookUp owner name span :=
  lookUp_congr_of_found h (h.nearest hfields) (h.nearest hproperties)

lemma ownerOf_congr {R : Ident → TypeDecl → TypeDecl → Prop} {d : Catalog}
    (h : ctx.catalog.DiffersBy R d) :
    Context.ownerOf { ctx with catalog := d } hint r span = ctx.ownerOf hint r span := by
  simp only [ownerOf, h.resolve?]

lemma resolve_congr (ctx : Context) {R : Ident → TypeDecl → TypeDecl → Prop} {d : Catalog}
    (h : ctx.catalog.DiffersBy R d) (howner : ctx.ownerOf hint r span = .ok owner)
    (hlookUp : Context.lookUp { ctx with catalog := d } owner r.name span =
      ctx.lookUp owner r.name span) :
    Context.resolve { ctx with catalog := d } hint r span = ctx.resolve hint r span := by
  have hselector : Context.isSelector { ctx with catalog := d } r = ctx.isSelector r := rfl
  simp only [resolve, hselector, ownerOf_congr h, howner, bind, Except.bind, hlookUp]

lemma differsBy_declared {names : FrameworkNames} {R : TypeDecl → TypeDecl → Prop}
    {ts us : List TypeDecl} (h : List.Forall₂ (fun t u => u.shell = t.shell ∧ R t u) ts us) :
    (declared names ts).catalog.DiffersBy (fun _ => R) (declared names us).catalog := by
  have hfind (p : TypeDecl → Bool) (hp : ∀ t u : TypeDecl, u.shell = t.shell → p u = p t) :
      (us.find? p).map TypeDecl.shell = (ts.find? p).map TypeDecl.shell ∧
        ∀ t u, ts.find? p = some t → us.find? p = some u → R t u := by
    -- `p` does not look at members, so both searches stop at the same place
    induction h with
    | nil => exact ⟨rfl, fun t u ht _ => absurd ht (by simp)⟩
    | cons htu _ ih =>
      rw [List.find?_cons, List.find?_cons, hp _ _ htu.1]
      split
      · refine ⟨congrArg some htu.1, fun t' u' ht hu => ?_⟩
        rw [← Option.some.inj ht, ← Option.some.inj hu]
        exact htu.2
      · exact ih
  have hid (type : Ident) := hfind (·.id == type) fun t u htu => by rw [TypeDecl.id_of_shell htu]
  refine ⟨fun name => ?_, fun type => (hid type).1, fun type => (hid type).2⟩
  have hname := (hfind (·.name == name) fun t u htu => by rw [TypeDecl.name_of_shell htu]).1
  simpa [declared, Function.comp_def, TypeDecl.shell] using congrArg (Option.map (·.id)) hname

/-- **The most derived field that publishes the name decides.** If its type is an instance of the
family of typed properties with an argument, or the nearest base that is an instance has one, then
the reference means just the property that this field describes. If not, the reference is refused,
whatever properties with accessors there are; those are looked for only where no field publishes
the name. Fields that do not publish it, private ones and those of instances among them, have no
effect on any type. -/
theorem resolve_published (hselector : ctx.isSelector r = false)
    (howner : ctx.ownerOf hint r span = .ok owner) :
    (∀ f, (ctx.catalog.fields owner).find? (ctx.publishes r.name) = some f →
      (∀ t v, ctx.catalog.nearestInstance? f.type ctx.framework.typedProperty = some t →
        t.args.head? = some v →
          ∃ p, ctx.resolve hint r span = .ok (.field p) ∧ p.Describes ctx r.name f v) ∧
      ((∀ t, ctx.catalog.nearestInstance? f.type ctx.framework.typedProperty = some t →
        t.args = []) →
          ctx.resolve hint r span =
            .error (.notATypedProperty f.name (ctx.catalog.nameOf f.type)
              (ctx.catalog.nameOf ctx.framework.typedProperty) span))) ∧
    ((ctx.catalog.fields owner).find? (ctx.publishes r.name) = none →
      ctx.resolve hint r span =
        match (ctx.catalog.properties owner).find? (·.name == r.name) with
        | none => .error (.unresolvedProperty (ctx.catalog.nameOf owner) r.name span)
        | some p =>
          match p.valueType? with
          | none => .error (.missingAccessor (ctx.catalog.nameOf p.owner) p.name span)
          | some v => .ok (.accessors ⟨p.name, p.owner, p.getter, p.setters, v⟩)) ∧
    ∀ d, ctx.catalog.DiffersBy (fun _ t u =>
        u.fields.filter (ctx.publishes r.name) = t.fields.filter (ctx.publishes r.name) ∧
          u.properties = t.properties) d →
      Context.resolve { ctx with catalog := d } hint r span = ctx.resolve hint r span := by
  have hresolve := resolve_eq_lookUp hselector howner
  refine ⟨fun f hf => ⟨fun t v ht hv => ?typed, fun huntyped => ?untyped⟩, fun hnone => ?unpublished,
    fun d hd => ?other⟩
  case typed =>
    obtain ⟨p, hp, hdescribes, -⟩ := fieldProperty_of_typed ht hv
    exact ⟨p, by rw [hresolve, lookUp_of_published hf, hp]; rfl, hdescribes⟩
  case untyped =>
    rw [hresolve, lookUp_of_published hf, fieldProperty_of_untyped huntyped]
    rfl
  case unpublished =>
    rw [hresolve, lookUp_of_unpublished hnone]
    cases (ctx.catalog.properties owner).find? (·.name == r.name) with
    | none => rfl
    | some p => cases hv : p.valueType? <;> simp [AccessorProperty.ofDecl, hv]
  case other =>
    have howner' : Context.ownerOf { ctx with catalog := d } hint r span = .ok owner :=
      (ownerOf_congr hd).trans howner
    have hresolve' : Context.resolve { ctx with catalog := d } hint r span =
        Context.lookUp { ctx with catalog := d } owner r.name span :=
      resolve_eq_lookUp hselector howner'
    rw [hresolve, hresolve']
    refine lookUp_congr hd (fun a _ t u hmembers => ?_) fun a _ t u hmembers => ?_
    · rw [← List.head?_filter, ← List.head?_filter, hmembers.1]
    · rw [TypeDecl.findProperty?, TypeDecl.findProperty?, hmembers.2]

/-- A control publishes `IsEnabled`, a styled property of truth values, and a button derives from
it and has the given members. -/
def controls (members : TypeDecl → TypeDecl) : List TypeDecl :=
  let fw := Framework.declared .customary
  let typed : TypeDecl :=
    { TypeDecl.reference "Property<bool>" with
      id := fw.classProperty, definition := some fw.typedProperty, args := [fw.bool] }
  let styled : TypeDecl :=
    { TypeDecl.reference "StyledProperty<bool>" with
      id := .ofInstance fw.styledProperty [fw.bool]
      baseType := some typed.id, definition := some fw.styledProperty, args := [fw.bool] }
  let control : TypeDecl := .reference "Control"
  [typed, styled, control.addField (.descriptor "IsEnabledProperty" control.id styled.id),
    members ((TypeDecl.reference "Button").derivedFrom control.id)]

/-- A toggle derives from the button. -/
def toggles (members : TypeDecl → TypeDecl) : List TypeDecl :=
  controls members ++
    [(TypeDecl.reference "Toggle").derivedFrom (TypeDecl.reference "Button").id]

/-- Fields of the button that do not publish `IsEnabled`: one is private, one of instances. -/
def homonyms : List FieldDecl :=
  let button := (TypeDecl.reference "Button").id
  let string := (Framework.declared .customary).string
  [.ofName "IsEnabledProperty" button string ⟨true, false, true⟩,
    .ofName "IsEnabledProperty" button string ⟨false, true, true⟩]

theorem resolve_published_homonyms :
    let ctx := Context.declared .customary (controls fun t => { t with fields := homonyms })
    let plain := Context.declared .customary (controls id)
    let r := Reference.unqualified "IsEnabled"
    let f := FieldDecl.descriptor "IsEnabledProperty" (TypeDecl.reference "Control").id
      (.ofInstance ctx.framework.styledProperty [ctx.framework.bool])
    let button := (TypeDecl.reference "Button").id
    ctx.isSelector r = false ∧ ctx.ownerOf button r .unknown = .ok button ∧
      (∃ p, ctx.resolve button r .unknown = .ok (.field p) ∧
        p.Describes ctx "IsEnabled" f ctx.framework.bool) ∧
      plain.resolve button r .unknown = ctx.resolve button r .unknown := by
  intro ctx plain r f button
  have hselector : ctx.isSelector r = false := rfl
  have howner : ctx.ownerOf button r .unknown = .ok button := rfl
  obtain ⟨hfirst, -, hother⟩ := resolve_published hselector howner
  have hf : (ctx.catalog.fields button).find? (ctx.publishes "IsEnabled") = some f := by
    decide +kernel
  have hnearest : (ctx.catalog.nearestInstance? f.type ctx.framework.typedProperty).map (·.args) =
      some [ctx.framework.bool] := by
    decide +kernel
  obtain ⟨t, ht, hargs⟩ := Option.map_eq_some_iff.mp hnearest
  refine ⟨hselector, howner, (hfirst f hf).1 t _ ht (by rw [hargs]; rfl),
    hother plain.catalog (differsBy_declared ?_)⟩
  exact .cons ⟨rfl, rfl, rfl⟩ (.cons ⟨rfl, rfl, rfl⟩ (.cons ⟨rfl, rfl, rfl⟩
    (.cons ⟨rfl, by decide +kernel, rfl⟩ .nil)))

end Context

end PropertyLowering
