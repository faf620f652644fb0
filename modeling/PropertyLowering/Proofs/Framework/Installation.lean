import PropertyLowering.Proofs.Framework.Progress
import PropertyLowering.Proofs.Framework.Shape

/-!
What an installation leaves behind.

Installation and look-up go by different routes: one passes on the identities that it registers,
the other asks for names, for the first overload of a method, and for an instance that must be
there.
Main statement: whatever the names, as long as they and their identities differ, an installation
that comes through is found again, member by member.
-/

namespace PropertyLowering

open Registry Key

namespace FrameworkNames

variable (names : FrameworkNames)

def styledBase : TypeName := names.styledProperty.sibling "StyledPropertyBase`1"

def directBase : TypeName := names.typedProperty.sibling "DirectPropertyBase`1"

def direct : TypeName := names.typedProperty.sibling "DirectProperty`2"

/-- The typed property of truth values. -/
def classProperty : Key where
  name := names.typedProperty.sibling
    (TypeName.stem names.typedProperty.simple ++ "<" ++ names.bool.text ++ ">")
  id := .ofInstance names.typedProperty.ident [names.bool.ident]

/-- The names of types that a configuration chooses. -/
def types : List TypeName :=
  [names.object, names.string, names.bool, names.int, names.unsetValueType, names.binding,
    names.bindingPriority, names.assignBindingAttribute, names.propertyBase, names.typedProperty,
    names.styledProperty, names.attachedProperty, names.propertyObject, names.classes]

/-- The names that must lead nowhere before. -/
def registered : List TypeName :=
  [names.propertyBase, names.typedProperty, names.styledBase, names.styledProperty,
    names.attachedProperty, names.directBase, names.direct]

/-- The scalar types that are not used for a type of the framework. -/
def spare : List TypeDecl := builtinTypes.filter fun t => t.name ∉ names.types

/-- What an installation takes before the typed property of truth values, in its order. -/
def families : List Key :=
  [names.object.key, names.string.key, names.bool.key, names.int.key, names.unsetValueType.key,
    names.binding.key, names.bindingPriority.key, names.assignBindingAttribute.key,
    names.propertyBase.key, (names.typedProperty.parameter "T").key, names.typedProperty.key,
    (names.styledBase.parameter "T").key, names.styledBase.key,
    (names.styledProperty.parameter "T").key, names.styledProperty.key,
    (names.attachedProperty.parameter "T").key, names.attachedProperty.key,
    (names.directBase.parameter "T").key, names.directBase.key,
    (names.direct.parameter "TOwner").key, (names.direct.parameter "TValue").key, names.direct.key]

/-- What it takes after it, and the scalar types that it leaves alone. -/
def members : List Key :=
  names.propertyObject.key :: names.classes.key :: names.spare.map TypeDecl.key

/-- The names and identities of all types, parameters and instances, and of the scalar types that
are none of them. -/
def keys : List Key := names.families ++ names.classProperty :: names.members

/-- The base of all property descriptors, with the unset value. -/
def baseDefinition : TypeDecl :=
  ((TypeDecl.ofName names.propertyBase .abstractReference).derivedFrom names.object.ident).addField
    (Framework.declared names).unsetValue

/-- The definition of typed properties, as it is stored. -/
def typedDefinition : TypeDecl :=
  ((TypeDecl.ofName names.typedProperty .abstractReference).derivedFrom
    names.propertyBase.ident).generic ["T"]

variable {names}

lemma classProperty_ne_builtin (h : Apart names.keys) :
    ∀ t ∈ builtinTypes, t.id ≠ names.classProperty.id := by
  have hother := (List.pairwise_cons.mp (h.perm List.perm_middle)).1
  have hnamed : ∀ t ∈ builtinTypes, t.key = t.name.key := by decide +kernel
  intro t ht
  refine fun heq => (hother t.key ?_).2 heq.symm
  by_cases hname : t.name ∈ names.types
  · have htypes : ∀ n ∈ names.types, n.key ∈ names.families ++ names.members := by
      simp [types, families, members]
    exact hnamed t ht ▸ htypes t.name hname
  · have hspare : t ∈ names.spare := by simp [spare, ht, hname]
    simp [members, List.mem_map_of_mem hspare]

lemma key_classProperty {r : Registry} {t : TypeDecl} (hfind : r.find? names.bool.ident = some t)
    (hname : t.name = names.bool) :
    (r.newInstance names.typedDefinition names.typedProperty.ident [names.bool.ident]).key =
      names.classProperty := by
  have hbool : r.catalog.nameOf names.bool.ident = names.bool.text := by
    rw [Catalog.nameOf, catalog_find?, hfind, ← hname]
  rw [newInstance, List.map_singleton, hbool, classProperty, TypeDecl.key]
  rfl

end FrameworkNames

/-- What a framework looks for in a registry, under the names of its types. -/
structure Registry.Installed (r : Registry) (names : FrameworkNames) : Prop where
  types : ∀ n ∈ names.types, r.resolve? n = some n.ident
  object : ∃ t, r.find? names.object.ident = some t ∧ t.baseType = none
  propertyBase : ∃ t, r.find? names.propertyBase.ident = some t ∧
    t.baseType = some names.object.ident ∧ t.fields = [(Framework.declared names).unsetValue]
  propertyObject : ∃ t, r.find? names.propertyObject.ident = some t ∧
    t.methods = [(Framework.declared names).bind, (Framework.declared names).setValue,
      (Framework.declared names).setStyledValue]
  classes : ∃ t, r.find? names.classes.ident = some t ∧
    t.methods = [(Framework.declared names).hasClass]
  classProperty : ∃ t, r.find? names.classProperty.id = some t ∧
    t.definition = some names.typedProperty.ident ∧ t.args = [names.bool.ident] ∧
    t.baseType = some names.propertyBase.ident

namespace RegistryM

variable {names : FrameworkNames}

/-- **An installation comes through as a whole, unless a name that it registers is taken.** -/
lemma installs_installFramework (h : Apart names.keys) :
    Installs names.registered (installFramework names) builtins fun _ s => s.Installed names := by
  have h₀ := Progress.start h
  rw [installFramework]
  -- Types that may be there already.
  refine (installs_ensure rfl h₀).bind ?_
  rintro _ r₁ ⟨rfl, object, hobject, h₁⟩
  refine (installs_ensure rfl h₁).bind ?_
  rintro _ r₂ ⟨rfl, string, hstring, h₂⟩
  refine (installs_ensure rfl h₂).bind ?_
  rintro _ r₃ ⟨rfl, bool, hbool, h₃⟩
  refine (installs_ensure rfl h₃).bind ?_
  rintro _ r₄ ⟨rfl, int, hint, h₄⟩
  refine (installs_ensure rfl h₄).bind ?_
  rintro _ r₅ ⟨rfl, unset, hunset, h₅⟩
  refine (installs_ensure rfl h₅).bind ?_
  rintro _ r₆ ⟨rfl, binding, hbinding, h₆⟩
  refine (installs_ensure rfl h₆).bind ?_
  rintro _ r₇ ⟨rfl, priority, hpriority, h₇⟩
  refine (installs_ensure rfl h₇).bind ?_
  rintro _ r₈ ⟨rfl, keeping, hkeeping, h₈⟩
  -- The families of property descriptors, each name of which must be free.
  have hroot : r₈.contains names.object.ident = true :=
    h₈.contains_ident (t := .ofName names.object object) (by simp) rfl
  refine (installs_register (by simp [FrameworkNames.registered]) hroot h₈).bind ?_
  rintro _ r₉ ⟨rfl, h₉⟩
  refine (installs_addField _ rfl h₉).bind ?_
  rintro _ r₁₀ ⟨-, h₁₀⟩
  refine (installs_registerGeneric names.typedProperty rfl
    (by simp [FrameworkNames.registered]) h₁₀).bind ?_
  rintro _ r₁₁ ⟨rfl, h₁₁⟩
  refine (installs_registerDerived rfl (by simp [FrameworkNames.registered]) h₁₁).bind ?_
  rintro _ r₁₂ ⟨rfl, styledBase, -, -, h₁₂⟩
  refine (installs_registerDerived rfl (by simp [FrameworkNames.registered]) h₁₂).bind ?_
  rintro _ r₁₃ ⟨rfl, styled, hstyled, hstyled', h₁₃⟩
  refine (installs_registerDerived rfl (by simp [FrameworkNames.registered]) h₁₃).bind ?_
  rintro _ r₁₄ ⟨rfl, attached, hattached, hattached', h₁₄⟩
  refine (installs_registerDerived rfl (by simp [FrameworkNames.registered]) h₁₄).bind ?_
  rintro _ r₁₅ ⟨rfl, directBase, -, -, h₁₅⟩
  refine (installs_registerGeneric names.direct rfl
    (by simp [FrameworkNames.registered]) h₁₅).bind ?_
  rintro _ r₁₆ ⟨rfl, h₁₆⟩
  -- For the instance, the definition and its argument are what they were when they came.
  have htyped : r₁₆.find? names.typedProperty.ident = some names.typedDefinition :=
    h₁₆.find?_ident (by simp [FrameworkNames.typedDefinition]) rfl
  have hargument := h₁₆.find?_ident (t := .ofName names.bool bool) (by simp) rfl
  have hcheck : r₁₆.checkArguments names.typedProperty.ident [names.bool.ident] =
      .ok names.typedDefinition := checkArguments_generic htyped rfl
    (List.forall_mem_singleton.mpr (contains_of_find? hargument))
  have hkey := FrameworkNames.key_classProperty hargument rfl
  refine (installs_instantiate hcheck (by rintro _ _ ⟨⟩) hkey
    (FrameworkNames.classProperty_ne_builtin h) h₁₆).bind ?_
  rintro _ r₁₇ ⟨rfl, h₁₇⟩
  -- The types with methods.
  refine (installs_ensure rfl h₁₇).bind ?_
  rintro _ r₁₈ ⟨rfl, store, hstore, h₁₈⟩
  refine (installs_addMethod _ rfl h₁₈).bind ?_
  rintro _ r₁₉ ⟨hbind, h₁₉⟩
  refine (installs_addMethod _ hbind h₁₉).bind ?_
  rintro _ r₂₀ ⟨hset, h₂₀⟩
  refine (installs_addMethod _ hset h₂₀).bind ?_
  rintro _ r₂₁ ⟨hsetStyled, h₂₁⟩
  refine (installs_ensure rfl h₂₁).bind ?_
  rintro _ r₂₂ ⟨rfl, classes, hclasses, h₂₂⟩
  refine (installs_addMethod _ rfl h₂₂).imp ?_
  rintro _ s ⟨hhas, hs⟩
  have hbase : s.find? names.propertyBase.ident = some names.baseDefinition :=
    hs.find?_ident (by simp [FrameworkNames.baseDefinition, Framework.declared]) rfl
  have hobject_found := hs.find?_ident (t := .ofName names.object object) (by simp) rfl
  refine ⟨?_, ⟨_, hobject_found, rfl⟩, ⟨_, hbase, rfl, rfl⟩,
    ⟨_, hs.find?_ident (.tail _ (.head _)) hsetStyled, rfl⟩,
    ⟨_, hs.find?_ident (.head _) hhas, rfl⟩, ?_⟩
  · simp only [FrameworkNames.types, List.forall_mem_cons, List.not_mem_nil, false_implies,
      implies_true, and_true]
    exact ⟨hs.resolve?_ident (t := .ofName _ object) (by simp) rfl hobject,
      hs.resolve?_ident (t := .ofName _ string) (by simp) rfl hstring,
      hs.resolve?_ident (t := .ofName _ bool) (by simp) rfl hbool,
      hs.resolve?_ident (t := .ofName _ int) (by simp) rfl hint,
      hs.resolve?_ident (t := .ofName _ unset) (by simp) rfl hunset,
      hs.resolve?_ident (t := .ofName _ binding) (by simp) rfl hbinding,
      hs.resolve?_ident (t := .ofName _ priority) (by simp) rfl hpriority,
      hs.resolve?_ident (t := .ofName _ keeping) (by simp) rfl hkeeping,
      hs.resolve?_ident (t := names.baseDefinition)
        (by simp [FrameworkNames.baseDefinition, Framework.declared]) rfl rfl,
      hs.resolve?_ident (t := names.typedDefinition)
        (by simp [FrameworkNames.typedDefinition]) rfl rfl,
      hs.resolve?_ident (t := styled) (by simp) hstyled hstyled',
      hs.resolve?_ident (t := attached) (by simp) hattached hattached',
      hs.resolve?_ident (.tail _ (.head _)) hsetStyled hstore,
      hs.resolve?_ident (.head _) hhas hclasses⟩
  · exact ⟨_, hs.find? _ (.tail _ (.tail _ (.head _))), rfl, rfl, rfl⟩

end RegistryM

lemma TypeDecl.findMethod?_of_mem {t : TypeDecl} (hnodup : (t.methods.map (·.name)).Nodup)
    {m : MethodDecl} (hm : m ∈ t.methods) : t.findMethod? m.name = some m := by
  rw [findMethod?]
  generalize t.methods = methods at hnodup hm
  induction methods with
  | nil => cases hm
  | cons first rest ih =>
    rw [List.map_cons, List.nodup_cons] at hnodup
    rcases List.mem_cons.mp hm with rfl | hrest
    · simp
    · have hne : first.name ≠ m.name := fun heq =>
        hnodup.1 (heq ▸ List.mem_map_of_mem hrest)
      rw [List.find?_cons_of_neg (by simpa using hne)]
      exact ih hnodup.2 hrest

namespace Framework

variable {c : Catalog} {owner : Ident} {t : TypeDecl}

lemma findMethod_of_mem (hfind : c.find? owner = some t)
    (hnodup : (t.methods.map (·.name)).Nodup) {m : MethodDecl} (hm : m ∈ t.methods)
    (ownerName : TypeName) : findMethod c owner ownerName m.name = .ok m := by
  rw [findMethod, Catalog.findMethod?, Catalog.nearest, Catalog.maxDepth, Catalog.nearestWithin,
    hfind]
  dsimp only
  rw [TypeDecl.findMethod?_of_mem hnodup hm]
  rfl

lemma findStaticField_of_eq (hfind : c.find? owner = some t) {f : FieldDecl}
    (hfields : t.fields = [f]) (hstatic : f.isStatic = true) (ownerName : TypeName) :
    findStaticField c owner ownerName f.name = .ok f := by
  rw [findStaticField, Catalog.staticFields, Catalog.maxDepth, Catalog.staticFieldsWithin, hfind]
  simp [TypeDecl.staticFields, hfields, hstatic, require]

end Framework

namespace Registry.Installed

variable {r : Registry} {names : FrameworkNames}

/-- What was installed is found as it was declared. -/
lemma find (h : r.Installed names)
    (hmethods : [names.bindMethod, names.setValueMethod, names.setStyledValueMethod].Nodup) :
    Framework.find r.catalog names = .ok (.declared names) := by
  obtain ⟨base, hbase, -, hfields⟩ := h.propertyBase
  obtain ⟨store, hstore, hstored⟩ := h.propertyObject
  obtain ⟨classes, hclasses, hclassed⟩ := h.classes
  obtain ⟨selector, hselector, -⟩ := h.classProperty
  have hnodup : (store.methods.map (·.name)).Nodup := hstored ▸ hmethods
  have htype (n : TypeName) (hn : n ∈ names.types) :
      Framework.findType r.catalog n = .ok n.ident := by
    rw [Framework.findType, catalog_resolve?, h.types n hn]
    rfl
  have hunset : Framework.findStaticField r.catalog names.propertyBase.ident names.propertyBase
      names.unsetValueField = .ok (Framework.declared names).unsetValue :=
    Framework.findStaticField_of_eq hbase hfields rfl _
  have hmethod (name : String) (m : MethodDecl) (hm : m ∈ store.methods) (hname : m.name = name) :
      Framework.findMethod r.catalog names.propertyObject.ident names.propertyObject name =
        .ok m :=
    hname ▸ Framework.findMethod_of_mem hstore hnodup hm _
  have hbind := hmethod names.bindMethod (Framework.declared names).bind (by simp [hstored]) rfl
  have hset := hmethod names.setValueMethod (Framework.declared names).setValue
    (by simp [hstored]) rfl
  have hsetStyled := hmethod names.setStyledValueMethod (Framework.declared names).setStyledValue
    (by simp [hstored]) rfl
  have hhas : Framework.findMethod r.catalog names.classes.ident names.classes
      names.hasClassMethod = .ok (Framework.declared names).hasClass :=
    Framework.findMethod_of_mem (c := r.catalog) hclasses (by simp [hclassed])
      (hclassed ▸ List.mem_singleton_self _) _
  have hclass (name : String) :
      Framework.findInstance r.catalog names.typedProperty.ident [names.bool.ident] name =
        .ok names.classProperty.id := by
    have hfound : r.find? (.ofInstance names.typedProperty.ident [names.bool.ident]) =
      some selector := hselector
    rw [Framework.findInstance, catalog_find?, hfound]
    rfl
  simp only [FrameworkNames.types, List.forall_mem_cons] at htype
  simp only [Framework.find, htype, hunset, hclass, hbind, hset, hsetStyled, hhas, bind,
    Except.bind]
  rfl

lemma ancestry (h : r.Installed names) :
    r.catalog.ancestry names.classProperty.id =
      [names.classProperty.id, names.propertyBase.ident, names.object.ident] := by
  obtain ⟨root, hroot, hend⟩ := h.object
  obtain ⟨base, hbase, hobject, -⟩ := h.propertyBase
  obtain ⟨selector, hselector, -, -, hderives⟩ := h.classProperty
  have hfirst : r.catalog.baseOf? names.classProperty.id = some names.propertyBase.ident := by
    rw [Catalog.baseOf?, catalog_find?, hselector, Option.bind_some, hderives]
  have hsecond : r.catalog.baseOf? names.propertyBase.ident = some names.object.ident := by
    rw [Catalog.baseOf?, catalog_find?, hbase, Option.bind_some, hobject]
  have hthird : r.catalog.baseOf? names.object.ident = none := by
    rw [Catalog.baseOf?, catalog_find?, hroot, Option.bind_some, hend]
  rw [Catalog.ancestry, Catalog.maxDepth, Catalog.ancestryWithin, hfirst]
  dsimp only
  rw [Catalog.ancestryWithin, hsecond]
  dsimp only
  rw [Catalog.ancestryWithin, hthird]

end Registry.Installed

namespace RegistryM

variable {names : FrameworkNames}

lemma exists_outcome_installFramework (h : Apart names.keys)
    (hfree : ∀ n ∈ names.registered, builtins.resolve? n = none) :
    ∃ s, outcome (installFramework names) builtins = (.ok (), s) := by
  have hinstalls := installs_installFramework h
  rw [Installs] at hinstalls
  rcases hout : outcome (installFramework names) builtins with ⟨e | _, s⟩
  · rw [hout] at hinstalls
    obtain ⟨n, hn, htaken⟩ := hinstalls
    rw [hfree n hn] at htaken
    cases htaken
  · exact ⟨s, rfl⟩

/-- **An installation that comes through is found, member by member.** Whatever the names, as long
as they and their identities differ, the declared framework is found afterwards. The unset value is a public
static field of the base of property descriptors, the methods have the shapes that calls rely on,
and the type of class selectors is a typed property of truth values that derives from that base. -/
theorem find_installFramework (hapart : Apart names.keys)
    (hmethods : [names.bindMethod, names.setValueMethod, names.setStyledValueMethod].Nodup)
    {s : Registry} (h : outcome (installFramework names) builtins = (.ok (), s)) :
    let fw := Framework.declared names
    Framework.find s.catalog names = .ok fw ∧
      (∃ t, s.find? fw.propertyBase = some t ∧ fw.unsetValue ∈ t.fields) ∧
      fw.unsetValue.owner = fw.propertyBase ∧ fw.unsetValue.type = fw.unsetValueType ∧
      fw.unsetValue.isStatic = true ∧ fw.unsetValue.isPublic = true ∧
      fw.Shaped ∧ fw.hasClass.result = some fw.classProperty ∧
      (∃ t, s.find? fw.classProperty = some t ∧ t.definition = some fw.typedProperty ∧
        t.args = [fw.bool] ∧ t.baseType = some fw.propertyBase) ∧
      s.catalog.ancestry fw.classProperty = [fw.classProperty, fw.propertyBase, fw.object] := by
  intro fw
  have hinstalled : s.Installed names := by
    have hinstalls := installs_installFramework hapart
    rw [Installs, h] at hinstalls
    exact hinstalls
  obtain ⟨base, hbase, -, hfields⟩ := hinstalled.propertyBase
  refine ⟨hinstalled.find hmethods, ⟨base, hbase, ?_⟩, rfl, rfl, rfl, rfl,
    Framework.declared_shaped names, rfl, hinstalled.classProperty, hinstalled.ancestry⟩
  rw [hfields]
  exact List.mem_singleton_self _

/-- Typed properties in a namespace, and a scalar type that stands in for bindings. -/
def spacedNames : FrameworkNames :=
  { FrameworkNames.customary with
    typedProperty := ⟨"Property`1", ["UI", "Core"]⟩
    binding := .global "double" }

theorem find_installFramework_spaced :
    let fw := Framework.declared spacedNames
    ∃ s, outcome (installFramework spacedNames) builtins = (.ok (), s) ∧
      Framework.find s.catalog spacedNames = .ok fw ∧ fw.Shaped ∧
      s.catalog.ancestry fw.classProperty = [fw.classProperty, fw.propertyBase, fw.object] := by
  intro fw
  have hapart : Apart spacedNames.keys := by
    rw [Apart]
    decide +kernel
  have hnames : ∀ n ∈ spacedNames.registered, ∀ t ∈ builtinTypes, t.name ≠ n := by decide
  have hfree := fun n hn => resolve?_builtins (hnames n hn)
  obtain ⟨s, hout⟩ := exists_outcome_installFramework hapart hfree
  obtain ⟨hfind, -, -, -, -, -, hshaped, -, -, hwalk⟩ :=
    find_installFramework hapart (by decide) hout
  exact ⟨s, hout, hfind, hshaped, hwalk⟩

end RegistryM

end PropertyLowering
