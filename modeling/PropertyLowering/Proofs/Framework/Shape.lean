import PropertyLowering.Resolution

/-!
The shapes of a framework's methods, and the framework that installation declares.
-/

namespace PropertyLowering

/-- A method by where it is called, what it takes, and that it returns something. -/
structure MethodDecl.HasShape (m : MethodDecl) (isStatic : Bool) (params typeParams : Nat) :
    Prop where
  isStatic : m.isStatic = isStatic
  params : m.params.length = params
  typeParams : m.typeParams = typeParams
  returns : m.returnsValue = true

namespace Framework

/-- The methods of the property store have the shapes that installation gives them. -/
structure StoreShaped (fw : Framework) : Prop where
  bind : fw.bind.HasShape false 3 0
  setValue : fw.setValue.HasShape false 3 0
  setStyledValue : fw.setStyledValue.HasShape false 3 1

/-- So has the method that looks classes up. -/
structure Shaped (fw : Framework) : Prop extends StoreShaped fw where
  hasClass : fw.hasClass.HasShape true 1 0

/-- The framework under the given names, with the members that installation declares. -/
def declared (names : FrameworkNames) : Framework where
  propertyBase := names.propertyBase.ident
  typedProperty := names.typedProperty.ident
  styledProperty := names.styledProperty.ident
  attachedProperty := names.attachedProperty.ident
  binding := names.binding.ident
  bindingPriority := names.bindingPriority.ident
  unsetValueType := names.unsetValueType.ident
  propertyObject := names.propertyObject.ident
  classes := names.classes.ident
  assignBindingAttribute := names.assignBindingAttribute.ident
  object := names.object.ident
  string := names.string.ident
  bool := names.bool.ident
  int := names.int.ident
  classProperty := .ofInstance names.typedProperty.ident [names.bool.ident]
  unsetValue :=
    .descriptor names.unsetValueField names.propertyBase.ident names.unsetValueType.ident
  bind :=
    .onInstance names.bindMethod names.propertyObject.ident
      [names.propertyBase.ident, names.binding.ident, names.object.ident] (some names.object.ident)
  setValue :=
    .onInstance names.setValueMethod names.propertyObject.ident
      [names.propertyBase.ident, names.object.ident, names.bindingPriority.ident]
      (some names.object.ident)
  setStyledValue :=
    (MethodDecl.onInstance names.setStyledValueMethod names.propertyObject.ident
      [names.propertyBase.ident, names.object.ident, names.bindingPriority.ident]
      (some names.object.ident)).generic 1
  hasClass :=
    .onType names.hasClassMethod names.classes.ident [names.string.ident]
      (some (.ofInstance names.typedProperty.ident [names.bool.ident]))
  fieldSuffix := names.fieldSuffix
  selectorOwner := names.selectorOwner

theorem declared_shaped (names : FrameworkNames) : (declared names).Shaped where
  bind := ⟨rfl, rfl, rfl, rfl⟩
  setValue := ⟨rfl, rfl, rfl, rfl⟩
  setStyledValue := ⟨rfl, rfl, rfl, rfl⟩
  hasClass := ⟨rfl, rfl, rfl, rfl⟩

end Framework

/-- The declared framework among the given types. -/
def Context.declared (names : FrameworkNames) (types : List TypeDecl) : Context where
  catalog :=
    { resolve? := fun name => (types.find? (·.name == name)).map (·.id)
      find? := fun id => types.find? (·.id == id) }
  framework := .declared names

/-- A styled property of the property object, under the name of the type of its values. -/
def FieldProperty.declared (names : FrameworkNames) (type : TypeName) : FieldProperty where
  name := type.simple
  owner := names.propertyObject.ident
  field :=
    .descriptor (type.simple ++ names.fieldSuffix) names.propertyObject.ident
      (.ofInstance names.styledProperty.ident [type.ident])
  valueType := type.ident
  isStyled := true
  isAttached := false
  allowsBinding := true

end PropertyLowering
