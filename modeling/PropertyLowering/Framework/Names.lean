import PropertyLowering.TypeName

/-!
The names under which a framework registers its property system.
-/

namespace PropertyLowering

structure FrameworkNames where
  /-- The base of all property descriptors, not generic. -/
  propertyBase : TypeName
  /-- The static field of `propertyBase` with the value that unsets a property. -/
  unsetValueField : String
  /-- The family of typed properties. -/
  typedProperty : TypeName
  styledProperty : TypeName
  attachedProperty : TypeName
  binding : TypeName
  bindingPriority : TypeName
  unsetValueType : TypeName
  /-- The type with the methods that bind and set. -/
  propertyObject : TypeName
  bindMethod : String
  setValueMethod : String
  setStyledValueMethod : String
  /-- The type that looks classes up. -/
  classes : TypeName
  hasClassMethod : String
  /-- The attribute that keeps bindings away from a property's setters. -/
  assignBindingAttribute : TypeName
  object : TypeName
  string : TypeName
  bool : TypeName
  int : TypeName
  /-- What the name of a descriptor field adds to that of its property. -/
  fieldSuffix : String
  /-- The owner that markup writes for a class. -/
  selectorOwner : String
  deriving DecidableEq, Repr

namespace FrameworkNames

/-- The customary names, all in the global namespace. -/
def customary : FrameworkNames where
  propertyBase := .global "PropertyBase"
  unsetValueField := "UnsetValue"
  typedProperty := .global "Property`1"
  styledProperty := .global "StyledProperty`1"
  attachedProperty := .global "AttachedProperty`1"
  binding := .global "IBinding"
  bindingPriority := .global "BindingPriority"
  unsetValueType := .global "UnsetValueType"
  propertyObject := .global "PropertyObject"
  bindMethod := "Bind"
  setValueMethod := "SetValue"
  setStyledValueMethod := "SetStyledValue"
  classes := .global "Classes"
  hasClassMethod := "HasClass"
  assignBindingAttribute := .global "AssignBindingAttribute"
  object := .global "object"
  string := .global "string"
  bool := .global "bool"
  int := .global "int"
  fieldSuffix := "Property"
  selectorOwner := "Classes"

end FrameworkNames

end PropertyLowering
