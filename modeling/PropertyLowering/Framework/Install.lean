import PropertyLowering.Framework.Names
import PropertyLowering.Registry.Registration

/-!
Installation of a framework's property system into a registry.

    PropertyBase                          with the unset value as a static field
      Property<T>
        StyledPropertyBase<T>
          StyledProperty<T>
            AttachedProperty<T>
        DirectPropertyBase<T>
          DirectProperty<TOwner, TValue>

Types that are there already, such as the builtin scalars, are used as they are.
-/

namespace PropertyLowering

namespace RegistryM

/-- The type of a name, registered with the given flags if need be. -/
def ensure (name : TypeName) (flags : TypeFlags) : RegistryM Ident := do
  match (← get).resolve? name with
  | some type => return type
  | none => register (.ofName name flags)

/-- Registers a generic definition of one parameter that derives from another over it. -/
def registerDerived (name : TypeName) (base : Ident) (flags : TypeFlags) : RegistryM Ident :=
  registerGeneric
    ((TypeDecl.ofName name flags).derivedFromGeneric base [(name.parameter "T").ident]) ["T"]

/-- Installs the property system. What was installed before a failure stays. -/
def installFramework (names : FrameworkNames) : RegistryM Unit := do
  let object ← ensure names.object .reference
  let string ← ensure names.string .reference
  let bool ← ensure names.bool .none
  let _ ← ensure names.int .none
  let unsetValueType ← ensure names.unsetValueType .reference
  let binding ← ensure names.binding .abstractReference
  let priority ← ensure names.bindingPriority .enum
  let _ ← ensure names.assignBindingAttribute .reference
  let propertyBase ← register
    ((TypeDecl.ofName names.propertyBase .abstractReference).derivedFrom object)
  addField propertyBase (.descriptor names.unsetValueField propertyBase unsetValueType)
  let typed ← registerGeneric
    ((TypeDecl.ofName names.typedProperty .abstractReference).derivedFrom propertyBase) ["T"]
  let styledBase ← registerDerived (names.styledProperty.sibling "StyledPropertyBase`1") typed
    .abstractReference
  let styled ← registerDerived names.styledProperty styledBase .reference
  let _ ← registerDerived names.attachedProperty styled .reference
  let directBase ← registerDerived (names.typedProperty.sibling "DirectPropertyBase`1") typed
    .abstractReference
  let direct := names.typedProperty.sibling "DirectProperty`2"
  let _ ← registerGeneric
    ((TypeDecl.ofName direct .reference).derivedFromGeneric directBase
      [(direct.parameter "TValue").ident]) ["TOwner", "TValue"]
  let classProperty ← instantiate typed [bool]
  let propertyObject ← ensure names.propertyObject .reference
  addMethod propertyObject
    (.onInstance names.bindMethod propertyObject [propertyBase, binding, object] (some object))
  addMethod propertyObject
    (.onInstance names.setValueMethod propertyObject [propertyBase, object, priority] (some object))
  addMethod propertyObject
    ((MethodDecl.onInstance names.setStyledValueMethod propertyObject
      [propertyBase, object, priority] (some object)).generic 1)
  let classes ← ensure names.classes .abstractReference
  addMethod classes (.onType names.hasClassMethod classes [string] (some classProperty))

end RegistryM

end PropertyLowering
