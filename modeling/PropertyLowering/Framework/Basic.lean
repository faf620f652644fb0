import PropertyLowering.Catalog
import PropertyLowering.Error
import PropertyLowering.Framework.Names

/-!
The property system of a framework, looked up in a catalog once and for all.
-/

namespace PropertyLowering

structure Framework where
  propertyBase : Ident
  typedProperty : Ident
  styledProperty : Ident
  attachedProperty : Ident
  binding : Ident
  bindingPriority : Ident
  unsetValueType : Ident
  propertyObject : Ident
  classes : Ident
  assignBindingAttribute : Ident
  object : Ident
  string : Ident
  bool : Ident
  int : Ident
  /-- The typed property of truth values, which class selectors have as their type. -/
  classProperty : Ident
  unsetValue : FieldDecl
  bind : MethodDecl
  setValue : MethodDecl
  setStyledValue : MethodDecl
  hasClass : MethodDecl
  fieldSuffix : String
  selectorOwner : String
  deriving DecidableEq, Repr

namespace Framework

/-- What a catalog finds, or the complaint that it finds nothing of the name. -/
def require (name : String) (found : Option α) : Except CompileError α :=
  match found with
  | some a => .ok a
  | none => .error (.unknownType name .unknown)

def findType (c : Catalog) (name : TypeName) : Except CompileError Ident :=
  require name.text (c.resolve? name)

def findMethod (c : Catalog) (owner : Ident) (ownerName : TypeName) (name : String) :
    Except CompileError MethodDecl :=
  require (ownerName.text ++ "::" ++ name) (c.findMethod? owner name)

def findStaticField (c : Catalog) (owner : Ident) (ownerName : TypeName) (name : String) :
    Except CompileError FieldDecl :=
  require (ownerName.text ++ "::" ++ name) ((c.staticFields owner).find? (·.name == name))

/-- The instance of a definition, which must exist already. -/
def findInstance (c : Catalog) (definition : Ident) (args : List Ident) (name : String) :
    Except CompileError Ident :=
  let type := Ident.ofInstance definition args
  require name ((c.find? type).map fun _ => type)

/-- Looks everything up; the first name that is missing is reported. -/
def find (c : Catalog) (names : FrameworkNames) : Except CompileError Framework := do
  let propertyBase ← findType c names.propertyBase
  let typedProperty ← findType c names.typedProperty
  let propertyObject ← findType c names.propertyObject
  let classes ← findType c names.classes
  let bool ← findType c names.bool
  let unsetValue ← findStaticField c propertyBase names.propertyBase names.unsetValueField
  let classProperty ← findInstance c typedProperty [bool]
    (TypeName.stem names.typedProperty.simple ++ "<" ++ names.bool.text ++ ">")
  return {
    propertyBase, typedProperty, propertyObject, classes, bool, unsetValue, classProperty
    styledProperty := ← findType c names.styledProperty
    attachedProperty := ← findType c names.attachedProperty
    binding := ← findType c names.binding
    bindingPriority := ← findType c names.bindingPriority
    unsetValueType := ← findType c names.unsetValueType
    assignBindingAttribute := ← findType c names.assignBindingAttribute
    object := ← findType c names.object
    string := ← findType c names.string
    int := ← findType c names.int
    bind := ← findMethod c propertyObject names.propertyObject names.bindMethod
    setValue := ← findMethod c propertyObject names.propertyObject names.setValueMethod
    setStyledValue := ← findMethod c propertyObject names.propertyObject names.setStyledValueMethod
    hasClass := ← findMethod c classes names.classes names.hasClassMethod
    fieldSuffix := names.fieldSuffix
    selectorOwner := names.selectorOwner }

end Framework

end PropertyLowering
