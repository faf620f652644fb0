import PropertyLowering.Descriptor
import PropertyLowering.Framework.Basic
import PropertyLowering.Reference.Basic

/-!
Resolution of references against a catalog.

A reference means a class if its owner is the one reserved for classes. Otherwise a descriptor
field on the owner or its bases decides, whether its type is a typed property or not, and only
where there is no such field a property with accessors.
-/

namespace PropertyLowering

/-- What resolution and emission read. -/
structure Context where
  catalog : Catalog
  framework : Framework

namespace Catalog

/-- The type of the values stored in `storage`: the first argument of the nearest instance of the
family among the type and its bases. -/
def valueType (c : Catalog) (storage family : Ident) (field : String) (span : Span) :
    Except CompileError Ident :=
  match ((c.ancestry storage).find? (c.definitionOf? · == some family)).bind
      (c.argsOf · |>.head?) with
  | some type => .ok type
  | none => .error (.notATypedProperty field (c.nameOf storage) (c.nameOf family) span)

end Catalog

/-- The texts differ at most in the case of ASCII letters. -/
def equalIgnoringCase (a b : String) : Bool :=
  a.toList.map Char.toLower == b.toList.map Char.toLower

namespace Context

variable (ctx : Context)

/-- The public static field that publishes a property on a type or its bases. -/
def descriptorField? (owner : Ident) (name : String) : Option FieldDecl :=
  (ctx.catalog.staticFields owner).find? fun f =>
    f.isPublic && f.name == name ++ ctx.framework.fieldSuffix

/-- The property carries the attribute that keeps bindings away. -/
def keepsBindingsAway (owner : Ident) (name : String) : Bool :=
  (ctx.catalog.findProperty? owner name).any
    (·.hasAttribute ctx.framework.assignBindingAttribute)

def fieldProperty (owner : Ident) (name : String) (field : FieldDecl) (span : Span) :
    Except CompileError FieldProperty := do
  let valueType ← ctx.catalog.valueType field.type ctx.framework.typedProperty field.name span
  let family := ctx.catalog.definitionOf? field.type
  return {
    name, field, valueType
    owner := field.owner
    isStyled := family == some ctx.framework.styledProperty
    isAttached := family == some ctx.framework.attachedProperty
    allowsBinding := !ctx.keepsBindingsAway owner name }

/-- The reference means a class. -/
def isSelector (r : Reference) : Bool :=
  r.space.isNone && !r.name.isEmpty &&
    r.owner.any (equalIgnoringCase · ctx.framework.selectorOwner)

/-- The type on which the name is looked up, which is `hint` when the reference names none. -/
def ownerOf (hint : Ident) (r : Reference) (span : Span) : Except CompileError Ident :=
  match r.owner with
  | none => .ok hint
  | some owner =>
    let name := TypeName.ofMarkup r.space owner
    match ctx.catalog.resolve? name with
    | some type => .ok type
    | none => .error (.unknownType name.text span)

/-- What a name means on a type. -/
def lookUp (owner : Ident) (name : String) (span : Span) : Except CompileError Descriptor :=
  match ctx.descriptorField? owner name with
  | some field => .field <$> ctx.fieldProperty owner name field span
  | none =>
    match ctx.catalog.findProperty? owner name with
    | some p => .accessors <$> AccessorProperty.ofDecl ctx.catalog p span
    | none => .error (.unresolvedProperty (ctx.catalog.nameOf owner) name span)

def resolve (hint : Ident) (r : Reference) (span : Span) : Except CompileError Descriptor :=
  if ctx.isSelector r then
    .ok (.selector r.name)
  else do
    ctx.lookUp (← ctx.ownerOf hint r span) r.name span

end Context

end PropertyLowering
