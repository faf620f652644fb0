import PropertyLowering.Catalog
import PropertyLowering.Error

/-!
What a reference turns out to mean: a property published by a descriptor field, a property with
accessors only, or a class.
-/

namespace PropertyLowering

/-- A property with a public static descriptor field. -/
structure FieldProperty where
  /-- The name, without the suffix of the field. -/
  name : String
  /-- The type that declares the field. -/
  owner : Ident
  field : FieldDecl
  /-- The type of the values, read off the type of the field. -/
  valueType : Ident
  isStyled : Bool
  isAttached : Bool
  /-- Bindings have setters of their own. -/
  allowsBinding : Bool
  deriving DecidableEq, Repr

namespace FieldProperty

def storage (p : FieldProperty) : Ident := p.field.type

/-- Values of styled and attached properties have priorities. -/
def takesPriority (p : FieldProperty) : Bool := p.isStyled || p.isAttached

end FieldProperty

/-- A property that has accessors and no descriptor. -/
structure AccessorProperty where
  name : String
  owner : Ident
  getter : Option MethodDecl
  setters : List MethodDecl
  valueType : Ident
  deriving DecidableEq, Repr

/-- The accessors must reveal the type of the values. -/
def AccessorProperty.ofDecl (c : Catalog) (p : PropertyDecl) (span : Span) :
    Except CompileError AccessorProperty :=
  match p.valueType? with
  | some valueType => .ok ⟨p.name, p.owner, p.getter, p.setters, valueType⟩
  | none => .error (.missingAccessor (c.nameOf p.owner) p.name span)

inductive Descriptor where
  | field (property : FieldProperty)
  | accessors (property : AccessorProperty)
  /-- Membership in a class. -/
  | selector (className : String)
  deriving DecidableEq, Repr

namespace Descriptor

def name : Descriptor → String
  | field p => p.name
  | accessors p => p.name
  | selector className => className

/-- The declaring type; classes have none. -/
def owner? : Descriptor → Option Ident
  | field p => some p.owner
  | accessors p => some p.owner
  | selector _ => none

end Descriptor

end PropertyLowering
