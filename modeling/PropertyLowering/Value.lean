import PropertyLowering.Code.Pool
import PropertyLowering.Setter

/-!
Values that can stand as arguments of an assignment.
-/

namespace PropertyLowering

/-- A resolved reference. As a value it stands for the descriptor of its property. -/
structure PropertyNode where
  descriptor : Descriptor
  /-- The type of the descriptor. -/
  staticType : Ident
  /-- The type of the values in the property. -/
  valueType : Ident
  /-- What a class selector takes besides. -/
  params : List Ident
  setters : List Setter
  span : Span
  deriving DecidableEq, Repr

def PropertyNode.ofDescriptor (ctx : Context) (d : Descriptor) (span : Span) : PropertyNode :=
  match d with
  | .field p => ⟨d, p.storage, p.valueType, [], p.setters ctx, span⟩
  | .accessors p => ⟨d, ctx.framework.propertyBase, p.valueType, [], [], span⟩
  | .selector _ =>
    ⟨d, ctx.framework.classProperty, ctx.framework.bool, [ctx.framework.string], [], span⟩

inductive Value where
  /-- A value in a local slot. -/
  | stored (slot : Nat) (type : Ident) (span : Span)
  | null (span : Span)
  | property (node : PropertyNode)
  /-- A constant; without a type it counts as null. -/
  | literal (constant : Constant) (type : Option Ident)
  deriving DecidableEq, Repr

namespace Value

/-- The static type, which null does not have. -/
def type? : Value → Option Ident
  | stored _ type _ => some type
  | null _ => none
  | property node => some node.staticType
  | literal _ type => type

def span : Value → Span
  | stored _ _ span => span
  | null span => span
  | property node => node.span
  | literal _ _ => .unknown

/-- The value as selection of a setter sees it. -/
def argument (v : Value) : Argument :=
  match v.type? with
  | none => .null
  | some type => .typed type

/-- The value can be passed where the type is expected. -/
def fits (c : Catalog) (v : Value) (expected : Ident) : Bool :=
  match v.type? with
  | none => c.acceptsNull expected
  | some type => c.isAssignable type expected

end Value

end PropertyLowering
