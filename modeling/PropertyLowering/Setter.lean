import PropertyLowering.Resolution

/-!
Setters of a property with a descriptor field.

A setter is one way to assign: a convention of the property store with the types of its
parameters. A property has an ordered list of them, and the first that accepts the arguments is
taken.
-/

namespace PropertyLowering

inductive Convention where
  /-- The value. -/
  | plain
  /-- The priority, then the value. -/
  | plainWithPriority
  /-- The binding. -/
  | binding
  /-- The priority, which is dropped, then the binding. -/
  | bindingWithPriority
  /-- The unset value. -/
  | unset
  deriving DecidableEq, Repr

namespace Convention

def name : Convention → String
  | plain => "plain"
  | plainWithPriority => "plain-with-priority"
  | binding => "binding"
  | bindingWithPriority => "binding-with-priority"
  | unset => "unset"

/-- The first parameter is a priority. -/
def hasPriority : Convention → Bool
  | plainWithPriority | bindingWithPriority => true
  | plain | binding | unset => false

/-- A value of the property is among the parameters. -/
def takesValue : Convention → Bool
  | plain | plainWithPriority => true
  | binding | bindingWithPriority | unset => false

def params (fw : Framework) (valueType : Ident) : Convention → List Ident
  | plain => [valueType]
  | plainWithPriority => [fw.bindingPriority, valueType]
  | binding => [fw.binding]
  | bindingWithPriority => [fw.bindingPriority, fw.binding]
  | unset => [fw.unsetValueType]

end Convention

/-- The static type of an argument. -/
inductive Argument where
  | null
  | typed (type : Ident)
  deriving DecidableEq, Repr

structure Setter where
  convention : Convention
  /-- The position in the list of setters. -/
  rank : Nat
  params : List Ident
  /-- The type that declares the property. -/
  target : Ident
  /-- The document may pass null. -/
  acceptsNull : Bool
  /-- Null may reach the call. -/
  acceptsRuntimeNull : Bool
  property : FieldProperty
  deriving DecidableEq, Repr

namespace Setter

def arity (s : Setter) : Nat := s.params.length

/-- Setters count as the same if they follow one convention for one descriptor field. -/
def same (s t : Setter) : Bool :=
  s.convention == t.convention && s.property.field.id == t.property.field.id

def acceptsArgument (s : Setter) (c : Catalog) (param : Ident) : Argument → Bool
  | .null => s.acceptsNull
  | .typed type => c.isAssignable type param

/-- The arguments are as many as the parameters, and each is accepted. -/
def accepts (s : Setter) (c : Catalog) (args : List Argument) : Bool :=
  s.arity == args.length && (s.params.zip args).all fun p => s.acceptsArgument c p.1 p.2

end Setter

namespace FieldProperty

/-- The conventions of a property, the one to try first in front. Unsetting is there always, and the
others are put around it. -/
def conventions (p : FieldProperty) : List Convention :=
  let always := [.unset]
  let prioritized := if p.takesPriority then always.insertIdx 0 .plainWithPriority else always
  let bound :=
    if p.allowsBinding then
      let binding := prioritized.insertIdx 0 .binding
      if p.takesPriority then binding.insertIdx 1 .bindingWithPriority else binding
    else
      prioritized
  if p.takesPriority then bound else bound ++ [.plain]

/-- Null passes for a value where the type of the values accepts it, and for nothing else. -/
def setter (p : FieldProperty) (ctx : Context) (convention : Convention) (rank : Nat) : Setter :=
  let nullable := convention.takesValue && ctx.catalog.acceptsNull p.valueType
  { convention
    rank
    params := convention.params ctx.framework p.valueType
    target := p.owner
    acceptsNull := nullable
    acceptsRuntimeNull := nullable
    property := p }

def setters (p : FieldProperty) (ctx : Context) : List Setter :=
  p.conventions.mapIdx fun rank convention => p.setter ctx convention rank

end FieldProperty

/-- The first of the setters that accepts the arguments. -/
def selectSetter (c : Catalog) (setters : List Setter) (args : List Argument) : Option Setter :=
  setters.find? (·.accepts c args)

end PropertyLowering
