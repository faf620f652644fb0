import PropertyLowering.Ident

/-!
Declarations of members: attributes, fields, methods and properties.

A member stores its identity, which the constructors read off its owner, its name and, for a
method, its parameter types.
-/

namespace PropertyLowering

/-- An attribute on a declaration, with its arguments as text. -/
structure Attribute where
  type : Ident
  arguments : List String
  deriving DecidableEq, Repr

structure FieldFlags where
  isStatic : Bool
  isPublic : Bool
  isReadOnly : Bool
  deriving DecidableEq, Repr

def FieldFlags.none : FieldFlags := ⟨false, false, false⟩

/-- The flags of a property descriptor. -/
def FieldFlags.descriptor : FieldFlags := ⟨true, true, true⟩

structure FieldDecl where
  name : String
  owner : Ident
  id : Ident
  type : Ident
  flags : FieldFlags
  attributes : List Attribute
  deriving DecidableEq, Repr

namespace FieldDecl

/-- A field without attributes. -/
def ofName (name : String) (owner type : Ident) (flags : FieldFlags) : FieldDecl :=
  ⟨name, owner, .ofField owner name, type, flags, []⟩

def isStatic (f : FieldDecl) : Bool := f.flags.isStatic

def isPublic (f : FieldDecl) : Bool := f.flags.isPublic

/-- A field of the shape that publishes a property descriptor. -/
def descriptor (name : String) (owner type : Ident) : FieldDecl :=
  ofName name owner type .descriptor

end FieldDecl

/-- A method. Its parameters do not count the instance, and a method without result is void. -/
structure MethodDecl where
  name : String
  owner : Ident
  id : Ident
  params : List Ident
  result : Option Ident
  isStatic : Bool
  typeParams : Nat
  deriving DecidableEq, Repr

namespace MethodDecl

def isGeneric (m : MethodDecl) : Bool := m.typeParams != 0

/-- A call leaves a value on the stack. -/
def returnsValue (m : MethodDecl) : Bool := m.result.isSome

def onInstance (name : String) (owner : Ident) (params : List Ident) (result : Option Ident) :
    MethodDecl :=
  ⟨name, owner, .ofMethod owner name params, params, result, false, 0⟩

def onType (name : String) (owner : Ident) (params : List Ident) (result : Option Ident) :
    MethodDecl :=
  { onInstance name owner params result with isStatic := true }

def generic (m : MethodDecl) (count : Nat) : MethodDecl :=
  { m with typeParams := count }

end MethodDecl

/-- An instance property and its accessors. -/
structure PropertyDecl where
  name : String
  owner : Ident
  id : Ident
  getter : Option MethodDecl
  setters : List MethodDecl
  attributes : List Attribute
  deriving DecidableEq, Repr

namespace PropertyDecl

def bare (name : String) (owner : Ident) : PropertyDecl :=
  ⟨name, owner, .ofProperty owner name, none, [], []⟩

/-- A property of a type with a getter and a setter under the customary names. -/
def readWrite (name : String) (owner type : Ident) : PropertyDecl :=
  { bare name owner with
    getter := some (.onInstance ("get_" ++ name) owner [] (some type))
    setters := [.onInstance ("set_" ++ name) owner [type] none] }

def hasAttribute (p : PropertyDecl) (type : Ident) : Bool :=
  p.attributes.any (·.type == type)

/-- What the accessors say about the type of the values: the getter's result, else the first
parameter of the first setter. -/
def valueType? (p : PropertyDecl) : Option Ident :=
  (p.getter.bind (·.result)).or (p.setters.head?.bind (·.params.head?))

end PropertyDecl

end PropertyLowering
