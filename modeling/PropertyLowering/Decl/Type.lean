import PropertyLowering.Decl.Member
import PropertyLowering.TypeName

/-!
Declarations of types: plain types, generic definitions, their parameters and their instances.
-/

namespace PropertyLowering

structure TypeFlags where
  /-- Variables of the type accept null. -/
  isReference : Bool
  isEnum : Bool
  isDefinition : Bool
  isParameter : Bool
  isAbstract : Bool
  deriving DecidableEq, Repr

def TypeFlags.none : TypeFlags := ⟨false, false, false, false, false⟩

def TypeFlags.reference : TypeFlags := { TypeFlags.none with isReference := true }

def TypeFlags.abstractReference : TypeFlags := { TypeFlags.reference with isAbstract := true }

def TypeFlags.enum : TypeFlags := { TypeFlags.none with isEnum := true }

def TypeFlags.parameter : TypeFlags := { TypeFlags.none with isParameter := true }

/-- The base as a declaration writes it. The arguments of a generic base may be the parameters of
the definition that declares it. -/
inductive BaseRef where
  | closed (type : Ident)
  | generic (definition : Ident) (args : List Ident)
  deriving DecidableEq, Repr

/-- A type. `simple` is its name without namespaces; `baseType` is the base once resolved, which a
generic definition never has; `definition` and `args` say what an instance was made from. -/
structure TypeDecl where
  simple : String
  name : TypeName
  id : Ident
  flags : TypeFlags
  base : Option BaseRef
  baseType : Option Ident
  params : List Ident
  definition : Option Ident
  args : List Ident
  fields : List FieldDecl
  properties : List PropertyDecl
  methods : List MethodDecl
  deriving DecidableEq, Repr

namespace TypeDecl

/-- A type without base and members. -/
def ofName (name : TypeName) (flags : TypeFlags) : TypeDecl where
  simple := name.simple
  name := name
  id := name.ident
  flags := flags
  base := none
  baseType := none
  params := []
  definition := none
  args := []
  fields := []
  properties := []
  methods := []

/-- A reference type in the global namespace. -/
def reference (simple : String) : TypeDecl := ofName (.global simple) .reference

/-- A value type in the global namespace. -/
def value (simple : String) : TypeDecl := ofName (.global simple) .none

def derivedFrom (t : TypeDecl) (base : Ident) : TypeDecl :=
  { t with base := some (.closed base), baseType := some base }

def derivedFromGeneric (t : TypeDecl) (definition : Ident) (args : List Ident) : TypeDecl :=
  { t with base := some (.generic definition args), baseType := none }

def isInstance (t : TypeDecl) : Bool := t.definition.isSome

def acceptsNull (t : TypeDecl) : Bool := t.flags.isReference

def staticFields (t : TypeDecl) : List FieldDecl := t.fields.filter (·.isStatic)

def findField? (t : TypeDecl) (name : String) : Option FieldDecl :=
  t.fields.find? (·.name == name)

def findProperty? (t : TypeDecl) (name : String) : Option PropertyDecl :=
  t.properties.find? (·.name == name)

/-- The first overload of the name. -/
def findMethod? (t : TypeDecl) (name : String) : Option MethodDecl :=
  t.methods.find? (·.name == name)

def addField (t : TypeDecl) (f : FieldDecl) : TypeDecl := { t with fields := t.fields ++ [f] }

def addProperty (t : TypeDecl) (p : PropertyDecl) : TypeDecl :=
  { t with properties := t.properties ++ [p] }

def addMethod (t : TypeDecl) (m : MethodDecl) : TypeDecl := { t with methods := t.methods ++ [m] }

end TypeDecl

end PropertyLowering
