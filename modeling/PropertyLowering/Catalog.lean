import PropertyLowering.Decl.Type

/-!
A catalog of types, as the compiler sees it: names lead to types and types to declarations.

Everything else is found by walking from a type along its bases. A catalog may be malformed: a
base may be missing, and bases may form a cycle. So every walk stops after `maxDepth` types.
-/

namespace PropertyLowering

structure Catalog where
  /-- The type of a name. -/
  resolve? : TypeName → Option Ident
  /-- The declaration of a type. -/
  find? : Ident → Option TypeDecl

namespace Catalog

def maxDepth : Nat := 256

variable (c : Catalog)

/-- The qualified name of a type, or the text of its identity when it is unknown. -/
def nameOf (type : Ident) : String :=
  match c.find? type with
  | some t => t.name.text
  | none => type.text

def baseOf? (type : Ident) : Option Ident :=
  (c.find? type).bind (·.baseType)

def definitionOf? (type : Ident) : Option Ident :=
  (c.find? type).bind (·.definition)

def argsOf (type : Ident) : List Ident :=
  match c.find? type with
  | some t => t.args
  | none => []

def acceptsNull (type : Ident) : Bool :=
  (c.find? type).any (·.acceptsNull)

/-- A type and its bases, at most `n` of them, known or not. -/
def ancestryWithin : Nat → Ident → List Ident
  | 0, _ => []
  | n + 1, type =>
    type :: match c.baseOf? type with
      | some base => ancestryWithin n base
      | none => []

/-- A type and its bases, the most derived first. -/
def ancestry (type : Ident) : List Ident :=
  c.ancestryWithin maxDepth type

/-- The first answer that `f` gives on a type or its bases, for the first `n` of them. -/
def nearestWithin (f : TypeDecl → Option α) : Nat → Ident → Option α
  | 0, _ => none
  | n + 1, type =>
    match c.find? type with
    | none => none
    | some t =>
      match f t with
      | some a => some a
      | none =>
        match t.baseType with
        | some base => nearestWithin f n base
        | none => none

def nearest (f : TypeDecl → Option α) (type : Ident) : Option α :=
  c.nearestWithin f maxDepth type

/-- The property of a name that a type declares or inherits. -/
def findProperty? (type : Ident) (name : String) : Option PropertyDecl :=
  c.nearest (·.findProperty? name) type

/-- The method of a name that a type declares or inherits. -/
def findMethod? (type : Ident) (name : String) : Option MethodDecl :=
  c.nearest (·.findMethod? name) type

def staticFieldsWithin : Nat → Ident → List FieldDecl
  | 0, _ => []
  | n + 1, type =>
    match c.find? type with
    | none => []
    | some t =>
      t.staticFields ++ match t.baseType with
        | some base => staticFieldsWithin n base
        | none => []

/-- The static fields of a type and its bases, those of the most derived first. -/
def staticFields (type : Ident) : List FieldDecl :=
  c.staticFieldsWithin maxDepth type

def isAssignableWithin (target : Ident) : Nat → Ident → Bool
  | 0, _ => false
  | n + 1, type =>
    if type = target then
      true
    else
      match c.baseOf? type with
      | some base => isAssignableWithin target n base
      | none => false

/-- A value of type `source` can stand where `target` is expected. -/
def isAssignable (source target : Ident) : Bool :=
  c.isAssignableWithin target maxDepth source

end Catalog

end PropertyLowering
