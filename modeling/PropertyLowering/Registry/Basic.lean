import PropertyLowering.Catalog
import PropertyLowering.Error
import Std.Data.HashMap

/-!
The store of types: declarations by identity, and an index of names.

Generic parameters are stored but not indexed. Operations run in `RegistryM`, where a failure
leaves behind whatever was stored before it, so that what a failed operation changes can be
asked.
-/

namespace PropertyLowering

structure Registry where
  types : Std.HashMap Ident TypeDecl
  names : Std.HashMap TypeName Ident

namespace Registry

def empty : Registry := ⟨∅, ∅⟩

/-- The number of types, generic parameters and instances included. -/
def size (r : Registry) : Nat := r.types.size

def contains (r : Registry) (type : Ident) : Bool := r.types.contains type

def find? (r : Registry) (type : Ident) : Option TypeDecl := r.types[type]?

def resolve? (r : Registry) (name : TypeName) : Option Ident := r.names[name]?

/-- The read-only view. -/
def catalog (r : Registry) : Catalog := ⟨r.resolve?, r.find?⟩

/-- Stores a declaration in place of one with its identity, and points its name at it. -/
def insert (r : Registry) (t : TypeDecl) : Registry where
  types := r.types.insert t.id t
  names := if t.flags.isParameter then r.names else r.names.insert t.name t.id

/-- Changes the declaration of a type, if it is known. -/
def modify (r : Registry) (type : Ident) (change : TypeDecl → TypeDecl) : Registry where
  types := r.types.modify type change
  names := r.names

/-- The scalar types that every registry may start from. -/
def builtins : Registry :=
  [TypeDecl.reference "object", TypeDecl.reference "string", TypeDecl.value "bool",
    TypeDecl.value "int", TypeDecl.value "double"].foldl insert empty

@[simp] theorem catalog_find? (r : Registry) : r.catalog.find? = r.find? := rfl

@[simp] theorem catalog_resolve? (r : Registry) : r.catalog.resolve? = r.resolve? := rfl

theorem find?_insert (r : Registry) (t : TypeDecl) (type : Ident) :
    (r.insert t).find? type = if t.id = type then some t else r.find? type := by
  simp [find?, insert, Std.HashMap.getElem?_insert]

theorem resolve?_insert (r : Registry) (t : TypeDecl) (name : TypeName) :
    (r.insert t).resolve? name =
      if t.flags.isParameter = false ∧ t.name = name then some t.id else r.resolve? name := by
  cases h : t.flags.isParameter <;> simp [resolve?, insert, h, Std.HashMap.getElem?_insert]

theorem find?_modify (r : Registry) (type other : Ident) (change : TypeDecl → TypeDecl) :
    (r.modify type change).find? other =
      if type = other then (r.find? other).map change else r.find? other := by
  simp only [find?, modify, Std.HashMap.getElem?_modify, beq_iff_eq]
  split <;> simp_all

@[simp] theorem resolve?_modify (r : Registry) (type : Ident) (change : TypeDecl → TypeDecl) :
    (r.modify type change).resolve? = r.resolve? := rfl

end Registry

/-- Operations on a registry that may fail half-way. -/
abbrev RegistryM := ExceptT RegistryError (StateM Registry)

namespace RegistryM

/-- Stores a declaration and returns its identity. -/
def insert (t : TypeDecl) : RegistryM Ident := do
  modify (·.insert t)
  return t.id

/-- Names are registered once. -/
def requireFresh (name : TypeName) : RegistryM Unit := do
  if ((← get).resolve? name).isSome then
    throw (.duplicateType name.text)

/-- Changes a registered type on behalf of a new member. -/
def extend (holder : Ident) (member : String) (change : TypeDecl → TypeDecl) : RegistryM Unit := do
  if (← get).contains holder then
    modify (·.modify holder change)
  else
    throw (.unknownOwner holder.text member)

/-- Adds a field to a type, which need not be the one that the field names as its owner. -/
def addField (holder : Ident) (f : FieldDecl) : RegistryM Unit :=
  extend holder f.name (·.addField f)

def addProperty (holder : Ident) (p : PropertyDecl) : RegistryM Unit :=
  extend holder p.name (·.addProperty p)

def addMethod (holder : Ident) (m : MethodDecl) : RegistryM Unit :=
  extend holder m.name (·.addMethod m)

end RegistryM

end PropertyLowering
