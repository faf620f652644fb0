import PropertyLowering.Assembler.Basic
import PropertyLowering.Value

/-!
Code that pushes one value: descriptors of properties, class selectors and arguments.
-/

namespace PropertyLowering

/-- The number of arguments of a call, its receiver not counted. -/
def MethodDecl.argumentCount (m : MethodDecl) : Except CompileError UInt8 :=
  if m.params.length < 256 then
    .ok (UInt8.ofNat m.params.length)
  else
    .error (.internal
      s!"'{m.name}' takes {m.params.length} parameters, more than a call can pass")

namespace Asm

/-- Loads the descriptor field of a name, if there is one, and says whether there was. -/
def propertyField (ctx : Context) (owner : Ident) (name : String) : Asm Bool :=
  match ctx.descriptorField? owner name with
  | some field => do
    getStatic field.id
    return true
  | none => return false

/-- Loads what stands for a property that a value is provided to: its descriptor field, else a
handle on its declaration. -/
def provideTarget (ctx : Context) (owner : Ident) (name : String) : Asm Bool := do
  if ← propertyField ctx owner name then
    return true
  match ctx.catalog.findProperty? owner name with
  | some p =>
    constant (.property p.id)
    return true
  | none => return false

/-- Loads the property that tells whether something belongs to a class. -/
def selector (ctx : Context) (className : String) : Asm Unit := do
  string className
  call ctx.framework.hasClass.id (← ctx.framework.hasClass.argumentCount)

/-- Loads a resolved reference. A property with accessors only has nothing to load. -/
def node (ctx : Context) (n : PropertyNode) : Asm Unit := do
  match n.descriptor with
  | .field p => getStatic p.field.id
  | .accessors p =>
    unless ← propertyField ctx p.owner p.name do
      throw (.notAStyledProperty p.name n.span)
  | .selector className => selector ctx className

/-- Pushes a value. -/
def push (ctx : Context) : Value → Asm Unit
  | .stored slot _ _ => getLocal slot
  | .null _ => null
  | .property n => node ctx n
  | .literal (.int n) _ => int n
  | .literal c _ => constant c

end Asm

/-- Checks that a value can be passed where a type is expected. -/
def Value.check (c : Catalog) (v : Value) (expected : Ident) : Except CompileError Unit :=
  if v.fits c expected then
    .ok ()
  else
    let actual := match v.type? with
      | none => "null"
      | some type => c.nameOf type
    .error (.typeMismatch
      ("cannot pass a value of type '" ++ actual ++ "' where '" ++ c.nameOf expected ++
        "' is expected") v.span)

/-- Pushes a value where a type is expected; one that does not fit leaves no code. -/
def Asm.argument (ctx : Context) (v : Value) (expected : Ident) : Asm Unit := do
  v.check ctx.catalog expected
  push ctx v

end PropertyLowering
