import PropertyLowering.Assignment.Load

/-!
Code that assigns through a setter. The instance is on the stack beforehand, and the call
consumes it.

Inline code finds the operands above the instance in the order of the parameters. It spills them
into slots, because the descriptor field goes first. Code from arguments pushes each argument
straight into its place.
-/

namespace PropertyLowering

namespace Asm

/-- Calls a method of the framework and drops its result. The type argument is for generic
methods only. -/
def invoke (m : MethodDecl) (typeArg : Option Ident) : Asm Unit := do
  let argc ← m.argumentCount
  match m.isStatic, typeArg.filter fun _ => m.isGeneric with
  | true, none => call m.id argc
  | false, none => callMethod m.id argc
  | true, some type => callGeneric m.id [type] argc
  | false, some type => callMethodGeneric m.id [type] argc
  if m.returnsValue then
    pop

/-- Sets the property of the instance to the unset value. -/
def unsetTail (ctx : Context) (field : Ident) : Asm Unit := do
  getStatic field
  getStatic ctx.framework.unsetValue.id
  int 0
  invoke ctx.framework.setValue none

end Asm

namespace Setter

open Asm

/-- Assigns operands that are on the stack already. -/
def inline (ctx : Context) (s : Setter) : Asm Unit :=
  let fw := ctx.framework
  let field := s.property.field.id
  let valueType := s.property.valueType
  match s.convention with
  | .unset => do
    pop
    unsetTail ctx field
  | .binding | .bindingWithPriority =>
    withSlot fw.binding fun binding => do
      setLocal binding
      if s.convention.hasPriority then
        pop
      getStatic field
      getLocal binding
      null
      invoke fw.bind none
  | .plainWithPriority =>
    withSlot valueType fun value =>
      withSlot fw.bindingPriority fun priority => do
        setLocal value
        setLocal priority
        getStatic field
        getLocal value
        getLocal priority
        invoke fw.setStyledValue (some valueType)
  | .plain =>
    withSlot valueType fun value => do
      setLocal value
      getStatic field
      getLocal value
      int 0
      invoke fw.setStyledValue (some valueType)

/-- The complaint about a wrong number of arguments, placed at the first of them. -/
def countError (s : Setter) (args : List Value) : CompileError :=
  .argumentCount (s.convention.name ++ " setter of '" ++ s.property.name ++ "'") s.arity
    args.length ((args.head?.map Value.span).getD .unknown)

/-- Assigns arguments that are yet to be pushed, one for each parameter. The unset value is only
checked, since the call implies it; the priority of a binding is dropped. -/
def withArguments (ctx : Context) (s : Setter) (args : List Value) : Asm Unit := do
  let fw := ctx.framework
  let field := s.property.field.id
  let valueType := s.property.valueType
  if args.length ≠ s.arity then
    throw (s.countError args)
  match s.convention, args with
  | .unset, v :: _ =>
    v.check ctx.catalog fw.unsetValueType
    unsetTail ctx field
  | .binding, v :: _ | .bindingWithPriority, _ :: v :: _ =>
    getStatic field
    argument ctx v fw.binding
    null
    invoke fw.bind none
  | .plainWithPriority, priority :: value :: _ =>
    getStatic field
    argument ctx value valueType
    argument ctx priority fw.bindingPriority
    invoke fw.setStyledValue (some valueType)
  | .plain, value :: _ =>
    getStatic field
    argument ctx value valueType
    int 0
    invoke fw.setStyledValue (some valueType)
  | _, _ => throw (s.countError args)

end Setter

end PropertyLowering
