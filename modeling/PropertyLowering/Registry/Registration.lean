import PropertyLowering.Registry.Basic

/-!
Registration of types and generic definitions, and the closing of definitions over arguments.

The base of a definition may be another generic applied to the definition's own parameters. An
instance derives from the instance of that base over the substituted arguments, which is made
first; members stay on the definition.
-/

namespace PropertyLowering

namespace TypeDecl

/-- The argument for a parameter; what is no parameter stays. The last of equal parameters counts. -/
def substitute (params args : List Ident) (type : Ident) : Ident :=
  ((params.zip args).reverse.lookup type).getD type

/-- A definition closed over arguments, deriving from the given base. -/
def instanceOf (definition : TypeDecl) (definitionId : Ident) (args : List Ident)
    (argNames : List String) (base : Option Ident) : TypeDecl :=
  let simple := TypeName.stem definition.simple ++ "<" ++ ", ".intercalate argNames ++ ">"
  { TypeDecl.ofName (definition.name.sibling simple)
      { definition.flags with isDefinition := false } with
    id := Ident.ofInstance definitionId args
    base := base.map .closed
    baseType := base
    definition := some definitionId
    args := args }

/-- The parameter of a generic definition. -/
def parameterOf (definition : TypeName) (param : String) : TypeDecl :=
  ofName (definition.parameter param) .parameter

end TypeDecl

namespace Registry

/-- The declaration of a definition that can be closed over the arguments. -/
def checkArguments (r : Registry) (definition : Ident) (args : List Ident) :
    Except RegistryError TypeDecl :=
  match r.find? definition with
  | none => .error (.typeNotFound definition.text)
  | some d =>
    if !d.flags.isDefinition then
      .error (.notGeneric d.name.text)
    else if d.params.length ≠ args.length then
      .error (.genericArity d.name.text d.params.length args.length)
    else
      match args.find? (!r.contains ·) with
      | some missing => .error (.typeNotFound missing.text)
      | none => .ok d

/-- The number of ways to apply a registered definition to registered types. -/
def applications (r : Registry) : Nat :=
  r.types.toList.foldr (fun entry n => r.size.pow entry.2.params.length + n) 0

end Registry

namespace RegistryM

/-- Closes a definition over arguments, following at most `n` definitions along their bases. An
instance that exists is returned as it is. -/
def instantiateWithin : Nat → Ident → List Ident → RegistryM Ident
  | 0, definition, _ => do
    throw (.endlessBase ((← get).catalog.nameOf definition))
  | n + 1, definition, args => do
    let r ← get
    let d ← r.checkArguments definition args
    if r.contains (Ident.ofInstance definition args) then
      return Ident.ofInstance definition args
    let base ← match d.base with
      | none => pure none
      | some (.closed base) => pure (some base)
      | some (.generic baseDefinition baseArgs) =>
        some <$> instantiateWithin n baseDefinition (baseArgs.map (TypeDecl.substitute d.params args))
    insert (d.instanceOf definition args (args.map r.catalog.nameOf) base)

/-- Closes a definition over arguments. The walk along the bases ends within the bound unless it
comes back to an application, and then it has no end. -/
def instantiate (definition : Ident) (args : List Ident) : RegistryM Ident := do
  instantiateWithin ((← get).applications + 1) definition args

/-- The base type of a declaration: a closed base must be registered, a generic one is closed. -/
def resolveBase (owner : TypeName) : Option BaseRef → RegistryM (Option Ident)
  | none => pure none
  | some (.closed base) => do
    if (← get).contains base then
      return some base
    else
      throw (.typeNotFound s!"base {base.text} of '{owner.text}'")
  | some (.generic definition args) => some <$> instantiate definition args

/-- Registers a type that is not generic. -/
def register (t : TypeDecl) : RegistryM Ident := do
  requireFresh t.name
  let base ← resolveBase t.name t.base
  insert { t with baseType := base }

/-- Registers a generic definition with its parameters. Its base waits for the arguments. -/
def registerGeneric (t : TypeDecl) (params : List String) : RegistryM Ident := do
  requireFresh t.name
  let params := params.map (TypeDecl.parameterOf t.name)
  modify (params.foldl Registry.insert)
  insert
    { t with
      flags := { t.flags with isDefinition := true }
      baseType := none
      params := params.map (·.id) }

end RegistryM

end PropertyLowering
