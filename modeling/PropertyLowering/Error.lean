import PropertyLowering.Span

/-!
What can go wrong while types are registered and while properties are compiled, and the wording
of each.
-/

namespace PropertyLowering

inductive RegistryError where
  | typeNotFound (what : String)
  | duplicateType (name : String)
  /-- A member was meant for a type that is not registered. -/
  | unknownOwner (owner member : String)
  | genericArity (name : String) (expected got : Nat)
  | notGeneric (name : String)
  /-- The base of a generic definition leads back to the definition without end, so that whoever
  follows it never returns. -/
  | endlessBase (name : String)
  deriving DecidableEq, Repr

def RegistryError.message : RegistryError → String
  | typeNotFound what => s!"type not found: {what}"
  | duplicateType name => s!"duplicate type: {name}"
  | unknownOwner owner member => s!"cannot add member '{member}' to unknown type '{owner}'"
  | genericArity name expected got =>
    s!"generic '{name}' expects {expected} type argument(s), got {got}"
  | notGeneric name => s!"'{name}' is not a generic definition"
  | endlessBase name => s!"generic '{name}' has no end of bases"

inductive CompileError where
  | unknownType (name : String) (span : Span)
  | invalidToken (token reason : String) (span : Span)
  /-- Neither a descriptor field nor a property goes by the name. -/
  | unresolvedProperty (owner name : String) (span : Span)
  /-- A field has a descriptor's name but its type is outside the family of typed properties. -/
  | notATypedProperty (field fieldType family : String) (span : Span)
  /-- No accessor reveals the type of the property. -/
  | missingAccessor (owner name : String) (span : Span)
  | propertyNotFound (name : String) (span : Span)
  /-- A property without descriptor field was to be loaded. -/
  | notAStyledProperty (name : String) (span : Span)
  | typeMismatch (reason : String) (span : Span)
  | argumentCount (name : String) (expected got : Nat) (span : Span)
  | internal (reason : String)
  deriving DecidableEq, Repr

namespace CompileError

/-- Internal errors have no place. -/
def span : CompileError → Span
  | unknownType _ s => s
  | invalidToken _ _ s => s
  | unresolvedProperty _ _ s => s
  | notATypedProperty _ _ _ s => s
  | missingAccessor _ _ s => s
  | propertyNotFound _ s => s
  | notAStyledProperty _ s => s
  | typeMismatch _ s => s
  | argumentCount _ _ _ s => s
  | internal _ => .unknown

/-- The description without the place. -/
def description : CompileError → String
  | unknownType name _ => s!"unknown type '{name}'"
  | invalidToken token reason _ => s!"invalid property reference '{token}': {reason}"
  | unresolvedProperty owner name _ => s!"unable to resolve property '{name}' on type '{owner}'"
  | notATypedProperty field fieldType family _ =>
    s!"{field}'s type {fieldType} doesn't inherit from {family}, make sure to use typed " ++
      "properties (a field with this name that is not a property descriptor is probably a " ++
      "naming collision)"
  | missingAccessor owner name _ =>
    s!"unable to resolve \"{owner}.{name}\" property type. There is no setter or getter."
  | propertyNotFound name _ => s!"property '{name}' not found"
  | notAStyledProperty name _ => s!"{name} is not a styled property"
  | typeMismatch reason _ => reason
  | argumentCount name expected got _ => s!"'{name}' expects {expected} argument(s), got {got}"
  | internal reason => s!"internal compiler error: {reason}"

/-- The description, after the place where there is one. -/
def message (e : CompileError) : String :=
  match e with
  | internal _ => e.description
  | _ => "at " ++ e.span.text ++ ": " ++ e.description

end CompileError

/-- An error of either kind, for callers that both register and compile. -/
inductive MarkupError where
  | registry (error : RegistryError)
  | compile (error : CompileError)
  deriving DecidableEq, Repr

namespace MarkupError

def message : MarkupError → String
  | registry e => e.message
  | compile e => e.message

def isRegistry : MarkupError → Bool
  | registry _ => true
  | compile _ => false

def isCompile : MarkupError → Bool
  | registry _ => false
  | compile _ => true

/-- Registration has no place in a document. -/
def span? : MarkupError → Option Span
  | registry _ => none
  | compile e => some e.span

end MarkupError

end PropertyLowering
