import PropertyLowering.Error

/-!
References to properties as markup writes them: `namespace:Owner.Name`, with the namespace or
both it and the owner left out. What can be wrong with a written reference is a `Fault`.
-/

namespace PropertyLowering

structure Reference where
  space : Option String
  owner : Option String
  name : String
  deriving DecidableEq, Repr

namespace Reference

def unqualified (name : String) : Reference := ⟨none, none, name⟩

def qualified (owner name : String) : Reference := ⟨none, some owner, name⟩

def isQualified (r : Reference) : Bool := r.owner.isSome

/-- The reference as it is written. -/
def text (r : Reference) : String :=
  (match r.space with
    | some space => space ++ ":"
    | none => "") ++
  (match r.owner with
    | some owner => owner ++ "."
    | none => "") ++ r.name

/-- The pieces of a reference. -/
inductive Segment where
  | space
  | owner
  | name
  deriving DecidableEq, Repr

def Segment.text : Segment → String
  | space => "namespace"
  | owner => "owner"
  | name => "name"

inductive Fault where
  | empty
  | emptySegment (segment : Segment)
  | invalidCharacter (char : Char) (segment : Segment) (text : String)
  | repeated (separator : Char)
  | unbalancedParentheses
  | spaceWithoutOwner (space : String)
  deriving DecidableEq, Repr

def Fault.message : Fault → String
  | empty => "empty property reference"
  | emptySegment segment => "empty " ++ segment.text
  | invalidCharacter char segment text =>
    "invalid character '" ++ char.toString ++ "' in " ++ segment.text ++ " '" ++ text ++ "'"
  | repeated separator => "more than one '" ++ separator.toString ++ "'"
  | unbalancedParentheses => "unbalanced parentheses"
  | spaceWithoutOwner space => s!"namespace '{space}' requires an owner type"

end Reference

end PropertyLowering
