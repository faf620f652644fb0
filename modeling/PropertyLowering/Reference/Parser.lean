import PropertyLowering.Reference.Basic
import PropertyLowering.Text.Identifier

/-!
Reading of written references. Blanks at the ends do not count, and one pair of parentheses may
enclose the whole, as in `(Grid.Row)`.
-/

namespace PropertyLowering.Reference

open Text

/-- The text without the parentheses around it, if it starts with one. -/
def unwrap : List Char → Except Fault (List Char)
  | '(' :: inner =>
    if inner.getLast? = some ')' then .ok (trim inner.dropLast) else .error .unbalancedParentheses
  | text => .ok text

/-- What stands before the first separator, if there is one, and what is left. -/
def splitAtFirst (separator : Char) (text : List Char) : Option (List Char) × List Char :=
  match text.dropWhile (· != separator) with
  | [] => (none, text)
  | _ :: rest => (some (text.takeWhile (· != separator)), rest)

/-- Checks that a piece is an identifier; the first character that cannot stand is reported. -/
def checkIdentifier (segment : Segment) (text : List Char) : Except Fault Unit :=
  match text with
  | [] => .error (.emptySegment segment)
  | first :: rest =>
    match if isIdentStart first then rest.find? (!isIdentRest ·) else some first with
    | some char => .error (.invalidCharacter char segment (String.ofList text))
    | none => .ok ()

/-- Checks that each separator occurs once at most and that no parenthesis is left. -/
def checkSeparators (text : List Char) : Except Fault Unit :=
  if text.contains '(' || text.contains ')' then .error .unbalancedParentheses
  else if text.isEmpty then .error .empty
  else if 1 < text.count ':' then .error (.repeated ':')
  else if 1 < text.count '.' then .error (.repeated '.')
  else .ok ()

/-- Checks the pieces; a namespace must be followed by an owner. -/
def checkPieces (space owner : Option (List Char)) (name : List Char) : Except Fault Unit := do
  if let some space := space then
    checkIdentifier .space space
    if owner.isNone then
      throw (.spaceWithoutOwner (String.ofList space))
  if let some owner := owner then
    checkIdentifier .owner owner
  checkIdentifier .name name

def parseChars (raw : List Char) : Except Fault Reference := do
  let text ← unwrap (trim raw)
  checkSeparators text
  let (space, rest) := splitAtFirst ':' text
  let (owner, name) := splitAtFirst '.' rest
  checkPieces space owner name
  return ⟨space.map String.ofList, owner.map String.ofList, String.ofList name⟩

/-- Reads a reference that stands at a place of a document. -/
def parse (raw : String) (span : Span) : Except CompileError Reference :=
  match parseChars raw.toList with
  | .ok r => .ok r
  | .error fault => .error (.invalidToken raw fault.message span)

end PropertyLowering.Reference
