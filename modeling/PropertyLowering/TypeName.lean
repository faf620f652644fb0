import PropertyLowering.Ident

/-!
Qualified names of types: a simple name inside a path of namespaces.
-/

namespace PropertyLowering

structure TypeName where
  simple : String
  path : List String
  deriving DecidableEq, Hashable, Repr, Inhabited

namespace TypeName

/-- The name in the global namespace. -/
def global (simple : String) : TypeName := ⟨simple, []⟩

def isGlobal (n : TypeName) : Bool :=
  n.path.isEmpty

/-- The namespaces and the simple name, joined by `::`. -/
def text (n : TypeName) : String :=
  "::".intercalate (n.path ++ [n.simple])

/-- The identity of the type that the name stands for. -/
def ident (n : TypeName) : Ident :=
  Ident.ofTypeName n.text

/-- The pieces of a text between the separators `::`, taken from the left without overlap. -/
def pieces : List Char → List (List Char)
  | [] => [[]]
  | ':' :: ':' :: rest => [] :: pieces rest
  | c :: rest =>
    match pieces rest with
    | [] => [[c]]
    | piece :: more => (c :: piece) :: more

/-- The name whose last piece is the simple one. -/
def ofPieces (parts : List String) : TypeName :=
  match parts.reverse with
  | [] => global ""
  | simple :: path => ⟨simple, path.reverse⟩

/-- Reads a qualified name; empty pieces do not count. -/
def ofText (text : String) : TypeName :=
  ofPieces (((pieces text.toList).filter (!·.isEmpty)).map String.ofList)

/-- The name of an owner as markup writes it, with or without a namespace in front. -/
def ofMarkup (space : Option String) (owner : String) : TypeName :=
  match space with
  | some s => if s.isEmpty then global owner else ⟨owner, [s]⟩
  | none => global owner

/-- Another name in the same namespace. -/
def sibling (n : TypeName) (simple : String) : TypeName :=
  ⟨simple, n.path⟩

/-- A simple name without the arity mark and what follows it. -/
def stem (simple : String) : String :=
  String.ofList (simple.toList.takeWhile (· != '\x60'))

/-- The name of a generic definition's parameter lies in the namespace that its definition spans. -/
def parameter (definition : TypeName) (param : String) : TypeName :=
  ⟨param, definition.path ++ [definition.simple]⟩

@[simp] theorem text_global (simple : String) : (global simple).text = simple := by
  simp [text, global]

@[simp] theorem isGlobal_global (simple : String) : (global simple).isGlobal = true := rfl

/-- An identity tells a name as far as the digest tells its text. -/
theorem ident_eq_iff {m n : TypeName} :
    m.ident = n.ident ↔ Digest.ofText m.text = Digest.ofText n.text := by
  simp [ident, Ident.ofTypeName]

end TypeName

end PropertyLowering
