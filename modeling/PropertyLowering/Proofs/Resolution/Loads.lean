import PropertyLowering.Assignment.Load
import PropertyLowering.Proofs.Assembler.Operation
import PropertyLowering.Proofs.Catalog.Walks
import PropertyLowering.Proofs.Resolution.Descriptor

/-!
Loading what references resolve to.

Resolution finds a field or a property, and emission, which sees only a type and a name, looks for
them again. Main statements: for a property that a value is provided to, both find the same, even
where resolution then refuses it; and emission finds no field for a property that resolution gave
for want of one, although it starts further up the bases.
-/

namespace PropertyLowering

/-- What is loaded for a property that a value is provided to. -/
def Context.targetLoad? (ctx : Context) (owner : Ident) (name : String) : Option Operation :=
  match ctx.descriptorField? owner name with
  | some f => some (.getStatic f.id)
  | none => (ctx.catalog.findProperty? owner name).map fun p => .constant (.property p.id)

/-- A toggle inherits `Content`, with accessors, from the button, and `IsEnabled`, with a field, from
the control. -/
def Context.toggling : Context :=
  .declared .customary (toggles fun t =>
    t.addProperty (.readWrite "Content" t.id (TypeDecl.reference "string").id))

namespace Asm

open Context

variable {ctx : Context} {owner hint : Ident} {name : String} {r : Reference} {span : Span}
  {a : Assembler} {op : Operation}

/-- The emission gives `result` and appends the bytes of one instruction, that of the operation.
Besides the code only the pool changes, which stores the constant of the operation. -/
def JustPerforms (x : Asm α) (result : α) (op : Operation) (a : Assembler) : Prop :=
  ∃ i, op.Encodes (op.referent.stored a.pool) i ∧
    outcome x a = (.ok result, Assembler.write { a with pool := op.referent.stored a.pool } i) ∧
    (outcome x a).2.chunk.code = a.chunk.code ++ i.bytes

lemma justPerforms_perform_bind (hemits : op.emits = true) (hfits : ¬ op.Overflows a.pool)
    (result : α) : (op.perform >>= fun _ => pure result).JustPerforms result op a := by
  obtain ⟨i, hi, hop⟩ := Operation.outcome_perform hemits hfits
  have h : outcome (op.perform >>= fun _ => pure result) a =
      (.ok result, Assembler.write { a with pool := op.referent.stored a.pool } i) := by
    rw [outcome_bind, hop]
    rfl
  exact ⟨i, hi, h, by rw [h]; exact Chunk.code_write a.chunk i.bytes a.line⟩

lemma JustPerforms.result_eq {x : Asm α} {result : α} (h : x.JustPerforms result op a) :
    (outcome x a).1 = .ok result := by
  obtain ⟨i, -, hx, -⟩ := h
  rw [hx]

lemma provideTarget_eq (ctx : Context) (owner : Ident) (name : String) :
    provideTarget ctx owner name =
      match ctx.targetLoad? owner name with
      | some op => op.perform >>= fun _ => pure true
      | none => pure false := by
  unfold provideTarget propertyField targetLoad?
  cases ctx.descriptorField? owner name with
  | some f => simp [Operation.perform]
  | none => cases ctx.catalog.findProperty? owner name <;> simp [Operation.perform]

lemma not_overflows_targetLoad? (hop : ctx.targetLoad? owner name = some op)
    (hroom : a.pool.size ≤ 65535) : ¬ op.Overflows a.pool := by
  have hindex (c : Constant) : ¬ 65535 < (a.pool.add c).1 :=
    Nat.not_lt.mpr (Nat.le_trans (a.pool.index_add_le c) hroom)
  unfold targetLoad? at hop
  split at hop
  · rw [← Option.some.inj hop]
    exact hindex _
  · obtain ⟨p, -, rfl⟩ := Option.map_eq_some_iff.mp hop
    exact hindex _

lemma justPerforms_provideTarget (hop : ctx.targetLoad? owner name = some op)
    (hemits : op.emits = true) (hfits : ¬ op.Overflows a.pool) :
    (provideTarget ctx owner name).JustPerforms true op a := by
  rw [provideTarget_eq, hop]
  exact justPerforms_perform_bind hemits hfits true

lemma outcome_node_of_targetLoad? {p : FieldProperty}
    (hop : ctx.targetLoad? owner name = some (.getStatic p.field.id))
    (hfits : ¬ (Operation.getStatic p.field.id).Overflows a.pool) (place : Span) :
    outcome (node ctx (.ofDescriptor ctx (.field p) place)) a =
      (.ok (), (outcome (provideTarget ctx owner name) a).2) := by
  change outcome (Operation.getStatic p.field.id).perform a = _
  obtain ⟨i, -, hi⟩ := Operation.outcome_perform rfl hfits
  rw [provideTarget_eq, hop, outcome_bind, hi]
  rfl

lemma outcome_provideTarget_of_none (h : ctx.targetLoad? owner name = none) :
    outcome (provideTarget ctx owner name) a = (.ok false, a) := by
  rw [provideTarget_eq, h]
  rfl

/-- **Loading agrees with resolution.** Let there be room in the pool for the constant that is
needed, if one is. For a property that a value is provided to, nothing is loaded and nothing changes
just where resolution finds neither a field nor a property. Where it finds a field, one instruction
loads this field, and if the reference is not refused, then it is what the resolved node appends.
Where it finds a property, with accessors that tell the type of its values or without, one
instruction loads the handle on the nearest declaration of the name. -/
theorem provideTarget_agrees
    (hfits : ∀ op, ctx.targetLoad? owner name = some op → ¬ op.Overflows a.pool) (span : Span) :
    let target := provideTarget ctx owner name
    let resolved := ctx.resolve owner (.unqualified name) span
    (outcome target a = (.ok false, a) ↔
      ∃ o n s, resolved = .error (.unresolvedProperty o n s)) ∧
    ((outcome target a).1 = .ok false → (outcome target a).2 = a) ∧
    (∀ p, resolved = .ok (.field p) →
      (ctx.catalog.fields owner).find? (ctx.publishes name) = some p.field ∧
      target.JustPerforms true (.getStatic p.field.id) a ∧
      ∀ place, outcome (node ctx (.ofDescriptor ctx (.field p) place)) a =
        (.ok (), (outcome target a).2)) ∧
    ((∃ f t u s, resolved = .error (.notATypedProperty f t u s)) →
      ∃ f, (ctx.catalog.fields owner).find? (ctx.publishes name) = some f ∧
        target.JustPerforms true (.getStatic f.id) a) ∧
    ((∃ p, resolved = .ok (.accessors p)) ∨
        (∃ o n s, resolved = .error (.missingAccessor o n s)) →
      ∃ p, (ctx.catalog.properties owner).find? (·.name == name) = some p ∧
        target.JustPerforms true (.constant (.property p.id)) a) := by
  intro target resolved
  have hresolved : resolved = ctx.lookUp owner name span := resolve_unqualified owner name span
  rw [← descriptorField?_eq, ← Catalog.findProperty?_eq]
  rcases ctx.lookUp_cases owner name span with
    ⟨f, hf, h⟩ | ⟨q, hf, hq, h⟩ | ⟨hf, hq, h⟩ <;> rw [← hresolved] at h
  case inl =>
    have hop : ctx.targetLoad? owner name = some (.getStatic f.id) := by simp [targetLoad?, hf]
    have hloads : target.JustPerforms true (.getStatic f.id) a :=
      justPerforms_provideTarget hop rfl (hfits _ hop)
    have htrue := hloads.result_eq
    obtain ⟨p, rfl, -, h⟩ | h := h
    · have hnode := outcome_node_of_targetLoad? hop (hfits _ hop)
      simp [h, hf, Prod.ext_iff, htrue, hloads, hnode, target]
    · simp [h, hf, Prod.ext_iff, htrue, hloads]
  case inr.inl =>
    have hop : ctx.targetLoad? owner name = some (.constant (.property q.id)) := by
      simp [targetLoad?, hf, hq]
    have hloads : target.JustPerforms true (.constant (.property q.id)) a :=
      justPerforms_provideTarget hop rfl (hfits _ hop)
    have htrue := hloads.result_eq
    obtain ⟨v, -, h⟩ | h := h
    · simp [h, hq, Prod.ext_iff, htrue, hloads]
    · simp [h, hq, Prod.ext_iff, htrue, hloads]
  case inr.inr =>
    have hnone : outcome target a = (.ok false, a) :=
      outcome_provideTarget_of_none (by simp [targetLoad?, hf, hq])
    simp [h, hnone]

theorem provideTarget_agrees_toggle :
    let toggle := (TypeDecl.reference "Toggle").id
    let button := (TypeDecl.reference "Button").id
    let control := (TypeDecl.reference "Control").id
    let a := Assembler.start .empty 0
    let target := provideTarget toggling toggle
    (∀ name op, toggling.targetLoad? toggle name = some op → ¬ op.Overflows a.pool) ∧
      (target "IsEnabled").JustPerforms true (.getStatic (.ofField control "IsEnabledProperty")) a ∧
      (target "Content").JustPerforms true (.constant (.property (.ofProperty button "Content"))) a ∧
      outcome (target "Title") a = (.ok false, a) := by
  intro toggle button control a target
  have hfits (name : String) (op : Operation) (hop : toggling.targetLoad? toggle name = some op) :
      ¬ op.Overflows a.pool :=
    not_overflows_targetLoad? hop (by decide)
  let fw := toggling.framework
  let enabled : FieldProperty :=
    ⟨"IsEnabled", control,
      .descriptor "IsEnabledProperty" control (.ofInstance fw.styledProperty [fw.bool]), fw.bool,
      true, false, true⟩
  let content := PropertyDecl.readWrite "Content" button (TypeDecl.reference "string").id
  obtain ⟨-, -, hfield, -⟩ := provideTarget_agrees (hfits "IsEnabled") .unknown
  obtain ⟨-, -, -, -, hproperty⟩ := provideTarget_agrees (hfits "Content") .unknown
  obtain ⟨hnothing, -⟩ := provideTarget_agrees (hfits "Title") .unknown
  refine ⟨hfits, (hfield enabled (by decide +kernel)).2.1, ?_,
    hnothing.mpr ⟨"Toggle", "Title", .unknown, by decide +kernel⟩⟩
  obtain ⟨p, hp, hloads⟩ := hproperty (.inl ⟨⟨"Content", button, content.getter, content.setters,
    (TypeDecl.reference "string").id⟩, by decide +kernel⟩)
  have hcontent : (toggling.catalog.properties toggle).find? (·.name == "Content") =
      some content := by
    decide +kernel
  obtain rfl : p = content := Option.some.inj (hp.symm.trans hcontent)
  exact hloads

/-- **A property with accessors can never be loaded.** Let each declaration of a property name the
type that holds it, and let the path from the owner of the reference end within the bound of walks.
If the reference means a property with accessors, then no field is found for it from its own type
either. So its node is refused, by the name of the property and at the place of the node, and
nothing changes, neither code nor pool nor slots. -/
theorem node_accessors_refused {p : AccessorProperty}
    (hheld : ∀ type t, ctx.catalog.find? type = some t → ∀ q ∈ t.properties, q.owner = type)
    (howner : ctx.ownerOf hint r span = .ok owner) (hends : ctx.catalog.Ends owner)
    (h : ctx.resolve hint r span = .ok (.accessors p)) :
    p.name = r.name ∧ ctx.descriptorField? p.owner p.name = none ∧
      ∀ place a, outcome (node ctx (.ofDescriptor ctx (.accessors p) place)) a =
        (.error (.notAStyledProperty p.name place), a) := by
  obtain ⟨owner', q, howner', hfields, hq, hname, hpowner⟩ := exists_of_resolve_accessors h
  obtain rfl : owner' = owner := Except.ok.inj (howner'.symm.trans howner)
  have hqname : p.name = r.name := by
    rw [hname]
    simpa using List.find?_some hq
  -- the declaration stands on the way from the owner, so what follows it was searched already
  obtain ⟨t, ht, hqt⟩ := List.mem_flatMap.mp (List.mem_of_find?_eq_some hq)
  obtain ⟨type, htype, hfind⟩ := Catalog.mem_lineage.mp ht
  have hlater : ctx.catalog.lineage p.owner ⊆ ctx.catalog.lineage owner' := by
    rw [hpowner, hheld type t hfind q hqt]
    exact Catalog.lineage_subset hends htype
  have hnone : ctx.descriptorField? p.owner p.name = none := by
    rw [hqname, descriptorField?_eq, List.find?_eq_none]
    intro f hf
    obtain ⟨u, hu, hfu⟩ := List.mem_flatMap.mp hf
    exact List.find?_eq_none.mp hfields f (List.mem_flatMap.mpr ⟨u, hlater hu, hfu⟩)
  refine ⟨hqname, hnone, fun place a => ?_⟩
  simp only [node, PropertyNode.ofDescriptor, propertyField, hnone]
  rfl

theorem node_accessors_refused_toggle :
    let toggle := (TypeDecl.reference "Toggle").id
    let string := (TypeDecl.reference "string").id
    let content := PropertyDecl.readWrite "Content" (TypeDecl.reference "Button").id string
    let p : AccessorProperty :=
      ⟨"Content", content.owner, content.getter, content.setters, string⟩
    let r := Reference.unqualified "Content"
    let a := Assembler.start .empty 0
    (∀ type t, toggling.catalog.find? type = some t → ∀ q ∈ t.properties, q.owner = type) ∧
      toggling.ownerOf toggle r .unknown = .ok toggle ∧ toggling.catalog.Ends toggle ∧
      toggling.resolve toggle r .unknown = .ok (.accessors p) ∧
      outcome (node toggling (.ofDescriptor toggling (.accessors p) .unknown)) a =
        (.error (.notAStyledProperty "Content" .unknown), a) := by
  intro toggle string content p r a
  have hheld (type : Ident) (t : TypeDecl) (hfind : toggling.catalog.find? type = some t) :
      ∀ q ∈ t.properties, q.owner = type := by
    obtain ⟨hmem, rfl⟩ := Catalog.mem_of_find?_listed hfind
    have hall : ∀ t ∈ toggles (fun t => t.addProperty (.readWrite "Content" t.id string)),
        ∀ q ∈ t.properties, q.owner = t.id := by
      decide +kernel
    exact hall t hmem
  have hends : toggling.catalog.Ends toggle :=
    Catalog.baseAfter_of_le (m := 3) (by decide +kernel) (by decide)
  have hp : toggling.resolve toggle r .unknown = .ok (.accessors p) := by decide +kernel
  obtain ⟨-, -, hrefused⟩ := node_accessors_refused hheld rfl hends hp
  exact ⟨hheld, rfl, hends, hp, hrefused .unknown a⟩

end Asm

end PropertyLowering
