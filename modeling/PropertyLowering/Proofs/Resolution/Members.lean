import Mathlib.Data.List.TakeWhile
import PropertyLowering.Proofs.Registry.Outcome
import PropertyLowering.Proofs.Resolution.Descriptor

/-!
Resolution before and after a member is added to a type.

A search stops at the first member of a name, and a new member comes after those that the type has.
Main statement: what a reference means changes at most when its owner derives from the type, the
member is a field that publishes the name or a property of it, and no such member is met before.
-/

namespace PropertyLowering

lemma find?_concat {l : List α} {x : α} {p : α → Bool} (h : p x = true → l.any p = true) :
    (l ++ [x]).find? p = l.find? p := by
  rw [List.find?_append]
  cases hx : p x with
  | false => simp [hx]
  | true =>
    obtain ⟨y, hy, hp⟩ := List.any_eq_true.mp (h hx)
    obtain ⟨z, hz⟩ := Option.isSome_iff_exists.mp (List.find?_isSome.mpr ⟨y, hy, hp⟩)
    rw [hz, Option.some_or]

/-- What can be added to a registered type. -/
inductive Member where
  | field (f : FieldDecl)
  | property (p : PropertyDecl)
  | method (m : MethodDecl)

namespace Member

def name : Member → String
  | field f => f.name
  | property p => p.name
  | method m => m.name

def addTo (t : TypeDecl) : Member → TypeDecl
  | field f => t.addField f
  | property p => t.addProperty p
  | method m => t.addMethod m

/-- Adds the member to a type of a registry. -/
def register (holder : Ident) : Member → RegistryM Unit
  | field f => RegistryM.addField holder f
  | property p => RegistryM.addProperty holder p
  | method m => RegistryM.addMethod holder m

/-- The member has a say in what the name means on the types that have it: it is a field that
publishes the name or a property of the name. -/
def bearsOn (ctx : Context) (name : String) : Member → Bool
  | field f => ctx.publishes name f
  | property p => p.name == name
  | method _ => false

/-- The type declares a member of the same kind that has a say. -/
def hasRival (ctx : Context) (name : String) (t : TypeDecl) : Member → Bool
  | field _ => t.fields.any (ctx.publishes name)
  | property _ => t.properties.any (·.name == name)
  | method _ => false

variable {ctx : Context} {name : String} {m : Member} {t : TypeDecl} {r s : Registry}
  {holder : Ident}

lemma shell_addTo (t : TypeDecl) (m : Member) : (m.addTo t).shell = t.shell := by
  cases m <;> rfl

lemma outcome_register (m : Member) (holder : Ident) (r : Registry) :
    RegistryM.outcome (m.register holder) r =
      if r.contains holder then (.ok (), r.modify holder m.addTo)
      else (.error (.unknownOwner holder.text m.name), r) := by
  cases m <;> exact RegistryM.outcome_extend ..

lemma eq_modify_of_register (h : RegistryM.outcome (m.register holder) r = (.ok (), s)) :
    s = r.modify holder m.addTo := by
  rw [outcome_register] at h
  split at h
  · exact (Prod.mk.inj h).2.symm
  · cases (Prod.mk.inj h).1

lemma find?_addTo (h : m.bearsOn ctx name = true → m.hasRival ctx name t = true) :
    (m.addTo t).fields.find? (ctx.publishes name) = t.fields.find? (ctx.publishes name) ∧
      (m.addTo t).findProperty? name = t.findProperty? name := by
  cases m with
  | field f => exact ⟨find?_concat h, rfl⟩
  | property p => exact ⟨rfl, find?_concat h⟩
  | method m => exact ⟨rfl, rfl⟩

/-- Where there is a rival, a search for its kind ends, and the other does not see the member. -/
lemma found_or_unseen_of_hasRival (h : m.hasRival ctx name t = true) :
    ((t.fields.find? (ctx.publishes name)).isSome = true ∧
      ∀ u : TypeDecl, (m.addTo u).findProperty? name = u.findProperty? name) ∨
    ((t.findProperty? name).isSome = true ∧ ∀ u : TypeDecl,
      (m.addTo u).fields.find? (ctx.publishes name) = u.fields.find? (ctx.publishes name)) := by
  cases m with
  | field f => exact .inl ⟨List.find?_isSome.mpr (List.any_eq_true.mp h), fun _ => rfl⟩
  | property p => exact .inr ⟨List.find?_isSome.mpr (List.any_eq_true.mp h), fun _ => rfl⟩
  | method m => cases h

end Member

namespace Registry

lemma differsBy_modify {change : TypeDecl → TypeDecl} (h : ∀ t, (change t).shell = t.shell)
    (r : Registry) (holder : Ident) :
    r.catalog.DiffersBy
      (fun type t u => r.find? type = some t ∧ u = if holder = type then change t else t)
      (r.modify holder change).catalog where
  resolve? _ := rfl
  shell type := by
    rw [catalog_find?, catalog_find?, find?_modify]
    split
    · cases r.find? type with
      | none => rfl
      | some t => exact congrArg some (h t)
    · rfl
  members type t u ht hu := by
    refine ⟨ht, ?_⟩
    rw [catalog_find?, find?_modify, show r.find? type = some t from ht] at hu
    split at hu <;> simp_all

/-- A search from `owner` for what `f` finds does not see a change of the holder: it does not come
to the holder, it finds the same there, or it ends before. -/
def Unseen (r : Registry) (owner holder : Ident) (change : TypeDecl → TypeDecl)
    (f : TypeDecl → Option α) : Prop :=
  holder ∈ r.catalog.ancestry owner →
    (∀ t, r.find? holder = some t → f (change t) = f t) ∨
    ∃ type ∈ (r.catalog.ancestry owner).takeWhile (· ≠ holder),
      ∃ t, r.find? type = some t ∧ (f t).isSome = true

lemma nearest_modify {change : TypeDecl → TypeDecl} (hshell : ∀ t, (change t).shell = t.shell)
    {r : Registry} {owner holder : Ident} {f : TypeDecl → Option α}
    (h : r.Unseen owner holder change f) :
    (r.modify holder change).catalog.nearest f owner = r.catalog.nearest f owner := by
  have hdiffers := r.differsBy_modify hshell holder
  by_cases hmem : holder ∈ r.catalog.ancestry owner
  · obtain hsame | ⟨type, htype, t, hfind, ht⟩ := h hmem
    · refine hdiffers.nearest fun a _ t u ⟨ht, hu⟩ => ?_
      by_cases ha : holder = a
      · rw [hu, if_pos ha, hsame t (ha ▸ ht)]
      · rw [hu, if_neg ha]
    · refine hdiffers.nearest_of_earlier List.takeWhile_append_dropWhile.symm
        (fun a ha t u ⟨_, hu⟩ => ?_) htype hfind ht
      have hne : a ≠ holder := by simpa using List.mem_takeWhile_imp ha
      rw [hu, if_neg hne.symm]
  · refine hdiffers.nearest fun a ha t u ⟨_, hu⟩ => ?_
    have hne : holder ≠ a := fun heq => hmem (heq ▸ ha)
    rw [hu, if_neg hne]

end Registry

namespace Context

variable {framework : Framework} {r s : Registry} {holder owner hint : Ident} {m : Member}
  {ref : Reference} {span : Span}

lemma resolve_modify {change : TypeDecl → TypeDecl} (hshell : ∀ t, (change t).shell = t.shell)
    (howner : Context.ownerOf ⟨r.catalog, framework⟩ hint ref span = .ok owner)
    (hfield : r.Unseen owner holder change
      (·.fields.find? (Context.publishes ⟨r.catalog, framework⟩ ref.name)))
    (hproperty : r.Unseen owner holder change (·.findProperty? ref.name)) :
    Context.resolve ⟨(r.modify holder change).catalog, framework⟩ hint ref span =
      Context.resolve ⟨r.catalog, framework⟩ hint ref span := by
  let ctx : Context := ⟨r.catalog, framework⟩
  have hdiffers := r.differsBy_modify hshell holder
  have hlookUp : Context.lookUp { ctx with catalog := (r.modify holder change).catalog } owner
      ref.name span = ctx.lookUp owner ref.name span :=
    lookUp_congr_of_found hdiffers (Registry.nearest_modify hshell hfield)
      (Registry.nearest_modify hshell hproperty)
  exact ctx.resolve_congr hdiffers howner hlookUp

/-- **Other members do not affect resolution.** Add a member to a registered type. A reference that
is looked up on `owner` means what it meant before, unless the type is the owner or among its bases
and the member is a field that publishes the name or a property of the name. It does even then if a
member of the same kind with a say in the name stands on a type that is met before, or on the type
itself. -/
theorem resolve_of_added
    (hadded : RegistryM.outcome (m.register holder) r = (.ok (), s))
    (howner : Context.ownerOf ⟨r.catalog, framework⟩ hint ref span = .ok owner) :
    let before : Context := ⟨r.catalog, framework⟩
    let after : Context := ⟨s.catalog, framework⟩
    (¬ (holder ∈ r.catalog.ancestry owner ∧ m.bearsOn before ref.name = true) →
      after.resolve hint ref span = before.resolve hint ref span) ∧
    (∀ type t, type ∈ (r.catalog.ancestry owner).takeWhile (· ≠ holder) ∨ type = holder →
      r.find? type = some t → m.hasRival before ref.name t = true →
        after.resolve hint ref span = before.resolve hint ref span) := by
  intro before after
  obtain rfl := Member.eq_modify_of_register hadded
  have hshell (t : TypeDecl) : (m.addTo t).shell = t.shell := Member.shell_addTo t m
  refine ⟨fun hnot => ?_, fun type t htype hfind hrival => ?_⟩
  · have hsame (hmem : holder ∈ r.catalog.ancestry owner) (t : TypeDecl) :=
      Member.find?_addTo (t := t) fun hbears => absurd ⟨hmem, hbears⟩ hnot
    exact resolve_modify hshell howner (fun hmem => .inl fun t _ => (hsame hmem t).1)
      fun hmem => .inl fun t _ => (hsame hmem t).2
  · obtain hearlier | rfl := htype
    · obtain ⟨hfound, hunseen⟩ | ⟨hfound, hunseen⟩ := Member.found_or_unseen_of_hasRival hrival
      · exact resolve_modify hshell howner (fun _ => .inr ⟨type, hearlier, t, hfind, hfound⟩)
          fun _ => .inl fun u _ => hunseen u
      · exact resolve_modify hshell howner (fun _ => .inl fun u _ => hunseen u)
          fun _ => .inr ⟨type, hearlier, t, hfind, hfound⟩
    · have hrival (u : TypeDecl) (hu : r.find? type = some u) :
          m.hasRival before ref.name u = true :=
        Option.some.inj (hfind.symm.trans hu) ▸ hrival
      exact resolve_modify hshell howner
        (fun _ => .inl fun u hu => (Member.find?_addTo fun _ => hrival u hu).1)
        fun _ => .inl fun u hu => (Member.find?_addTo fun _ => hrival u hu).2

theorem resolve_of_added_button :
    let toggle := (TypeDecl.reference "Toggle").id
    let button := (TypeDecl.reference "Button").id
    let control := (TypeDecl.reference "Control").id
    let fw := Framework.declared .customary
    let content := PropertyDecl.readWrite "Content" button fw.string
    let r := Registry.empty.insertAll (toggles (·.addProperty content))
    let resolved (r : Registry) (name : String) :=
      Context.resolve ⟨r.catalog, fw⟩ button (.unqualified name) .unknown
    let basic := Member.property (.readWrite "Content" control fw.object)
    let derived := Member.field (.descriptor "IsEnabledProperty" toggle fw.propertyBase)
    let withBasic := r.modify control basic.addTo
    let withDerived := r.modify toggle derived.addTo
    RegistryM.outcome (basic.register control) r = (.ok (), withBasic) ∧
      RegistryM.outcome (derived.register toggle) r = (.ok (), withDerived) ∧
      resolved r "Content" =
        .ok (.accessors ⟨"Content", button, content.getter, content.setters, fw.string⟩) ∧
      resolved withBasic "Content" = resolved r "Content" ∧
      resolved withDerived "IsEnabled" = resolved r "IsEnabled" := by
  intro toggle button control fw content r resolved basic derived withBasic withDerived
  have hregister (holder : Ident) (m : Member)
      (h : holder ∈ (toggles (·.addProperty content)).map (·.id)) :
      RegistryM.outcome (m.register holder) r = (.ok (), r.modify holder m.addTo) := by
    rw [Member.outcome_register, if_pos ((Registry.contains_insertAll _ holder).mpr (.inl h))]
  have hbasic := hregister control basic (by decide +kernel)
  have hderived := hregister toggle derived (by decide +kernel)
  have hcatalog := Registry.catalog_empty_insertAll (toggles (·.addProperty content))
  have hancestry : r.catalog.ancestry button = [button, control] := by
    rw [hcatalog]
    decide +kernel
  have hresolved : resolved r "Content" =
      .ok (.accessors ⟨"Content", button, content.getter, content.setters, fw.string⟩) := by
    simp only [resolved, r, hcatalog]
    decide +kernel
  let t := ((TypeDecl.reference "Button").derivedFrom control).addProperty content
  have hfind : r.find? button = some t := by
    rw [← Registry.catalog_find?, hcatalog]
    decide +kernel
  have ht : basic.hasRival ⟨r.catalog, fw⟩ "Content" t = true := by decide +kernel
  have howner (name : String) : Context.ownerOf ⟨r.catalog, fw⟩ button (.unqualified name) .unknown =
      .ok button := rfl
  obtain ⟨-, hrival⟩ := resolve_of_added hbasic (howner "Content")
  obtain ⟨hfar, -⟩ := resolve_of_added hderived (howner "IsEnabled")
  refine ⟨hbasic, hderived, hresolved, hrival button t (.inl ?_) hfind ht, hfar ?_⟩
  · rw [hancestry]
    decide +kernel
  · rw [hancestry]
    rintro ⟨hmem, -⟩
    have hne : toggle ∉ [button, control] := by decide +kernel
    exact hne hmem

end Context

end PropertyLowering
