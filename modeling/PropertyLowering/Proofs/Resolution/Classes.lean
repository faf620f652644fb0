import PropertyLowering.Proofs.Framework.Installation
import PropertyLowering.Proofs.Reference.Grammar
import PropertyLowering.Proofs.Resolution.Setters

/-!
Which written references mean a class.

The owner that is reserved for classes comes before any type of that name, and its case does not
count. Main statement: the written text and the reserved owner decide whether a reference means a
class and which, whatever the catalog declares and wherever names are looked up, and just these
references are refused as targets. All others are targets, with one error reported in other words.
-/

namespace PropertyLowering

/-- An upper case letter of ASCII and the same letter in lower case. -/
def IsCaseOf (upper lower : Char) : Prop :=
  'A' ≤ upper ∧ upper ≤ 'Z' ∧ lower.toNat = upper.toNat + 32

/-- The characters are equal, or one letter of ASCII in both cases. -/
def SameLetter (a b : Char) : Prop := a = b ∨ IsCaseOf a b ∨ IsCaseOf b a

lemma toNat_toLower (c : Char) :
    c.toLower.toNat = if 'A' ≤ c ∧ c ≤ 'Z' then c.toNat + 32 else c.toNat := by
  unfold Char.toLower
  change _ = if c.val ≥ 'A'.val ∧ c.val ≤ 'Z'.val then c.toNat + 32 else c.toNat
  by_cases hupper : c.val ≥ 'A'.val ∧ c.val ≤ 'Z'.val
  · have hle : c.toNat ≤ 90 := hupper.2
    rw [dif_pos hupper, if_pos hupper]
    change (c.val + 32).toNat = c.val.toNat + 32
    rw [UInt32.toNat_add]
    exact Nat.mod_eq_of_lt (Nat.lt_of_le_of_lt (Nat.add_le_add_right hle 32) (by decide))
  · rw [dif_neg hupper, if_neg hupper]

lemma toLower_eq_iff {a b : Char} : a.toLower = b.toLower ↔ SameLetter a b := by
  have heq (x y : Char) : x = y ↔ x.toNat = y.toNat :=
    ⟨congrArg Char.toNat, fun h => Char.ext (UInt32.toNat_inj.mp h)⟩
  have hle (x y : Char) : x ≤ y ↔ x.toNat ≤ y.toNat := Iff.rfl
  have hbounds : 'A'.toNat = 65 ∧ 'Z'.toNat = 90 := ⟨rfl, rfl⟩
  rw [heq, toNat_toLower, toNat_toLower, SameLetter, IsCaseOf, IsCaseOf]
  simp only [heq a b, hle, hbounds]
  split_ifs <;> omega

lemma equalIgnoringCase_iff {a b : String} :
    equalIgnoringCase a b = true ↔ List.Forall₂ SameLetter a.toList b.toList := by
  rw [equalIgnoringCase, beq_iff_eq, ← List.forall₂_eq_eq_eq, List.forall₂_map_left_iff,
    List.forall₂_map_right_iff]
  simp only [toLower_eq_iff]

namespace Reference

/-- The text spells a name with the reserved owner, up to case, and without a namespace. -/
def MeansClass (reserved raw className : String) : Prop :=
  ∃ owner, parseChars raw.toList = .ok (.qualified owner className) ∧
    List.Forall₂ SameLetter owner.toList reserved.toList

lemma name_ne_empty {raw : String} {r : Reference} (h : parseChars raw.toList = .ok r) :
    r.name ≠ "" := by
  obtain ⟨-, token, -, hspells, -⟩ := Setting.exists_of_parseChars h
  intro hempty
  refine hspells.isIdentifier_name.ne_nil ?_
  rw [hempty]
  rfl

end Reference

namespace Context

variable {ctx : Context} {hint owner : Ident} {r : Reference} {name className reason : String}
  {span place : Span}

lemma isSelector_iff (hname : r.name ≠ "") :
    ctx.isSelector r = true ↔ ∃ owner, r = .qualified owner r.name ∧
      List.Forall₂ SameLetter owner.toList ctx.framework.selectorOwner.toList := by
  obtain ⟨space, owner, name⟩ := r
  have hnonempty : name.isEmpty = false := by simpa using hname
  rcases space with _ | space <;> rcases owner with _ | owner <;>
    simp [isSelector, Reference.qualified, hnonempty, equalIgnoringCase_iff]

lemma lookUp_ne_selector : ctx.lookUp owner name span ≠ .ok (.selector className) := by
  obtain ⟨f, -, ⟨p, -, -, h⟩ | h⟩ | ⟨p, -, -, ⟨v, -, h⟩ | h⟩ | ⟨-, -, h⟩ :=
    lookUp_cases ctx owner name span <;> simp [h]

lemma unknownType_of_ownerOf {e : CompileError} (h : ctx.ownerOf hint r span = .error e) :
    ∃ unknown, e = .unknownType unknown span := by
  unfold ownerOf at h
  cases howner : r.owner with
  | none => simp [howner] at h
  | some owner =>
    cases htype : ctx.catalog.resolve? (.ofMarkup r.space owner) with
    | some type => simp [howner, htype] at h
    | none =>
      simp only [howner, htype, Except.error.injEq] at h
      exact ⟨_, h.symm⟩

lemma resolve_ne_typeMismatch :
    ctx.resolve hint r span ≠ .error (.typeMismatch reason place) := by
  cases hselector : ctx.isSelector r with
  | true => simp [resolve, hselector]
  | false =>
    cases howner : ctx.ownerOf hint r span with
    | error e =>
      obtain ⟨unknown, rfl⟩ := unknownType_of_ownerOf howner
      simp [resolve, hselector, howner, bind, Except.bind]
    | ok owner =>
      rw [resolve_eq_lookUp hselector howner]
      obtain ⟨f, -, ⟨p, -, -, h⟩ | h⟩ | ⟨p, -, -, ⟨v, -, h⟩ | h⟩ | ⟨-, -, h⟩ :=
        lookUp_cases ctx owner r.name span <;> simp [h]

end Context

/-- The complaint about a reference as it is made about a target. -/
def CompileError.ofTarget : CompileError → CompileError
  | .unresolvedProperty _ name span => .propertyNotFound name span
  | e => e

lemma Framework.selectorOwner_of_find {c : Catalog} {names : FrameworkNames} {fw : Framework}
    (h : find c names = .ok fw) : fw.selectorOwner = names.selectorOwner := by
  have howner :
      selectorOwner <$> find c names = (fun _ => names.selectorOwner) <$> find c names := by
    simp only [find, map_bind, map_pure]
  rw [h] at howner
  exact Except.ok.inj howner

namespace Compiler

variable {c : Compiler} {hint : Ident} {raw className reason : String} {span place : Span}

/-- The reference is one to a class. -/
def Selects (c : Compiler) (hint : Ident) (raw : String) (span : Span) (className : String) :
    Prop :=
  ∃ n, c.reference hint raw span = .ok n ∧ n.descriptor = .selector className

lemma selects_iff :
    c.Selects hint raw span className ↔
      Reference.MeansClass c.framework.selectorOwner raw className := by
  constructor
  · rintro ⟨n, hn, hdescriptor⟩
    obtain ⟨r, d, hparse, hresolve, rfl⟩ := reference_eq_ok.mp hn
    obtain rfl : d = .selector className := by cases d <;> exact hdescriptor
    rw [Reference.parse_eq_ok] at hparse
    have hnonempty := Reference.name_ne_empty hparse
    obtain ⟨hselector, hname⟩ | ⟨-, owner, -, hlookUp⟩ := Context.resolve_eq_ok.mp hresolve
    · obtain ⟨owner, hr, hsame⟩ := (Context.isSelector_iff hnonempty).mp hselector
      rw [← Descriptor.selector.inj hname] at hr
      exact ⟨owner, hr ▸ hparse, hsame⟩
    · exact absurd hlookUp Context.lookUp_ne_selector
  · rintro ⟨owner, hparse, hsame⟩
    have hselector : c.isSelector (.qualified owner className) = true :=
      (Context.isSelector_iff (Reference.name_ne_empty hparse)).mpr ⟨owner, rfl, hsame⟩
    have hresolve : c.resolve hint (.qualified owner className) span = .ok (.selector className) :=
      Context.resolve_eq_ok.mpr (.inl ⟨hselector, rfl⟩)
    exact ⟨_, reference_eq_ok.mpr ⟨_, _, Reference.parse_eq_ok.mpr hparse, hresolve, rfl⟩, rfl⟩

lemma reference_ne_typeMismatch :
    c.reference hint raw span ≠ .error (.typeMismatch reason place) := by
  unfold reference Reference.parse
  cases Reference.parseChars raw.toList with
  | error fault => simp [bind, Except.bind]
  | ok r =>
    cases hresolve : c.resolve hint r span with
    | ok d => simp [hresolve, bind, Except.bind, pure, Except.pure]
    | error e =>
      simp only [hresolve, bind, Except.bind]
      rintro ⟨⟩
      exact Context.resolve_ne_typeMismatch hresolve

lemma target_of_selects (h : c.Selects hint raw span className) :
    c.target hint raw span =
      .error (.typeMismatch s!"class selector '{className}' is read-only" span) := by
  obtain ⟨n, hn, hdescriptor⟩ := h
  simp only [target, hn, hdescriptor]

lemma target_of_not_selects (h : ∀ className, ¬ c.Selects hint raw span className) :
    c.target hint raw span = (c.reference hint raw span).mapError (·.ofTarget) := by
  unfold target
  cases hn : c.reference hint raw span with
  | error e => cases e <;> rfl
  | ok n =>
    cases hdescriptor : n.descriptor with
    | selector className => exact absurd ⟨n, hn, hdescriptor⟩ (h className)
    | field p => simp only [hdescriptor]; rfl
    | accessors p => simp only [hdescriptor]; rfl

lemma target_eq_typeMismatch :
    c.target hint raw span = .error (.typeMismatch reason place) ↔
      ∃ className, c.Selects hint raw span className ∧
        reason = s!"class selector '{className}' is read-only" ∧ place = span := by
  constructor
  · intro h
    by_cases hselects : ∃ className, c.Selects hint raw span className
    · obtain ⟨className, hselects⟩ := hselects
      rw [target_of_selects hselects] at h
      cases h
      exact ⟨className, hselects, rfl, rfl⟩
    · rw [target_of_not_selects (not_exists.mp hselects)] at h
      cases hreference : c.reference hint raw span with
      | ok n => rw [hreference] at h; cases h
      | error e =>
        rw [hreference] at h
        cases e <;> cases h
        exact absurd hreference reference_ne_typeMismatch
  · rintro ⟨className, hselects, rfl, rfl⟩
    exact target_of_selects hselects

/-- **The written text decides about classes.** Take two compilers for the same names, over whatever
catalogs. A reference means a class just where its text has no namespace and the reserved owner, in
either case of its letters, and the class is the name that is written. So both compilers refer to
the same class or neither refers to one, wherever they look names up, even where there is a type of
the owner's name that publishes the property. As a target the reference is refused as read-only if
it means a class, and otherwise it is the reference itself, but for a property that was not found,
which is reported without its owner. -/
theorem selects_iff_meansClass {catalog catalog' : Catalog} {names : FrameworkNames}
    {slotBase slotBase' : Nat} {c d : Compiler} (hc : make catalog names slotBase = .ok c)
    (hd : make catalog' names slotBase' = .ok d) (raw : String) (hint hint' : Ident)
    (span span' : Span) :
    (∀ className, c.Selects hint raw span className ↔
      Reference.MeansClass names.selectorOwner raw className) ∧
    (∀ className, c.Selects hint raw span className ↔ d.Selects hint' raw span' className) ∧
    (∀ reason place, c.target hint raw span = .error (.typeMismatch reason place) ↔
      ∃ className, Reference.MeansClass names.selectorOwner raw className ∧
        reason = s!"class selector '{className}' is read-only" ∧ place = span) ∧
    ((∀ className, ¬ Reference.MeansClass names.selectorOwner raw className) →
      c.target hint raw span = (c.reference hint raw span).mapError (·.ofTarget)) := by
  obtain ⟨-, fw, hfind, rfl⟩ := make_eq_ok.mp hc
  obtain ⟨-, fw', hfind', rfl⟩ := make_eq_ok.mp hd
  rw [← Framework.selectorOwner_of_find hfind]
  refine ⟨fun _ => selects_iff, fun _ => ?runs, fun reason place => ?refused, fun h => ?other⟩
  case runs =>
    have hsame : fw'.selectorOwner = fw.selectorOwner :=
      (Framework.selectorOwner_of_find hfind').trans (Framework.selectorOwner_of_find hfind).symm
    rw [selects_iff, selects_iff, hsame]
  case refused =>
    rw [target_eq_typeMismatch]
    simp only [selects_iff]
  case other => exact target_of_not_selects fun className => selects_iff.not.mpr (h className)

/-- The types of a framework, of which the one that looks classes up has the given members. -/
def frameworkTypes (members : TypeDecl → TypeDecl) : List TypeDecl :=
  let names := FrameworkNames.customary
  let fw := Framework.declared names
  [names.baseDefinition,
    { TypeDecl.ofName names.propertyObject .reference with
      methods := [fw.bind, fw.setValue, fw.setStyledValue] },
    members ((TypeDecl.ofName names.classes .reference).addMethod fw.hasClass),
    { TypeDecl.reference "Property<bool>" with
      id := fw.classProperty, definition := some fw.typedProperty, args := [fw.bool] }] ++
  names.types.map (TypeDecl.ofName · .reference)

def overTypes (members : TypeDecl → TypeDecl) : Compiler :=
  { Context.declared .customary (frameworkTypes members) with slotBase := 0 }

theorem selects_iff_meansClass_published :
    let fw := Framework.declared .customary
    let active : FieldDecl := .descriptor "activeProperty" fw.classes fw.classProperty
    let plain := overTypes id
    let published := overTypes (·.addField active)
    let raw := " (cLASSES.active )"
    make plain.catalog .customary 0 = .ok plain ∧
      make published.catalog .customary 0 = .ok published ∧
      plain.descriptorField? fw.classes "active" = none ∧
      published.descriptorField? fw.classes "active" = some active ∧
      plain.Selects fw.string raw .unknown "active" ∧
      published.Selects fw.classes raw .unknown "active" ∧
      published.target fw.classes raw .unknown =
        .error (.typeMismatch "class selector 'active' is read-only" .unknown) := by
  intro fw active plain published raw
  have hplain : make plain.catalog .customary 0 = .ok plain :=
    make_eq_ok.mpr ⟨by decide, _, by decide +kernel, rfl⟩
  have hpublished : make published.catalog .customary 0 = .ok published :=
    make_eq_ok.mpr ⟨by decide, _, by decide +kernel, rfl⟩
  have hmeans : Reference.MeansClass FrameworkNames.customary.selectorOwner raw "active" :=
    ⟨"cLASSES", by decide +kernel, equalIgnoringCase_iff.mp (by decide +kernel)⟩
  obtain ⟨hiff, hruns, hrefused, -⟩ :=
    selects_iff_meansClass hpublished hplain raw fw.classes fw.string .unknown .unknown
  have hselects := (hiff _).mpr hmeans
  exact ⟨hplain, hpublished, by decide +kernel, by decide +kernel, (hruns _).mp hselects, hselects,
    (hrefused _ _).mpr ⟨_, hmeans, rfl, rfl⟩⟩

end Compiler

end PropertyLowering
