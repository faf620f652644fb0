import PropertyLowering.Proofs.Assignment.Selection
import PropertyLowering.Proofs.Catalog.Walks
import PropertyLowering.Proofs.Resolution.Setters

/-!
Setters that accept the same arguments.

The first setter that accepts the arguments is selected, so the order of setters counts where two of
them accept the same. What tells setters of one arity apart is the last argument, which is a
binding, the unset value or a value of the property. Main statement: if no type can stand for two
of these, then no two setters of a property overlap, and any order of them selects the same.
-/

namespace PropertyLowering

/-- What is assigned to a property, apart from a priority. -/
inductive Subject where
  | value
  | binding
  | unset
  deriving DecidableEq, Repr

/-- The type that stands for the subject of an assignment. -/
def Subject.type (fw : Framework) (valueType : Ident) : Subject → Ident
  | value => valueType
  | binding => fw.binding
  | unset => fw.unsetValueType

namespace Convention

def subject : Convention → Subject
  | plain | plainWithPriority => .value
  | binding | bindingWithPriority => .binding
  | unset => .unset

lemma params_eq (fw : Framework) (valueType : Ident) (k : Convention) :
    k.params fw valueType =
      (if k.hasPriority then [fw.bindingPriority] else []) ++ [k.subject.type fw valueType] := by
  cases k <;> rfl

lemma takesValue_iff {k : Convention} : k.takesValue = true ↔ k.subject = .value := by
  cases k <;> decide

lemma eq_of_subject {k l : Convention} (hsubject : k.subject = l.subject)
    (hpriority : k.hasPriority = l.hasPriority) : k = l := by
  cases k <;> cases l <;> first | rfl | exact absurd hsubject (by decide) |
    exact absurd hpriority (by decide)

end Convention

namespace FieldProperty

variable {ctx : Context} {p : FieldProperty} {args : List Argument} {k l : Convention} {i j : Nat}

/-- No type can stand for two of a binding, the unset value and a value of the property. -/
def Unmistakable (ctx : Context) (p : FieldProperty) : Prop :=
  ∀ (type : Ident) (s t : Subject),
    ctx.catalog.isAssignable type (s.type ctx.framework p.valueType) = true →
    ctx.catalog.isAssignable type (t.type ctx.framework p.valueType) = true → s = t

lemma accepts_setter (h : (p.setter ctx k i).accepts ctx.catalog args = true) :
    args.length = (if k.hasPriority then 2 else 1) ∧
      ∃ a, args.getLast? = some a ∧
        (p.setter ctx k i).acceptsArgument ctx.catalog
          (k.subject.type ctx.framework p.valueType) a = true := by
  rw [Setter.accepts_iff_forall₂] at h
  change List.Forall₂ _ (k.params ctx.framework p.valueType) args at h
  rw [Convention.params_eq] at h
  cases hpriority : k.hasPriority with
  | false =>
    rw [hpriority] at h
    cases h with
    | cons ha hrest =>
      cases hrest
      exact ⟨rfl, _, rfl, ha⟩
  | true =>
    rw [hpriority] at h
    cases h with
    | cons _ hrest =>
      cases hrest with
      | cons ha hrest =>
        cases hrest
        exact ⟨rfl, _, rfl, ha⟩

/-- Setters that accept the same arguments follow one convention. -/
lemma convention_eq_of_accepts (hp : p.Unmistakable ctx)
    (hk : (p.setter ctx k i).accepts ctx.catalog args = true)
    (hl : (p.setter ctx l j).accepts ctx.catalog args = true) : k = l := by
  obtain ⟨hlength, a, hlast, ha⟩ := accepts_setter hk
  obtain ⟨hlength', a', hlast', ha'⟩ := accepts_setter hl
  obtain rfl : a = a' := Option.some.inj (hlast.symm.trans hlast')
  refine Convention.eq_of_subject ?subject ?priority
  case priority =>
    rw [hlength] at hlength'
    cases hk : k.hasPriority <;> cases hl : l.hasPriority <;> simp [hk, hl] at hlength' ⊢
  case subject =>
    cases a with
    | null =>
      have hvalue := Convention.takesValue_iff.mp (Setter.acceptsNull_setter ha).1
      have hvalue' := Convention.takesValue_iff.mp (Setter.acceptsNull_setter ha').1
      rw [hvalue, hvalue']
    | typed type => exact hp type _ _ ha ha'

lemma nodup_conventions (p : FieldProperty) : p.conventions.Nodup := by
  unfold conventions takesPriority
  cases p.isStyled <;> cases p.isAttached <;> cases p.allowsBinding <;> decide

lemma nodup_convention_setters : ((p.setters ctx).map (·.convention)).Nodup := by
  rw [map_convention_setters]
  exact p.nodup_conventions

lemma eq_of_accepts (hp : p.Unmistakable ctx) {s t : Setter} (hs : s ∈ p.setters ctx)
    (ht : t ∈ p.setters ctx) (haccepts : s.accepts ctx.catalog args = true)
    (haccepts' : t.accepts ctx.catalog args = true) : s = t := by
  refine List.inj_on_of_nodup_map nodup_convention_setters hs ht ?_
  obtain ⟨k, i, rfl⟩ := mem_setters hs
  obtain ⟨l, j, rfl⟩ := mem_setters ht
  exact convention_eq_of_accepts hp haccepts haccepts'

lemma selectSetter_eq_some_iff (hp : p.Unmistakable ctx) {setters : List Setter}
    (hperm : setters.Perm (p.setters ctx)) {s : Setter} :
    selectSetter ctx.catalog setters args = some s ↔
      s ∈ p.setters ctx ∧ s.accepts ctx.catalog args = true := by
  constructor
  · intro h
    have haccepts := List.find?_some h
    exact ⟨hperm.mem_iff.mp (List.mem_of_find?_eq_some h), haccepts⟩
  · rintro ⟨hs, haccepts⟩
    have hsome : (selectSetter ctx.catalog setters args).isSome = true :=
      List.find?_isSome.mpr ⟨s, hperm.mem_iff.mpr hs, haccepts⟩
    obtain ⟨t, ht⟩ := Option.isSome_iff_exists.mp hsome
    have hmem := hperm.mem_iff.mp (List.mem_of_find?_eq_some ht)
    have haccepts' := List.find?_some ht
    rw [ht, eq_of_accepts hp hmem hs haccepts' haccepts]

lemma accepts_singleton (hk : k.hasPriority = false) {type : Ident}
    (h : ctx.catalog.isAssignable type (k.subject.type ctx.framework p.valueType) = true) :
    (p.setter ctx k i).accepts ctx.catalog [.typed type] = true := by
  rw [Setter.accepts_iff_forall₂]
  change List.Forall₂ _ (k.params ctx.framework p.valueType) _
  rw [Convention.params_eq, hk]
  exact .cons h .nil

lemma exists_selectSetter (hp : p.Unmistakable ctx) (hmem : k ∈ p.conventions)
    (hk : k.hasPriority = false) {type : Ident}
    (h : ctx.catalog.isAssignable type (k.subject.type ctx.framework p.valueType) = true) :
    ∃ s, s.convention = k ∧ selectSetter ctx.catalog (p.setters ctx) [.typed type] = some s := by
  have hlist : (p.setters ctx).map (·.convention) = p.conventions := map_convention_setters
  rw [← hlist] at hmem
  obtain ⟨s, hs, rfl⟩ := List.mem_map.mp hmem
  refine ⟨s, rfl, (selectSetter_eq_some_iff hp (.refl _)).mpr ⟨hs, ?_⟩⟩
  obtain ⟨k, i, rfl⟩ := mem_setters hs
  exact accepts_singleton hk h

lemma unset_mem_conventions (p : FieldProperty) : .unset ∈ p.conventions := by
  rw [conventions_eq]
  split <;> simp [Convention.isBinding]

lemma binding_mem_conventions (h : p.allowsBinding = true) : .binding ∈ p.conventions := by
  rw [conventions_eq]
  split <;> simp [h]

/-- **Where types tell subjects apart, the order of setters does not count.** Say that no type can
stand for two of a binding, the unset value and a value of the property. Then no two setters accept
the same arguments, however many these are and whichever of them are null. So whatever the order of
the setters, the same one is selected, namely the one that accepts the arguments: the setter for the
unset value stands in the way of no other, nor any other in its way. A single argument that can
stand for the unset value unsets, and one that can stand for a binding binds if bindings are
allowed. -/
theorem selectSetter_of_unmistakable (hp : p.Unmistakable ctx) :
    (∀ args, (p.setters ctx).Pairwise fun s t =>
      ¬ (s.accepts ctx.catalog args = true ∧ t.accepts ctx.catalog args = true)) ∧
    (∀ args (setters : List Setter), setters.Perm (p.setters ctx) →
      selectSetter ctx.catalog setters args = selectSetter ctx.catalog (p.setters ctx) args ∧
      ∀ s, selectSetter ctx.catalog setters args = some s ↔
        s ∈ p.setters ctx ∧ s.accepts ctx.catalog args = true) ∧
    (∀ type, ctx.catalog.isAssignable type ctx.framework.unsetValueType = true →
      ∃ s, s.convention = .unset ∧
        selectSetter ctx.catalog (p.setters ctx) [.typed type] = some s) ∧
    (p.allowsBinding = true →
      ∀ type, ctx.catalog.isAssignable type ctx.framework.binding = true →
        ∃ s, s.convention = .binding ∧
          selectSetter ctx.catalog (p.setters ctx) [.typed type] = some s) := by
  refine ⟨fun args => ?disjoint, fun args setters hperm => ⟨?order, fun s => ?selected⟩,
    fun type h => ?unset, fun hallowed type h => ?binding⟩
  case disjoint =>
    have hnodup : (p.setters ctx).Nodup := .of_map _ nodup_convention_setters
    exact hnodup.imp_of_mem fun hs ht hne h => hne (eq_of_accepts hp hs ht h.1 h.2)
  case order =>
    ext1 s
    rw [selectSetter_eq_some_iff hp hperm, selectSetter_eq_some_iff hp (.refl _)]
  case selected => exact selectSetter_eq_some_iff hp hperm
  case unset => exact exists_selectSetter hp p.unset_mem_conventions rfl h
  case binding => exact exists_selectSetter hp (binding_mem_conventions hallowed) rfl h

/-- Types of which a binding, the unset value and a string are told apart, and a binding that
reflects. -/
def sentinels : List TypeDecl :=
  [.ofName FrameworkNames.customary.string .reference,
    .ofName FrameworkNames.customary.binding .abstractReference,
    .ofName FrameworkNames.customary.unsetValueType .reference,
    .ofName FrameworkNames.customary.bindingPriority .enum,
    (TypeDecl.reference "ReflectionBinding").derivedFrom FrameworkNames.customary.binding.ident]

def sentinelContext : Context := .declared .customary sentinels

lemma unmistakable_text : Setter.textProperty.Unmistakable sentinelContext := by
  intro type s t hs ht
  cases hfind : sentinelContext.catalog.find? type with
  | none =>
    have hself (u : Ident) (hu : sentinelContext.catalog.isAssignable type u = true) :
        type = u := by
      obtain ⟨i, -, hi⟩ := Catalog.isAssignable_iff_baseAfter.mp hu
      cases i with
      | zero => exact Option.some.inj hi
      | succ i => simp [Catalog.baseAfter, Catalog.baseOf?, hfind] at hi
    have hsame := (hself _ hs).symm.trans (hself _ ht)
    cases s <;> cases t <;> first | rfl | exact absurd hsame (by decide +kernel)
  | some u =>
    have hlisted : (Catalog.listed sentinels).find? type = some u := hfind
    obtain ⟨hmem, rfl⟩ := Catalog.mem_of_find?_listed hlisted
    have hknown (s t : Subject) : s ≠ t → ∀ u ∈ sentinels, ¬
        (sentinelContext.catalog.isAssignable u.id
            (s.type sentinelContext.framework Setter.textProperty.valueType) = true ∧
          sentinelContext.catalog.isAssignable u.id
            (t.type sentinelContext.framework Setter.textProperty.valueType) = true) := by
      cases s <;> cases t <;> decide +kernel
    by_contra hne
    exact hknown s t hne u hmem ⟨hs, ht⟩

theorem selectSetter_of_unmistakable_reflection :
    let reflection := (TypeDecl.reference "ReflectionBinding").id
    let fw := sentinelContext.framework
    Setter.textProperty.Unmistakable sentinelContext ∧
      reflection ≠ fw.binding ∧
      sentinelContext.catalog.isAssignable reflection fw.binding = true ∧
      ∃ s, s.convention = .binding ∧
        selectSetter sentinelContext.catalog (Setter.textProperty.setters sentinelContext)
          [.typed reflection] = some s ∧
        selectSetter sentinelContext.catalog (Setter.textProperty.setters sentinelContext).reverse
          [.typed reflection] = some s := by
  intro reflection fw
  have hderives : sentinelContext.catalog.isAssignable reflection fw.binding = true := by
    decide +kernel
  obtain ⟨-, horder, -, hbinding⟩ := selectSetter_of_unmistakable unmistakable_text
  obtain ⟨s, hs, hselected⟩ := hbinding rfl reflection hderives
  refine ⟨unmistakable_text, by decide +kernel, hderives, s, hs, hselected, ?_⟩
  rw [(horder _ _ (List.reverse_perm _)).1, hselected]

end FieldProperty

end PropertyLowering
