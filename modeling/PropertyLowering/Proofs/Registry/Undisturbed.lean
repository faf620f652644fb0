import Mathlib.Data.Set.Function
import PropertyLowering.Proofs.Registry.Run

/-!
What a registration does to types that are registered already.

Duplicates are looked up by structured name, types are stored under the digest of the joined name,
parameters are stored without any look-up, and instances are indexed under a computed name. Main
statement: a registration that succeeds leaves declarations and names as they were exactly when no
identity that it declares is taken and no instance that it makes has the name of a registered type.
-/

namespace PropertyLowering

namespace TypeName

lemma text_parameter (definition : TypeName) (param : String) :
    (definition.parameter param).text = definition.text ++ "::" ++ param := by
  rw [text, parameter, String.intercalate_append_of_ne_nil (by simp) (by simp),
    String.intercalate_singleton, text]

lemma text_parameter_ne (definition : TypeName) (param : String) :
    (definition.parameter param).text ≠ definition.text := by
  intro h
  have hlen := congrArg String.length h
  rw [text_parameter, String.length_append, String.length_append] at hlen
  have hsep : "::".length = 2 := rfl
  omega

lemma text_parameter_inj {definition : TypeName} {p q : String}
    (h : (definition.parameter p).text = (definition.parameter q).text) : p = q := by
  rw [text_parameter, text_parameter] at h
  have hlist := congrArg String.toList h
  simp only [String.toList_append] at hlist
  exact String.toList_inj.mp (List.append_cancel_left hlist)

lemma text_eq_of_ident {m n : TypeName} {texts : Set String}
    (hdigest : Set.InjOn Digest.ofText texts) (hm : m.text ∈ texts) (hn : n.text ∈ texts)
    (h : m.ident = n.ident) : m.text = n.text :=
  hdigest hm hn (ident_eq_iff.mp h)

end TypeName

namespace Registry

/-- Whatever is registered keeps its declaration, and whatever name leads to a type still does. -/
structure Undisturbed (r s : Registry) : Prop where
  find? : ∀ type t, r.find? type = some t → s.find? type = some t
  resolve? : ∀ name type, r.resolve? name = some type → s.resolve? name = some type

/-- The names lead to registered types. -/
def NamesLead (r : Registry) : Prop :=
  ∀ name type, r.resolve? name = some type → r.contains type = true

lemma namesLead_empty : empty.NamesLead := by
  intro name type h
  simp at h

lemma NamesLead.insert {r : Registry} (h : r.NamesLead) (t : TypeDecl) :
    (r.insert t).NamesLead := by
  intro name type hname
  rw [contains_eq_isSome, find?_insert]
  split
  · rfl
  next hne =>
    rw [resolve?_insert] at hname
    split at hname
    · exact absurd (Option.some.inj hname) hne
    · exact contains_eq_isSome r type ▸ h name type hname

lemma NamesLead.insertAll {r : Registry} (h : r.NamesLead) (ts : List TypeDecl) :
    (r.insertAll ts).NamesLead := by
  induction ts generalizing r with
  | nil => exact h
  | cons t ts ih => exact ih (h.insert t)

lemma NamesLead.modify {r : Registry} (h : r.NamesLead) (holder : Ident)
    (change : TypeDecl → TypeDecl) : (r.modify holder change).NamesLead := by
  intro name type hname
  have htype := h name type (by rwa [resolve?_modify] at hname)
  rw [contains_eq_isSome] at htype ⊢
  rw [find?_modify]
  split <;> simpa using htype

lemma namesLead_builtins : builtins.NamesLead := namesLead_empty.insertAll _

end Registry

lemma Action.namesLead_after {r : Registry} (h : r.NamesLead) (a : Action) :
    (after r a).NamesLead := by
  rcases after_cases r a with ⟨x, ts, -, -, heq⟩ | ⟨holder, change, -, -, heq⟩ | ⟨-, heq⟩
  · rw [heq]
    exact h.insertAll _
  · rw [heq]
    exact h.modify holder change
  · rwa [heq]

namespace Registration

open RegistryM Registry

/-- The names under which a registration declares types and parameters. -/
def names : Registration → List TypeName
  | register t => [t.name]
  | registerGeneric t params => params.map t.name.parameter ++ [t.name]
  | instantiate _ _ => []

/-- No identity that a registration declares is taken by anything else, and no instance that it
makes has a name that leads somewhere. -/
structure Fresh (r : Registry) (x : Registration) : Prop where
  declarations : ∀ t ∈ x.declarations, ∀ u, r.find? t.id = some u → u = t
  instances : ∀ ts, x.instances r = .ok ts →
    ∀ t ∈ ts, t.flags.isParameter = false → r.resolve? t.name = none

lemma eq_of_declarations {x : Registration} (hnamed : ∀ t ∈ x.declarations, t.id = t.name.ident)
    (hdigest : Set.InjOn Digest.ofText {text | ∃ n ∈ x.names, n.text = text}) {t u : TypeDecl}
    (ht : t ∈ x.declarations) (hu : u ∈ x.declarations) (h : t.id = u.id) : t = u := by
  rw [hnamed t ht, hnamed u hu] at h
  cases x with
  | register v => rw [List.mem_singleton.mp ht, List.mem_singleton.mp hu]
  | instantiate definition args => cases ht
  | registerGeneric v params =>
    have hself : v.name.text ∈ {text | ∃ n ∈ (registerGeneric v params).names, n.text = text} :=
      ⟨_, by simp [names], rfl⟩
    have hparam (p) (hp : p ∈ params) : (v.name.parameter p).text ∈
        {text | ∃ n ∈ (registerGeneric v params).names, n.text = text} :=
      ⟨_, by simpa [names] using .inl ⟨p, hp, rfl⟩, rfl⟩
    rcases List.mem_append.mp ht with ht | ht <;> rcases List.mem_append.mp hu with hu | hu
    · obtain ⟨p, hp, rfl⟩ := List.mem_map.mp ht
      obtain ⟨q, hq, rfl⟩ := List.mem_map.mp hu
      rw [TypeName.text_parameter_inj
        (TypeName.text_eq_of_ident hdigest (hparam p hp) (hparam q hq) h)]
    · obtain ⟨p, hp, rfl⟩ := List.mem_map.mp ht
      obtain rfl := List.mem_singleton.mp hu
      exact absurd (TypeName.text_eq_of_ident hdigest (hparam p hp) hself h)
        (TypeName.text_parameter_ne _ _)
    · obtain rfl := List.mem_singleton.mp ht
      obtain ⟨q, hq, rfl⟩ := List.mem_map.mp hu
      exact absurd (TypeName.text_eq_of_ident hdigest (hparam q hq) hself h.symm)
        (TypeName.text_parameter_ne _ _)
    · rw [List.mem_singleton.mp ht, List.mem_singleton.mp hu]

variable {r : Registry} {x : Registration} {ts : List TypeDecl}

lemma find?_stored (hts : x.instances r = .ok ts) {type : Ident} {t : TypeDecl}
    (ht : r.find? type = some t) (hfree : type ∉ x.declarations.map (·.id)) :
    (r.insertAll (ts ++ x.declarations)).find? type = some t := by
  rw [find?_insertAll_of_forall_ne, ht]
  intro u hu heq
  rcases List.mem_append.mp hu with hu | hu
  · have hmissing := missing_instances hts u hu
    rw [heq, contains_of_find? ht] at hmissing
    cases hmissing
  · exact hfree (List.mem_map.mpr ⟨u, hu, heq⟩)

/-- A name is lost only to an instance. -/
lemma resolve?_stored (hts : x.instances r = .ok ts) {name : TypeName} {type : Ident}
    (hname : r.resolve? name = some type)
    (hfree : ∀ t ∈ ts, t.flags.isParameter = false → t.name ≠ name) :
    (r.insertAll (ts ++ x.declarations)).resolve? name = some type := by
  rw [resolve?_insertAll_of_forall_ne, hname]
  intro u hu hparam heq
  rcases List.mem_append.mp hu with hu | hu
  · exact hfree u hu hparam heq
  · have hnone := resolve?_declarations hts u hu hparam
    rw [heq, hname] at hnone
    cases hnone

lemma undisturbed_of_fresh (hts : x.instances r = .ok ts) (h : x.Fresh r) :
    r.Undisturbed (r.insertAll (ts ++ x.declarations)) where
  find? type t ht := by
    by_cases hfree : type ∈ x.declarations.map (·.id)
    · obtain ⟨u, hu, rfl⟩ := List.mem_map.mp hfree
      obtain ⟨v, hv, heq, hfind⟩ := exists_find?_insertAll (r := r) (List.mem_append_right ts hu)
      rw [← heq] at ht
      rcases List.mem_append.mp hv with hv | hv
      · have hmissing := missing_instances hts v hv
        rw [contains_of_find? ht] at hmissing
        cases hmissing
      · rw [hfind, h.declarations v hv t ht]
    · exact find?_stored hts ht hfree
  resolve? name type hname := by
    refine resolve?_stored hts hname fun t ht hparam heq => ?_
    have hnone := h.instances ts hts t ht hparam
    rw [heq, hname] at hnone
    cases hnone

lemma fresh_of_undisturbed (hlead : r.NamesLead)
    (hdistinct : ∀ t ∈ x.declarations, ∀ u ∈ x.declarations, t.id = u.id → t = u)
    (hts : x.instances r = .ok ts) (h : r.Undisturbed (r.insertAll (ts ++ x.declarations))) :
    x.Fresh r where
  declarations t ht u hu := by
    obtain ⟨v, hv, heq, hfind⟩ := exists_find?_insertAll (r := r) (List.mem_append_right ts ht)
    rw [h.find? _ _ hu] at hfind
    obtain rfl := Option.some.inj hfind
    rcases List.mem_append.mp hv with hv | hv
    · have hmissing := missing_instances hts u hv
      rw [heq, contains_of_find? hu] at hmissing
      cases hmissing
    · exact hdistinct u hv t ht heq
  instances us hus t ht hparam := by
    obtain rfl := Except.ok.inj (hts.symm.trans hus)
    rw [Option.eq_none_iff_forall_ne_some]
    intro type hname
    obtain ⟨v, hv, hvparam, heq, hresolve⟩ :=
      exists_resolve?_insertAll (r := r) (List.mem_append_left x.declarations ht) hparam
    rw [h.resolve? _ _ hname] at hresolve
    obtain rfl := Option.some.inj hresolve
    rcases List.mem_append.mp hv with hv | hv
    · have hmissing := missing_instances hts v hv
      rw [hlead _ _ hname] at hmissing
      cases hmissing
    · have hnone := resolve?_declarations hts v hv hvparam
      rw [heq, hname] at hnone
      cases hnone

/-- **A registration disturbs what it finds taken, and nothing else.** After any run, a registration
that succeeds leaves every declaration and every name as it was exactly when no identity that it
declares is taken and no instance that it makes has a name that leads somewhere. What is lost
otherwise is lost to a declaration under its identity, or to an instance under its name. -/
theorem undisturbed_iff_fresh {start : Registry} (hstart : start = .empty ∨ start = .builtins)
    (actions : List Action) {x : Registration} (hnamed : ∀ t ∈ x.declarations, t.id = t.name.ident)
    (hdigest : Set.InjOn Digest.ofText {text | ∃ n ∈ x.names, n.text = text}) {type : Ident}
    {s : Registry} (h : outcome x.perform (Action.runAll start actions) = (.ok type, s)) :
    let r := Action.runAll start actions
    (r.Undisturbed s ↔ x.Fresh r) ∧
      (∀ id t, r.find? id = some t →
        s.find? id = some t ∨ id ∈ x.declarations.map (·.id)) ∧
      ∀ name id, r.resolve? name = some id →
        s.resolve? name = some id ∨
          ∃ ts, x.instances r = .ok ts ∧ ∃ t ∈ ts, t.flags.isParameter = false ∧ t.name = name := by
  intro r
  have hlead : r.NamesLead := by
    refine Action.runAll_induction (P := NamesLead) (fun _ a h => Action.namesLead_after h a) ?_
      actions
    rcases hstart with rfl | rfl
    · exact namesLead_empty
    · exact namesLead_builtins
  obtain ⟨ts, hts, -, rfl⟩ := instances_of_outcome h
  refine ⟨⟨?_, undisturbed_of_fresh hts⟩, fun id t ht => ?_, fun name id hname => ?_⟩
  · refine fresh_of_undisturbed hlead (fun t ht u hu => ?_) hts
    exact eq_of_declarations hnamed hdigest ht hu
  · rw [or_iff_not_imp_right]
    exact find?_stored hts ht
  · rw [or_iff_not_imp_right]
    refine fun hfree => resolve?_stored hts hname fun t ht hparam heq => ?_
    exact hfree ⟨ts, hts, t, ht, hparam, heq⟩

lemma runAll_register {t : TypeDecl} (hbase : t.base = none) (htype : t.baseType = none) :
    Action.runAll .empty [.registration (.register t)] = Registry.empty.insert t := by
  have hstored : (Action.registration (.register t)).stored .empty = [t] := by
    obtain ⟨name, id, flags, base, baseType, params, definition, args, fields, properties,
      methods⟩ := t
    cases hbase
    cases htype
    simp [Action.stored, instances, missingBases, declarations]
  rw [Action.runAll_cons, Action.after_registration, hstored]
  rfl

theorem undisturbed_box :
    let r := Action.runAll .empty [.registration (.register (.reference "Button"))]
    let x := registerGeneric (.reference "Box`1") ["T"]
    ∃ s, outcome x.perform r = (.ok x.id, s) ∧ r.Undisturbed s := by
  intro r x
  have hr : r = Registry.empty.insert (.reference "Button") := runAll_register rfl rfl
  have hts : x.instances r = .ok [] := by
    have hname : r.resolve? (.global "Box`1") = none := by
      rw [hr, resolve?_insert, if_neg (by decide), resolve?_empty]
    exact if_neg (by simp [TypeDecl.reference, TypeDecl.ofName, hname])
  have hnamed : ∀ t ∈ x.declarations, t.id = t.name.ident := by
    simp [x, declarations, TypeDecl.generic, TypeDecl.parameterOf, TypeDecl.reference,
      TypeDecl.ofName]
  have hdigest : Set.InjOn Digest.ofText {text | ∃ n ∈ x.names, n.text = text} := by
    have hne : Digest.ofText "Box`1::T" ≠ Digest.ofText "Box`1" := by decide +kernel
    have hset : {text | ∃ n ∈ x.names, n.text = text} = {"Box`1::T", "Box`1"} := by
      ext text
      simp [x, names, TypeName.text_parameter, TypeDecl.reference, TypeDecl.ofName, eq_comm]
    rw [hset]
    intro a ha b hb heq
    rcases ha with rfl | rfl <;> rcases hb with rfl | rfl
    · rfl
    · exact absurd heq hne
    · exact absurd heq.symm hne
    · rfl
  have hfresh : x.Fresh r := by
    refine ⟨fun t ht u hu => ?_, fun us hus t ht => ?_⟩
    · have hother : (TypeDecl.reference "Button").id ≠ t.id := by
        have hbutton : ∀ t ∈ x.declarations, (TypeDecl.reference "Button").id ≠ t.id := by
          decide +kernel
        exact hbutton t ht
      rw [hr, find?_insert, if_neg hother, find?_empty] at hu
      cases hu
    · obtain rfl := Except.ok.inj (hts.symm.trans hus)
      cases ht
  have hout : outcome x.perform r = (.ok x.id, r.insertAll ([] ++ x.declarations)) := by
    rw [outcome_perform, hts]
  exact ⟨_, hout, (undisturbed_iff_fresh (.inl rfl) _ hnamed hdigest hout).1.mpr hfresh⟩

/-- Not all registrations that succeed leave alone what was there: two names of one text are told
apart by the look-up of duplicates and not by their identities. -/
theorem duplicate_registered :
    ¬ ∀ (actions : List Action) (x : Registration) (type : Ident) (s : Registry),
      (∀ y, y = x ∨ .registration y ∈ actions → ∀ t ∈ y.declarations, t.id = t.name.ident) →
        Set.InjOn Digest.ofText
          {text | ∃ y, (y = x ∨ .registration y ∈ actions) ∧ ∃ n ∈ y.names, n.text = text} →
        outcome x.perform (Action.runAll .empty actions) = (.ok type, s) →
          (Action.runAll .empty actions).Undisturbed s := by
  intro hclaim
  let first := TypeDecl.reference "A::B"
  let second := TypeDecl.ofName ⟨"B", ["A"]⟩ .none
  let actions := [Action.registration (.register first)]
  have hrun : Action.runAll .empty actions = Registry.empty.insert first := runAll_register rfl rfl
  have hts : (register second).instances (Action.runAll .empty actions) = .ok [] := by
    refine if_neg ?_
    rw [hrun, resolve?_insert, if_neg (by decide), resolve?_empty]
    exact Bool.false_ne_true
  have hsame : first.id = second.id := congrArg Ident.ofTypeName (by decide)
  have hcases (y : Registration) (hy : y = register second ∨ .registration y ∈ actions) :
      y = register second ∨ y = register first := by
    rcases hy with rfl | hy
    · exact .inl rfl
    · exact .inr (Action.registration.inj (List.mem_singleton.mp hy))
  have hkept := hclaim actions (register second) second.id
    ((Action.runAll .empty actions).insert second)
    (fun y hy t ht => by
      rcases hcases y hy with rfl | rfl <;> rw [List.mem_singleton.mp ht] <;> rfl)
    (by
      rintro a ⟨y, hy, m, hm, rfl⟩ b ⟨z, hz, n, hn, rfl⟩ -
      rcases hcases y hy with rfl | rfl <;> rcases hcases z hz with rfl | rfl <;>
        rw [List.mem_singleton.mp hm, List.mem_singleton.mp hn] <;> decide)
    (by rw [outcome_perform, hts]; rfl)
  have hfirst := hkept.find? first.id first (by rw [hrun, find?_insert, if_pos rfl])
  rw [find?_insert, if_pos hsame.symm] at hfirst
  exact absurd (congrArg TypeDecl.name (Option.some.inj hfirst)) (by decide)

end Registration

end PropertyLowering
