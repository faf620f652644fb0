import PropertyLowering.Framework.Install
import PropertyLowering.Proofs.Registry.Run

/-!
How far an installation has come.

An installation takes names and identities in a fixed order. At each point, what it has taken is
found under them, and what it has yet to take is as it was at the start, among the scalar types. So
each step is understood from the next name and identity alone, provided that all of them differ.
-/

namespace PropertyLowering

/-- A name and an identity that belong together. -/
structure Key where
  name : TypeName
  id : Ident
  deriving DecidableEq

/-- A name with the identity of the type that it stands for. -/
def TypeName.key (n : TypeName) : Key := ⟨n, n.ident⟩

def TypeDecl.key (t : TypeDecl) : Key := ⟨t.name, t.id⟩

namespace Key

/-- Names differ from each other, and so do identities. -/
def Apart (keys : List Key) : Prop := keys.Pairwise fun a b => a.name ≠ b.name ∧ a.id ≠ b.id

lemma Apart.perm {keys others : List Key} (h : Apart keys) (hperm : keys.Perm others) :
    Apart others :=
  List.Pairwise.perm h hperm fun hab => ⟨hab.1.symm, hab.2.symm⟩

end Key

namespace Registry

open Key

/-- What is done is found, and what is to do is as at the start. -/
structure Progress (r : Registry) (done : List TypeDecl) (todo : List Key) : Prop where
  apart : Apart (done.map TypeDecl.key ++ todo)
  find? : ∀ t ∈ done, r.find? t.id = some t
  resolve? : ∀ t ∈ done, t.flags.isParameter = false → r.resolve? t.name = some t.id
  find?_todo : ∀ k ∈ todo, r.find? k.id = builtins.find? k.id
  resolve?_todo : ∀ k ∈ todo, r.resolve? k.name = builtins.resolve? k.name

namespace Progress

variable {r : Registry} {done : List TypeDecl} {todo : List Key} {t : TypeDecl}

lemma start (h : Apart todo) : builtins.Progress [] todo where
  apart := h
  find? := by simp
  resolve? := by simp
  find?_todo _ _ := rfl
  resolve?_todo _ _ := rfl

variable {n : TypeName}

lemma find?_ident (h : r.Progress done todo) (ht : t ∈ done) (hkey : t.key = n.key) :
    r.find? n.ident = some t :=
  (Key.mk.inj hkey).2 ▸ h.find? t ht

lemma contains_ident (h : r.Progress done todo) (ht : t ∈ done) (hkey : t.key = n.key) :
    r.contains n.ident = true :=
  contains_of_find? (h.find?_ident ht hkey)

lemma resolve?_ident (h : r.Progress done todo) (ht : t ∈ done) (hkey : t.key = n.key)
    (hparam : t.flags.isParameter = false) : r.resolve? n = some n.ident := by
  obtain ⟨rfl, hid⟩ := Key.mk.inj hkey
  exact hid ▸ h.resolve? t ht hparam

lemma next (h : r.Progress done (t.key :: todo)) :
    (∀ u ∈ done, t.name ≠ u.name ∧ t.id ≠ u.id) ∧ ∀ k ∈ todo, t.name ≠ k.name ∧ t.id ≠ k.id := by
  have hnext := (List.pairwise_cons.mp (h.apart.perm List.perm_middle)).1
  refine ⟨fun u hu => ?_, fun k hk => hnext k (List.mem_append_right _ hk)⟩
  exact hnext u.key (List.mem_append_left _ (List.mem_map_of_mem hu))

lemma insert (h : r.Progress done (t.key :: todo)) : (r.insert t).Progress (t :: done) todo where
  apart := h.apart.perm List.perm_middle
  find? u hu := by
    rcases List.mem_cons.mp hu with rfl | hu
    · rw [find?_insert, if_pos rfl]
    · rw [find?_insert, if_neg (h.next.1 u hu).2, h.find? u hu]
  resolve? u hu hparam := by
    rcases List.mem_cons.mp hu with rfl | hu
    · rw [resolve?_insert, if_pos ⟨hparam, rfl⟩]
    · rw [resolve?_insert, if_neg fun hname => (h.next.1 u hu).1 hname.2, h.resolve? u hu hparam]
  find?_todo k hk := by
    rw [find?_insert, if_neg (h.next.2 k hk).2, h.find?_todo k (List.mem_cons_of_mem _ hk)]
  resolve?_todo k hk := by
    rw [resolve?_insert, if_neg fun hname => (h.next.2 k hk).1 hname.2,
      h.resolve?_todo k (List.mem_cons_of_mem _ hk)]

lemma insertAll {ts : List TypeDecl} (h : r.Progress done (ts.map TypeDecl.key ++ todo)) :
    (r.insertAll ts).Progress (ts.reverse ++ done) todo := by
  induction ts generalizing r done with
  | nil => exact h
  | cons t ts ih =>
    rw [List.reverse_cons, List.append_assoc]
    exact ih h.insert

lemma forget {others : List TypeDecl} (h : r.Progress done todo) (hsub : others.Sublist done) :
    r.Progress others todo where
  apart := h.apart.sublist ((hsub.map _).append (.refl todo))
  find? u hu := h.find? u (hsub.subset hu)
  resolve? u hu := h.resolve? u (hsub.subset hu)
  find?_todo := h.find?_todo
  resolve?_todo := h.resolve?_todo

lemma keep (h : r.Progress done (t.key :: todo)) (hfind : builtins.find? t.id = some t)
    (hname : builtins.resolve? t.name = some t.id) : r.Progress (t :: done) todo where
  apart := h.apart.perm List.perm_middle
  find? u hu := by
    rcases List.mem_cons.mp hu with rfl | hu
    · exact (h.find?_todo _ List.mem_cons_self).trans hfind
    · exact h.find? u hu
  resolve? u hu hparam := by
    rcases List.mem_cons.mp hu with rfl | hu
    · exact (h.resolve?_todo _ List.mem_cons_self).trans hname
    · exact h.resolve? u hu hparam
  find?_todo k hk := h.find?_todo k (List.mem_cons_of_mem _ hk)
  resolve?_todo k hk := h.resolve?_todo k (List.mem_cons_of_mem _ hk)

lemma modify {change : TypeDecl → TypeDecl} (h : r.Progress (t :: done) todo)
    (hkey : (change t).key = t.key) (hflags : (change t).flags = t.flags) :
    (r.modify t.id change).Progress (change t :: done) todo := by
  have hapart := h.apart
  rw [List.map_cons, List.cons_append, Apart, List.pairwise_cons] at hapart
  obtain ⟨hother, hrest⟩ := hapart
  obtain ⟨hname, hid⟩ := Key.mk.inj hkey
  refine ⟨?_, fun u hu => ?_, fun u hu hparam => ?_, fun k hk => ?_, ?_⟩
  · rw [List.map_cons, List.cons_append, hkey]
    exact h.apart
  · rcases List.mem_cons.mp hu with rfl | hu
    · rw [find?_modify, if_pos hid.symm, hid, h.find? t List.mem_cons_self, Option.map_some]
    · have hne : t.id ≠ u.id :=
        (hother u.key (List.mem_append_left _ (List.mem_map_of_mem hu))).2
      rw [find?_modify, if_neg hne, h.find? u (List.mem_cons_of_mem _ hu)]
  · rw [resolve?_modify]
    rcases List.mem_cons.mp hu with rfl | hu
    · rw [hname, hid]
      exact h.resolve? t List.mem_cons_self (hflags ▸ hparam)
    · exact h.resolve? u (List.mem_cons_of_mem _ hu) hparam
  · have hne : t.id ≠ k.id := (hother k (List.mem_append_right _ hk)).2
    rw [find?_modify, if_neg hne, h.find?_todo k hk]
  · exact h.resolve?_todo

end Progress

lemma builtins_resolve? {n : TypeName} {type : Ident} (h : builtins.resolve? n = some type) :
    type = n.ident ∧ ∃ flags : TypeFlags, flags.isParameter = false ∧
      builtins.find? n.ident = some (.ofName n flags) := by
  have hplain : ∀ t ∈ builtinTypes, t = .ofName t.name t.flags ∧ t.flags.isParameter = false := by
    decide +kernel
  have hnodup : (builtinTypes.map (·.id)).Nodup := by decide +kernel
  rw [builtins_eq, resolve?_insertAll, resolve?_empty, Option.or_none, Option.map_eq_some_iff] at h
  obtain ⟨t, ht, rfl⟩ := h
  have hmem := List.mem_reverse.mp (List.mem_of_find?_eq_some ht)
  have hname : t.name = n := by
    have hfound := List.find?_some ht
    rw [Bool.and_eq_true, beq_iff_eq] at hfound
    exact hfound.2
  obtain ⟨heq, hparam⟩ := hplain t hmem
  rw [hname] at heq
  have hid : t.id = n.ident := congrArg TypeDecl.id heq
  refine ⟨hid, t.flags, hparam, ?_⟩
  rw [← hid, ← heq, builtins_eq, find?_insertAll_of_mem hnodup hmem]

end Registry

namespace RegistryM

open Registry

/-- The operation comes through with a result, unless a scalar type has one of the given names. -/
def Installs (names : List TypeName) (x : RegistryM α) (r : Registry)
    (result : α → Registry → Prop) : Prop :=
  match outcome x r with
  | (.ok a, s) => result a s
  | (.error _, _) => ∃ n ∈ names, (builtins.resolve? n).isSome

section

variable {names : List TypeName} {r s : Registry} {done : List TypeDecl} {todo : List Key}

lemma Installs.of_outcome {x : RegistryM α} {a : α} {result : α → Registry → Prop}
    (h : outcome x r = (.ok a, s)) (hresult : result a s) : Installs names x r result := by
  rw [Installs, h]
  exact hresult

lemma Installs.imp {x : RegistryM α} {result other : α → Registry → Prop}
    (h : Installs names x r result) (hother : ∀ a s, result a s → other a s) :
    Installs names x r other := by
  rw [Installs] at h ⊢
  rcases hx : outcome x r with ⟨e | a, s⟩
  · rwa [hx] at h
  · rw [hx] at h
    exact hother a s h

lemma Installs.bind {x : RegistryM α} {f : α → RegistryM β} {middle : α → Registry → Prop}
    {result : β → Registry → Prop} (h : Installs names x r middle)
    (hf : ∀ a s, middle a s → Installs names (f a) s result) :
    Installs names (x >>= f) r result := by
  rw [Installs] at h ⊢
  rw [outcome_bind]
  rcases hx : outcome x r with ⟨e | a, s⟩
  · rw [hx] at h
    exact h
  · rw [hx] at h
    exact hf a s h

lemma installs_perform {x : Registration} {n : TypeName}
    (hx : x.instances r =
      if (r.resolve? n).isSome then .error (.duplicateType n.text) else .ok [])
    (hname : r.resolve? n = builtins.resolve? n) (hmem : n ∈ names)
    (h : r.Progress done (x.declarations.map TypeDecl.key ++ todo)) :
    Installs names x.perform r fun type s =>
      type = x.id ∧ s.Progress (x.declarations.reverse ++ done) todo := by
  rw [Installs, Registration.outcome_perform, hx]
  by_cases htaken : (r.resolve? n).isSome
  · rw [if_pos htaken]
    exact ⟨n, hmem, hname ▸ htaken⟩
  · rw [if_neg htaken]
    exact ⟨rfl, h.insertAll⟩

lemma installs_ensure {n : TypeName} {flags : TypeFlags} (hflags : flags.isParameter = false)
    (h : r.Progress done (n.key :: todo)) :
    Installs names (ensure n flags) r fun type s =>
      type = n.ident ∧ ∃ found : TypeFlags, found.isParameter = false ∧
        s.Progress (.ofName n found :: done) todo := by
  have hname : r.resolve? n = builtins.resolve? n := h.resolve?_todo _ List.mem_cons_self
  cases hbuiltin : builtins.resolve? n with
  | none =>
    have hout : outcome (ensure n flags) r = (.ok n.ident, r.insert (.ofName n flags)) := by
      rw [ensure, outcome_bind, outcome_get]
      dsimp only
      rw [hname, hbuiltin]
      change outcome (Registration.perform (.register (.ofName n flags))) r = _
      have hfresh : (Registration.register (.ofName n flags)).instances r = .ok [] :=
        if_neg (by simp [TypeDecl.ofName, hname, hbuiltin])
      rw [Registration.outcome_perform, hfresh]
      rfl
    exact .of_outcome hout ⟨rfl, flags, hflags, h.insert⟩
  | some type =>
    obtain ⟨rfl, found, hfound, hfind⟩ := builtins_resolve? hbuiltin
    have hout : outcome (ensure n flags) r = (.ok n.ident, r) := by
      rw [ensure, outcome_bind, outcome_get]
      dsimp only
      rw [hname, hbuiltin]
      rfl
    exact .of_outcome hout ⟨rfl, found, hfound, h.keep hfind hbuiltin⟩

lemma installs_register {n : TypeName} {flags : TypeFlags} {base : Ident} (hmem : n ∈ names)
    (hbase : r.contains base = true) (h : r.Progress done (n.key :: todo)) :
    Installs names (register ((TypeDecl.ofName n flags).derivedFrom base)) r fun type s =>
      type = n.ident ∧ s.Progress ((TypeDecl.ofName n flags).derivedFrom base :: done) todo := by
  have hname : r.resolve? n = builtins.resolve? n := h.resolve?_todo _ List.mem_cons_self
  refine installs_perform (x := .register _) ?_ hname hmem h
  simp [Registration.instances, missingBases, TypeDecl.derivedFrom, TypeDecl.ofName, hbase]

lemma installs_registerGeneric (n : TypeName) {t : TypeDecl} {params : List String}
    (hkey : t.key = n.key) (hmem : n ∈ names)
    (h : r.Progress done (params.map (fun p => (n.parameter p).key) ++ n.key :: todo)) :
    Installs names (registerGeneric t params) r fun type s =>
      type = n.ident ∧ s.Progress (t.generic params :: done) todo := by
  obtain ⟨rfl, hid⟩ := Key.mk.inj hkey
  have hname : r.resolve? t.name = builtins.resolve? t.name :=
    h.resolve?_todo t.name.key (List.mem_append_right _ List.mem_cons_self)
  have hkeys : (Registration.registerGeneric t params).declarations.map TypeDecl.key ++ todo =
      params.map (fun p => (t.name.parameter p).key) ++ t.name.key :: todo := by
    rw [Registration.declarations, List.map_append, List.map_map, List.append_assoc, ← hkey]
    rfl
  have hinstalls := installs_perform (x := .registerGeneric t params) rfl hname hmem (hkeys ▸ h)
  refine hinstalls.imp ?_
  rintro type s ⟨htype, hs⟩
  refine ⟨htype.trans hid, hs.forget ?_⟩
  rw [Registration.declarations, List.reverse_append]
  exact (List.sublist_append_right _ _).cons_cons _

lemma installs_registerDerived {n : TypeName} {base : Ident} {flags : TypeFlags}
    (hflags : flags.isParameter = false) (hmem : n ∈ names)
    (h : r.Progress done ((n.parameter "T").key :: n.key :: todo)) :
    Installs names (registerDerived n base flags) r fun type s =>
      type = n.ident ∧ ∃ d : TypeDecl, d.key = n.key ∧ d.flags.isParameter = false ∧
        s.Progress (d :: done) todo := by
  refine (installs_registerGeneric n rfl hmem h).imp ?_
  rintro type s ⟨htype, hs⟩
  exact ⟨htype, _, rfl, hflags, hs⟩

/-- An instance is made under the next key, unless it is the identity of a scalar type. -/
lemma installs_instantiate {definition : Ident} {args : List Ident} {d : TypeDecl} {k : Key}
    (hcheck : r.checkArguments definition args = .ok d)
    (hbase : ∀ b as, d.base ≠ some (.generic b as))
    (hkey : (r.newInstance d definition args).key = k) (hfree : ∀ t ∈ builtinTypes, t.id ≠ k.id)
    (h : r.Progress done (k :: todo)) :
    Installs names (instantiate definition args) r fun type s =>
      type = k.id ∧ s.Progress (r.newInstance d definition args :: done) todo := by
  subst hkey
  have hmissing : r.contains (.ofInstance definition args) = false := by
    have hfind := h.find?_todo _ List.mem_cons_self
    rw [builtins_eq, find?_insertAll_of_forall_ne hfree, find?_empty] at hfind
    rw [contains_eq_isSome]
    exact congrArg Option.isSome hfind
  have hout : outcome (instantiate definition args) r =
      (.ok (.ofInstance definition args), r.insert (r.newInstance d definition args)) := by
    rw [outcome_instantiate, missing_of_last hcheck hmissing hbase]
    rfl
  exact .of_outcome hout ⟨rfl, h.insert⟩

lemma installs_extend {n : TypeName} {t : TypeDecl} {member : String}
    {change : TypeDecl → TypeDecl} (hkey : t.key = n.key) (hchange : (change t).key = t.key)
    (hflags : (change t).flags = t.flags) (h : r.Progress (t :: done) todo) :
    Installs names (extend n.ident member change) r fun _ s =>
      (change t).key = n.key ∧ s.Progress (change t :: done) todo := by
  obtain ⟨-, hid⟩ := Key.mk.inj hkey
  have hknown := h.contains_ident List.mem_cons_self hkey
  have hout : outcome (extend n.ident member change) r = (.ok (), r.modify n.ident change) := by
    rw [outcome_extend, if_pos hknown]
  exact .of_outcome hout ⟨hchange.trans hkey, hid ▸ h.modify hchange hflags⟩

lemma installs_addField {n : TypeName} {t : TypeDecl} (f : FieldDecl) (hkey : t.key = n.key)
    (h : r.Progress (t :: done) todo) :
    Installs names (addField n.ident f) r fun _ s =>
      (t.addField f).key = n.key ∧ s.Progress (t.addField f :: done) todo :=
  installs_extend hkey rfl rfl h

lemma installs_addMethod {n : TypeName} {t : TypeDecl} (m : MethodDecl) (hkey : t.key = n.key)
    (h : r.Progress (t :: done) todo) :
    Installs names (addMethod n.ident m) r fun _ s =>
      (t.addMethod m).key = n.key ∧ s.Progress (t.addMethod m :: done) todo :=
  installs_extend hkey rfl rfl h

end

end RegistryM

end PropertyLowering
