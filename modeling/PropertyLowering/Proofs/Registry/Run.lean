import PropertyLowering.Proofs.Registry.Closing

/-!
Registrations and runs of actions on a registry.

A registration stores the instances that it needs and then what it declares, or it fails and
changes nothing. Actions are registrations and additions of members, and a run goes on after an
action that fails.
-/

namespace PropertyLowering

/-- A generic definition as it is stored. -/
def TypeDecl.generic (t : TypeDecl) (params : List String) : TypeDecl :=
  { t with
    flags := { t.flags with isDefinition := true }
    baseType := none
    params := (params.map (TypeDecl.parameterOf t.name)).map (·.id) }

lemma Registry.checkArguments_generic {r : Registry} {definition : Ident} {t : TypeDecl}
    {params : List String} {args : List Ident} (h : r.find? definition = some (t.generic params))
    (hlen : params.length = args.length) (hargs : ∀ a ∈ args, r.contains a = true) :
    r.checkArguments definition args = .ok (t.generic params) :=
  checkArguments_eq_ok.mpr ⟨h, rfl, by simpa [TypeDecl.generic] using hlen, hargs⟩

/-- The operations that register types. -/
inductive Registration where
  | register (t : TypeDecl)
  | registerGeneric (t : TypeDecl) (params : List String)
  | instantiate (definition : Ident) (args : List Ident)

namespace Registration

open RegistryM

def perform : Registration → RegistryM Ident
  | register t => RegistryM.register t
  | registerGeneric t params => RegistryM.registerGeneric t params
  | instantiate definition args => RegistryM.instantiate definition args

/-- What a registration is asked for. -/
def id : Registration → Ident
  | register t => t.id
  | registerGeneric t _ => t.id
  | instantiate definition args => .ofInstance definition args

/-- The declarations that a registration stores under identities of its own choice. -/
def declarations : Registration → List TypeDecl
  | register t => [{ t with baseType := t.base.map (·.target [] []) }]
  | registerGeneric t params => params.map (TypeDecl.parameterOf t.name) ++ [t.generic params]
  | instantiate _ _ => []

/-- The instances that a registration stores before its declarations, or why it fails. -/
def instances (r : Registry) : Registration → Except RegistryError (List TypeDecl)
  | register t =>
    if (r.resolve? t.name).isSome then .error (.duplicateType t.name.text)
    else r.missingBases t.name t.base
  | registerGeneric t _ =>
    if (r.resolve? t.name).isSome then .error (.duplicateType t.name.text) else .ok []
  | instantiate definition args => r.missing (r.applications + 1) definition args

lemma instances_registerGeneric {r : Registry} {t : TypeDecl} (h : r.resolve? t.name = none)
    (params : List String) : (registerGeneric t params).instances r = .ok [] := by
  simp [instances, h]

/-- **A registration stores its instances and its declarations, or fails and stores nothing.** -/
lemma outcome_perform (x : Registration) (r : Registry) :
    outcome x.perform r =
      match x.instances r with
      | .ok ts => (.ok x.id, r.insertAll (ts ++ x.declarations))
      | .error e => (.error e, r) := by
  cases x with
  | register t =>
    rw [perform, RegistryM.register, outcome_bind, outcome_requireFresh, instances]
    by_cases hname : (r.resolve? t.name).isSome
    · simp only [if_pos hname]
    · simp only [if_neg hname, outcome_bind, outcome_resolveBase]
      cases r.missingBases t.name t.base with
      | error e => rfl
      | ok ts => simp [declarations, id, Registry.insertAll_append]
  | registerGeneric t params =>
    rw [perform, RegistryM.registerGeneric, outcome_bind, outcome_requireFresh, instances]
    by_cases hname : (r.resolve? t.name).isSome
    · simp only [if_pos hname]
    · simp only [if_neg hname, outcome_bind, outcome_modify, outcome_insert]
      simp only [declarations, id, List.nil_append, Registry.insertAll_append]
      rfl
  | instantiate definition args =>
    rw [perform, outcome_instantiate, instances]
    cases r.missing (r.applications + 1) definition args with
    | error e => rfl
    | ok ts => simp [declarations, id]

lemma instances_of_outcome {x : Registration} {r s : Registry} {type : Ident}
    (h : outcome x.perform r = (.ok type, s)) :
    ∃ ts, x.instances r = .ok ts ∧ type = x.id ∧ s = r.insertAll (ts ++ x.declarations) := by
  rw [outcome_perform] at h
  cases hts : x.instances r with
  | error e =>
    rw [hts] at h
    cases (Prod.mk.inj h).1
  | ok ts =>
    rw [hts] at h
    obtain ⟨hid, hs⟩ := Prod.mk.inj h
    exact ⟨ts, rfl, (Except.ok.inj hid).symm, hs.symm⟩

/-- The bases of what is declared are there, or are made by the closing of one definition, which is
where all instances of a registration come from. -/
lemma adds_of_instances {x : Registration} {r : Registry} {ts : List TypeDecl}
    (h : x.instances r = .ok ts) :
    (ts = [] ∧ ∀ t ∈ x.declarations, ∀ base, t.baseType = some base → r.contains base = true) ∨
    ∃ definition args, r.Adds definition args ts ∧
      ∀ t ∈ x.declarations, t.baseType = some (.ofInstance definition args) := by
  cases x with
  | register t =>
    simp only [instances] at h
    split at h
    · cases h
    · rcases hbase : t.base with _ | b | ⟨definition, args⟩ <;>
        rw [hbase, Registry.missingBases] at h
      · refine .inl ⟨(Except.ok.inj h).symm, fun u hu base heq => ?_⟩
        simp_all [declarations]
      · split at h
        next hb =>
          refine .inl ⟨(Except.ok.inj h).symm, fun u hu base heq => ?_⟩
          simp_all [declarations, BaseRef.target]
        · cases h
      · refine .inr ⟨definition, args, Registry.adds_of_missing h, fun u hu => ?_⟩
        simp_all [declarations, BaseRef.target, substitute_nil]
  | registerGeneric t params =>
    simp only [instances] at h
    split at h
    · cases h
    · refine .inl ⟨(Except.ok.inj h).symm, fun u hu base heq => ?_⟩
      rcases List.mem_append.mp hu with hu | hu
      · obtain ⟨param, -, rfl⟩ := List.mem_map.mp hu
        cases heq
      · rw [List.mem_singleton.mp hu] at heq
        cases heq
  | instantiate definition args =>
    exact .inr ⟨definition, args, Registry.adds_of_missing h, by simp [declarations]⟩

lemma missing_instances {x : Registration} {r : Registry} {ts : List TypeDecl}
    (h : x.instances r = .ok ts) : ∀ t ∈ ts, r.contains t.id = false := by
  rcases adds_of_instances h with ⟨rfl, -⟩ | ⟨definition, args, hadds, -⟩
  · simp
  · exact hadds.missing

lemma resolve?_declarations {x : Registration} {r : Registry} {ts : List TypeDecl}
    (h : x.instances r = .ok ts) :
    ∀ t ∈ x.declarations, t.flags.isParameter = false → r.resolve? t.name = none := by
  cases x with
  | register t =>
    simp only [instances] at h
    split at h
    · cases h
    next hfresh =>
      intro u hu _
      rw [List.mem_singleton.mp hu]
      simpa using hfresh
  | registerGeneric t params =>
    simp only [instances] at h
    split at h
    · cases h
    next hfresh =>
      intro u hu hparam
      rcases List.mem_append.mp hu with hu | hu
      · obtain ⟨param, -, rfl⟩ := List.mem_map.mp hu
        cases hparam
      · rw [List.mem_singleton.mp hu]
        exact Option.not_isSome_iff_eq_none.mp hfresh
  | instantiate definition args => simp [declarations]

end Registration

/-- The operations on a registry: registrations and new members. -/
inductive Action where
  | registration (x : Registration)
  | addField (holder : Ident) (f : FieldDecl)
  | addProperty (holder : Ident) (p : PropertyDecl)
  | addMethod (holder : Ident) (m : MethodDecl)

/-- A change of a declaration that concerns its members only. -/
def ChangesMembers (change : TypeDecl → TypeDecl) : Prop :=
  ∀ t, ∃ fields properties methods, change t = { t with fields, properties, methods }

namespace Action

open RegistryM

def perform : Action → RegistryM Unit
  | registration x => do
    let _ ← x.perform
  | addField holder f => RegistryM.addField holder f
  | addProperty holder p => RegistryM.addProperty holder p
  | addMethod holder m => RegistryM.addMethod holder m

/-- The registry after an action. -/
def after (r : Registry) (a : Action) : Registry := (outcome a.perform r).2

/-- The declarations that an action stores, in order. -/
def stored (r : Registry) : Action → List TypeDecl
  | registration x =>
    match x.instances r with
    | .ok ts => ts ++ x.declarations
    | .error _ => []
  | _ => []

lemma after_registration (r : Registry) (x : Registration) :
    after r (registration x) = r.insertAll ((registration x).stored r) := by
  simp only [after, perform, outcome_bind, Registration.outcome_perform, stored]
  cases x.instances r <;> rfl

lemma after_of_instances {r : Registry} {x : Registration} {ts : List TypeDecl}
    (h : x.instances r = .ok ts) :
    after r (registration x) = r.insertAll (ts ++ x.declarations) := by
  rw [after_registration, stored, h]

lemma after_registerGeneric {r : Registry} {t : TypeDecl} (h : r.resolve? t.name = none)
    (params : List String) :
    after r (registration (.registerGeneric t params)) =
      r.insertAll (Registration.registerGeneric t params).declarations :=
  after_of_instances (Registration.instances_registerGeneric h params)

/-- **What an action can do**: store declarations, change the members of a type, or nothing. -/
lemma after_cases (r : Registry) (a : Action) :
    (∃ x ts, a = registration x ∧ x.instances r = .ok ts ∧
      after r a = r.insertAll (ts ++ x.declarations)) ∨
    (∃ holder change, ChangesMembers change ∧ a.stored r = [] ∧
      after r a = r.modify holder change) ∨
    (a.stored r = [] ∧ after r a = r) := by
  have hextend (holder member change) (hchange : ChangesMembers change)
      (hafter : after r a = (outcome (extend holder member change) r).2)
      (hstored : a.stored r = []) :
      (∃ holder change, ChangesMembers change ∧ a.stored r = [] ∧
        after r a = r.modify holder change) ∨ (a.stored r = [] ∧ after r a = r) := by
    rw [outcome_extend] at hafter
    split at hafter
    · exact .inl ⟨holder, change, hchange, hstored, hafter⟩
    · exact .inr ⟨hstored, hafter⟩
  cases a with
  | registration x =>
    cases hts : x.instances r with
    | error e => exact .inr (.inr (by simp [after_registration, stored, hts]))
    | ok ts => exact .inl ⟨x, ts, rfl, hts, after_of_instances hts⟩
  | addField holder f => exact .inr (hextend _ _ _ (fun t => ⟨_, _, _, rfl⟩) rfl rfl)
  | addProperty holder p => exact .inr (hextend _ _ _ (fun t => ⟨_, _, _, rfl⟩) rfl rfl)
  | addMethod holder m => exact .inr (hextend _ _ _ (fun t => ⟨_, _, _, rfl⟩) rfl rfl)

/-- The registry after actions, the failing ones included. -/
def runAll (r : Registry) (as : List Action) : Registry := as.foldl after r

@[simp] lemma runAll_nil (r : Registry) : runAll r [] = r := rfl

@[simp] lemma runAll_cons (r : Registry) (a : Action) (as : List Action) :
    runAll r (a :: as) = runAll (after r a) as := rfl

lemma runAll_induction {P : Registry → Prop} (hstep : ∀ r a, P r → P (after r a)) {r : Registry}
    (h : P r) (as : List Action) : P (runAll r as) := by
  induction as generalizing r with
  | nil => exact h
  | cons a as ih => exact ih (hstep r a h)

end Action

end PropertyLowering
