import Mathlib.Data.Set.Basic
import PropertyLowering.Proofs.Registry.Bases
import PropertyLowering.Proofs.Registry.Chain

/-!
The applications that come up in a run.

A registration may ask for one application of a definition. Its base may be another application, and
so on, and every instance that the registration makes is that of an application on this way. So what
a run can take for an instance is decided by the declarations of the run and by the applications
that come up in it, as long as their identities tell them apart.
-/

namespace PropertyLowering

namespace Registry

/-- The application that the generic base of a definition comes to. -/
def baseApplication? (r : Registry) (a : Application) : Option Application :=
  match r.find? a.definition with
  | some d =>
    match d.base with
    | some (.generic base args) => some ⟨base, args.map (TypeDecl.substitute d.params a.args)⟩
    | _ => none
  | none => none

/-- Generic bases lead from one application to another. -/
def Leads (r : Registry) (a b : Application) : Prop :=
  Relation.ReflTransGen (fun a b => r.baseApplication? a = some b) a b

variable {r : Registry} {a b : Application} {d : TypeDecl} {definition : Ident}
  {args : List Ident} {ts : List TypeDecl}

lemma baseApplication?_of_generic {base : Ident} {baseArgs : List Ident}
    (h : r.find? a.definition = some d) (hbase : d.base = some (.generic base baseArgs)) :
    r.baseApplication? a = some ⟨base, baseArgs.map (TypeDecl.substitute d.params a.args)⟩ := by
  simp only [baseApplication?, h, hbase]

lemma baseApplication?_of_last (h : r.find? a.definition = some d)
    (hbase : ∀ b as, d.base ≠ some (.generic b as)) : r.baseApplication? a = none := by
  rcases hd : d.base with _ | b | ⟨b, as⟩
  · simp only [baseApplication?, h, hd]
  · simp only [baseApplication?, h, hd]
  · exact absurd hd (hbase b as)

lemma Leads.eq_or_base (h : r.Leads a b) :
    b = a ∨ ∃ c, r.baseApplication? a = some c ∧ r.Leads c b :=
  (Relation.ReflTransGen.cases_head h).imp_left Eq.symm

lemma args_ne_nil_of_missing (h : r.find? a.definition = some d)
    (hmissing : r.contains a.id = false) : a.args ≠ [] := by
  intro hnil
  rw [Application.id, hnil, Ident.ofInstance_nil, contains_of_find? h] at hmissing
  cases hmissing

/-- What is made for an application is the instances on its way that are missing, each of them
together with what is made for itself. -/
lemma Adds.exists_application (h : r.Adds definition args ts) {t : TypeDecl} (ht : t ∈ ts) :
    ∃ a d, r.Leads ⟨definition, args⟩ a ∧ r.checkArguments a.definition a.args = .ok d ∧
      r.contains a.id = false ∧ t = r.newInstance d a.definition a.args ∧
      ∃ us, r.Adds a.definition a.args us ∧ us ⊆ ts := by
  induction h with
  | held => cases ht
  | @last definition args d hcheck hmissing hbase =>
    exact ⟨⟨definition, args⟩, d, .refl, hcheck, hmissing, List.mem_singleton.mp ht, _,
      .last hcheck hmissing hbase, List.Subset.refl _⟩
  | @derived definition args d base baseArgs ts hcheck hmissing hbase hbases ih =>
    rcases List.mem_append.mp ht with ht | ht
    · obtain ⟨a, e, hleads, hecheck, hemissing, heq, us, hus, hsub⟩ := ih ht
      have hstep := baseApplication?_of_generic (a := ⟨definition, args⟩)
        (find?_of_checkArguments hcheck) hbase
      exact ⟨a, e, .head hstep hleads, hecheck, hemissing, heq, us, hus,
        List.subset_append_of_subset_left _ hsub⟩
    · exact ⟨⟨definition, args⟩, d, .refl, hcheck, hmissing, List.mem_singleton.mp ht, _,
        .derived hcheck hmissing hbase hbases, List.Subset.refl _⟩

lemma Adds.eq_nil_of_held (h : r.Adds definition args ts)
    (hheld : r.contains (.ofInstance definition args) = true) : ts = [] := by
  cases h with
  | held => rfl
  | last _ hmissing => rw [hmissing] at hheld; cases hheld
  | derived _ hmissing => rw [hmissing] at hheld; cases hheld

lemma Adds.contains_insertAll (h : r.Adds definition args ts) :
    (r.insertAll ts).contains (.ofInstance definition args) = true := by
  obtain ⟨d, -, ⟨hheld, rfl⟩ | ⟨us, rfl, -⟩⟩ := h.held_or_snoc
  · exact hheld
  · rw [Registry.contains_insertAll]
    exact .inl (List.mem_map.mpr ⟨_, List.mem_append_right us (List.mem_singleton_self _), rfl⟩)

lemma Adds.find?_insertAll (h : r.Adds definition args ts) {type : Ident} {t : TypeDecl}
    (ht : r.find? type = some t) : (r.insertAll ts).find? type = some t :=
  find?_insertAll_of_missing h.missing ht

/-- Identities tell applications over arguments from each other. -/
def Telling (apps : Set Application) : Prop :=
  ∀ a ∈ apps, ∀ b ∈ apps, a.args ≠ [] → b.args ≠ [] → a.id = b.id → a = b

/-- The identities of applications over arguments tell them from each other, from the types of the
start and from what is declared. -/
structure Apart (start : Registry) (declared : List TypeDecl) (apps : Set Application) : Prop where
  eq_of_id : Telling apps
  not_started : ∀ a ∈ apps, a.args ≠ [] → start.contains a.id = false
  not_declared : ∀ a ∈ apps, a.args ≠ [] → ∀ t ∈ declared, t.id ≠ a.id

lemma Apart.mono {start : Registry} {declared declared' : List TypeDecl}
    {apps apps' : Set Application} (h : Apart start declared apps)
    (hdeclared : declared' ⊆ declared) (happs : apps' ⊆ apps) : Apart start declared' apps' where
  eq_of_id a ha b hb := h.eq_of_id a (happs ha) b (happs hb)
  not_started a ha := h.not_started a (happs ha)
  not_declared a ha hargs t ht := h.not_declared a (happs ha) hargs t (hdeclared ht)

end Registry

lemma RegistryM.missing_of_outcome {r s : Registry} {definition type : Ident} {args : List Ident}
    (h : outcome (instantiate definition args) r = (.ok type, s)) :
    ∃ ts, r.missing (r.applications + 1) definition args = .ok ts ∧ type = .ofInstance definition args ∧
      s = r.insertAll ts := by
  obtain ⟨ts, hts, rfl, rfl⟩ := Registration.instances_of_outcome
    (x := .instantiate definition args) h
  exact ⟨ts, hts, rfl, by rw [Registration.declarations, List.append_nil]⟩

/-- The application that a registration asks for, as what it makes or as a base. -/
def Registration.asked : Registration → Option Application
  | register t =>
    match t.base with
    | some (.generic definition args) => some ⟨definition, args⟩
    | _ => none
  | registerGeneric _ _ => none
  | instantiate definition args => some ⟨definition, args⟩

lemma Registration.adds_of_asked {r : Registry} {x : Registration} {ts : List TypeDecl}
    (h : x.instances r = .ok ts) :
    (x.asked = none ∧ ts = []) ∨ ∃ a, x.asked = some a ∧ r.Adds a.definition a.args ts := by
  cases x with
  | register t =>
    simp only [instances] at h
    split at h
    · cases h
    · rcases hbase : t.base with _ | b | ⟨definition, args⟩ <;>
        rw [hbase, Registry.missingBases] at h
      · exact .inl ⟨by simp [asked, hbase], (Except.ok.inj h).symm⟩
      · split at h
        · exact .inl ⟨by simp [asked, hbase], (Except.ok.inj h).symm⟩
        · cases h
      · exact .inr ⟨⟨definition, args⟩, by simp [asked, hbase], Registry.adds_of_missing h⟩
  | registerGeneric t params =>
    simp only [instances] at h
    split at h
    · cases h
    · exact .inl ⟨rfl, (Except.ok.inj h).symm⟩
  | instantiate definition args => exact .inr ⟨⟨definition, args⟩, rfl, Registry.adds_of_missing h⟩

namespace Action

open Registry

/-- The declarations that an action stores under identities of its own choice. -/
def declared (r : Registry) : Action → List TypeDecl
  | registration x =>
    match x.instances r with
    | .ok _ => x.declarations
    | .error _ => []
  | _ => []

/-- The applications that an action meets: the one that it asks for, and those that this leads
to. -/
def met (r : Registry) : Action → Set Application
  | registration x => {a | ∃ root ∈ x.asked, r.Leads root a}
  | _ => ∅

/-- All that a run declares. -/
def declaredBy (start : Registry) (as : List Action) : List TypeDecl :=
  (trace start as).flatMap fun step => step.2.declared step.1

/-- All applications that a run meets. -/
def metBy (start : Registry) (as : List Action) : Set Application :=
  {a | ∃ step ∈ trace start as, a ∈ step.2.met step.1}

variable {start r : Registry} {as bs : List Action}

lemma runAll_append (r : Registry) (as bs : List Action) :
    runAll r (as ++ bs) = runAll (runAll r as) bs := List.foldl_append

lemma trace_append (r : Registry) (as bs : List Action) :
    trace r (as ++ bs) = trace r as ++ trace (runAll r as) bs := by
  induction as generalizing r with
  | nil => rfl
  | cons a as ih => rw [List.cons_append, trace, trace, ih, runAll_cons, List.cons_append]

lemma declaredBy_append (r : Registry) (as bs : List Action) :
    declaredBy r (as ++ bs) = declaredBy r as ++ declaredBy (runAll r as) bs := by
  rw [declaredBy, trace_append, List.flatMap_append]
  rfl

lemma metBy_append (r : Registry) (as bs : List Action) :
    metBy r (as ++ bs) = metBy r as ∪ metBy (runAll r as) bs := by
  ext a
  simp only [metBy, trace_append, List.mem_append, Set.mem_ofPred_eq, Set.mem_union, or_and_right,
    exists_or]

@[simp] lemma declaredBy_nil (r : Registry) : declaredBy r [] = [] := rfl

@[simp] lemma metBy_nil (r : Registry) : metBy r [] = ∅ := by
  ext a
  simp [metBy, trace]

lemma declaredBy_cons (r : Registry) (a : Action) (as : List Action) :
    declaredBy r (a :: as) = a.declared r ++ declaredBy (after r a) as := by
  rw [declaredBy, trace, List.flatMap_cons]
  rfl

lemma metBy_cons (r : Registry) (a : Action) (as : List Action) :
    metBy r (a :: as) = a.met r ∪ metBy (after r a) as := by
  ext b
  simp [metBy, trace]

lemma declaredBy_singleton (r : Registry) (a : Action) : declaredBy r [a] = a.declared r := by
  rw [declaredBy_cons, declaredBy_nil, List.append_nil]

lemma metBy_singleton (r : Registry) (a : Action) : metBy r [a] = a.met r := by
  rw [metBy_cons, metBy_nil, Set.union_empty]

@[simp] lemma met_registerGeneric (r : Registry) (t : TypeDecl) (params : List String) :
    (registration (.registerGeneric t params)).met r = ∅ := by
  ext a
  simp [met, Registration.asked]

lemma declared_of_instances {x : Registration} {ts : List TypeDecl} (h : x.instances r = .ok ts) :
    (registration x).declared r = x.declarations := by
  rw [declared, h]

lemma trace_induction {P : Registry → Prop} (h : P r)
    (hstep : ∀ step ∈ trace r as, P step.1 → P (after step.1 step.2)) : P (runAll r as) := by
  induction as generalizing r with
  | nil => exact h
  | cons a as ih =>
    rw [trace, List.forall_mem_cons] at hstep
    exact ih (hstep.1 h) hstep.2

lemma mem_met_of_leads {x : Registration} {root a : Application} (hroot : x.asked = some root)
    (h : r.Leads root a) : a ∈ (registration x).met r := ⟨root, hroot, h⟩

end Action

end PropertyLowering
