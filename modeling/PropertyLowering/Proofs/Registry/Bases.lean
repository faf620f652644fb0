import Mathlib.Logic.Relation
import PropertyLowering.Proofs.Registry.Run

/-!
The base relation of a registry.

A base is resolved in a different way by each operation: a type's is checked, a definition's waits,
and an instance's is copied or made. Main statement: over a run that registers nothing twice, every
base is registered and every walk along bases ends, exactly as long as the instances that are made
find the closed bases of their definitions registered. Nothing checks that they do.
-/

namespace PropertyLowering

namespace Catalog

/-- Following the bases of a type leads to a registered type without base. -/
inductive Grounded (c : Catalog) : Ident → Prop where
  | root {type t} (find : c.find? type = some t) (last : t.baseType = none) : Grounded c type
  | derived {type t base} (find : c.find? type = some t) (derives : t.baseType = some base)
      (ground : Grounded c base) : Grounded c type

/-- A type derives from its base. -/
def Derives (c : Catalog) (type base : Ident) : Prop := c.baseOf? type = some base

variable {c : Catalog} {type : Ident} {t : TypeDecl}

lemma derives_of_find? {base : Ident} (hfind : c.find? type = some t)
    (hbase : t.baseType = some base) : c.Derives type base := by
  rw [Derives, baseOf?, hfind, Option.bind_some, hbase]

lemma baseType_of_derives {base : Ident} (hfind : c.find? type = some t)
    (h : c.Derives type base) : t.baseType = some base := by
  rwa [Derives, baseOf?, hfind, Option.bind_some] at h

lemma Grounded.not_cyclic (h : c.Grounded type) : ¬ Relation.TransGen c.Derives type type := by
  induction h with
  | root hfind hbase =>
    intro hcycle
    obtain ⟨b, hb, -⟩ := Relation.TransGen.head'_iff.mp hcycle
    rw [baseType_of_derives hfind hb] at hbase
    cases hbase
  | @derived type t base hfind hbase _ ih =>
    intro hcycle
    obtain ⟨b, hb, hback⟩ := Relation.TransGen.head'_iff.mp hcycle
    rw [baseType_of_derives hfind hb] at hbase
    obtain rfl := Option.some.inj hbase
    exact ih (.tail' hback hb)

lemma Grounded.mono {d : Catalog}
    (hkeep : ∀ type t, c.find? type = some t →
      ∃ u, d.find? type = some u ∧ u.baseType = t.baseType)
    (h : c.Grounded type) : d.Grounded type := by
  induction h with
  | root hfind hbase =>
    obtain ⟨u, hu, heq⟩ := hkeep _ _ hfind
    exact .root hu (heq.trans hbase)
  | derived hfind hbase _ ih =>
    obtain ⟨u, hu, heq⟩ := hkeep _ _ hfind
    exact .derived hu (heq.trans hbase) ih

lemma Grounded.exists_find? (h : c.Grounded type) : ∃ t, c.find? type = some t := by
  cases h with
  | root hfind => exact ⟨_, hfind⟩
  | derived hfind => exact ⟨_, hfind⟩

lemma Grounded.base {base : Ident} (h : c.Grounded type) (hfind : c.find? type = some t)
    (hbase : t.baseType = some base) : c.Grounded base := by
  cases h with
  | root hfind' hbase' =>
    obtain rfl := Option.some.inj (hfind.symm.trans hfind')
    rw [hbase] at hbase'
    cases hbase'
  | derived hfind' hbase' ground =>
    obtain rfl := Option.some.inj (hfind.symm.trans hfind')
    rw [hbase] at hbase'
    obtain rfl := Option.some.inj hbase'
    exact ground

end Catalog

namespace Registry

/-- Bases are registered types, and following them from a registered type comes to an end. -/
structure WellBased (r : Registry) : Prop where
  closed : ∀ type t base, r.find? type = some t → t.baseType = some base → r.contains base = true
  ends : ∀ type, r.contains type = true → r.catalog.Grounded type

lemma wellBased_of_ends {r : Registry}
    (h : ∀ type, r.contains type = true → r.catalog.Grounded type) : r.WellBased where
  closed type t base hfind hbase := by
    obtain ⟨u, hu⟩ := ((h type (contains_of_find? hfind)).base hfind hbase).exists_find?
    exact contains_of_find? hu
  ends := h

lemma WellBased.modify {r : Registry} (h : r.WellBased) (holder : Ident)
    {change : TypeDecl → TypeDecl} (hchange : ChangesMembers change) :
    (r.modify holder change).WellBased := by
  refine wellBased_of_ends fun type htype => ?_
  rw [contains_eq_isSome, find?_modify] at htype
  refine (h.ends type ?_).mono fun id t ht => ?_
  · rw [contains_eq_isSome]
    split at htype <;> simpa using htype
  · rw [catalog_find?, find?_modify]
    split
    · obtain ⟨fields, properties, methods, heq⟩ := hchange t
      exact ⟨change t, by rw [catalog_find?] at ht; simp [ht], by rw [heq]⟩
    · exact ⟨t, ht, rfl⟩

section

variable {r s : Registry} {definition : Ident} {args : List Ident} {ts : List TypeDecl}

/-- The instances that are made find the closed bases of their definitions registered. -/
def FindsBases (r : Registry) (ts : List TypeDecl) : Prop :=
  ∀ t ∈ ts, ∀ definition d base, t.definition = some definition → r.find? definition = some d →
    d.base = some (.closed base) → r.contains base = true

lemma Adds.grounded (h : r.Adds definition args ts) (hbases : r.FindsBases ts)
    (hold : ∀ type, r.contains type = true → s.catalog.Grounded type)
    (hfind : ∀ t ∈ ts, s.find? t.id = some t) :
    s.catalog.Grounded (.ofInstance definition args) ∧ ∀ t ∈ ts, s.catalog.Grounded t.id := by
  induction h with
  | held _ hheld => exact ⟨hold _ hheld, by simp⟩
  | @last definition args d hcheck _ hbase =>
    have hnew := hfind _ (List.mem_singleton_self _)
    suffices hground : s.catalog.Grounded (.ofInstance definition args) from
      ⟨hground, by simpa using hground⟩
    rcases hdbase : d.base with _ | b | ⟨b, as⟩
    · exact .root hnew (by simp [hdbase])
    · have hb := hbases _ (List.mem_singleton_self _) definition d b rfl
        (find?_of_checkArguments hcheck) hdbase
      exact .derived hnew (by simp [hdbase, BaseRef.target]) (hold b hb)
    · exact absurd hdbase (hbase b as)
  | @derived definition args d b as ts hcheck _ hbase _ ih =>
    have hnew := hfind _ (List.mem_append_right ts (List.mem_singleton_self _))
    obtain ⟨hground, hall⟩ := ih (fun t ht => hbases t (List.mem_append_left _ ht))
      fun t ht => hfind t (List.mem_append_left _ ht)
    have htop : s.catalog.Grounded (.ofInstance definition args) :=
      .derived hnew (by simp [hbase, BaseRef.target]) hground
    refine ⟨htop, fun t ht => ?_⟩
    rcases List.mem_append.mp ht with ht | ht
    · exact hall t ht
    · rw [List.mem_singleton.mp ht]
      exact htop

lemma Adds.derives (h : r.Adds definition args ts) (hfind : ∀ t ∈ ts, s.find? t.id = some t) :
    ∀ t ∈ ts, Relation.ReflTransGen s.catalog.Derives (.ofInstance definition args) t.id := by
  induction h with
  | held => simp
  | last =>
    intro t ht
    rw [List.mem_singleton.mp ht]
    exact .refl
  | @derived definition args d b as ts _ _ hbase _ ih =>
    intro t ht
    rcases List.mem_append.mp ht with ht | ht
    · have hnew := hfind _ (List.mem_append_right ts (List.mem_singleton_self _))
      have hstep := Catalog.derives_of_find? (c := s.catalog) hnew
        (by rw [baseType_newInstance, hbase]; rfl)
      exact .head hstep (ih (fun u hu => hfind u (List.mem_append_left _ hu)) t ht)
    · rw [List.mem_singleton.mp ht]
      exact .refl

lemma Adds.derives_last (h : r.Adds definition args ts)
    (hfind : ∀ t ∈ ts, s.find? t.id = some t) {t u d : TypeDecl} {root base : Ident} (ht : t ∈ ts)
    (hdef : t.definition = some root) (hd : r.find? root = some d)
    (hbase : d.base = some (.closed base)) (hu : u ∈ ts) :
    Relation.ReflTransGen s.catalog.Derives u.id t.id := by
  induction h with
  | held => cases ht
  | last =>
    rw [List.mem_singleton.mp ht, List.mem_singleton.mp hu]
  | @derived definition args e b as ts hcheck hmissing hbase' hbases ih =>
    have hne : t ≠ r.newInstance e definition args := by
      rintro rfl
      obtain rfl := Option.some.inj hdef
      rw [find?_of_checkArguments hcheck] at hd
      obtain rfl := Option.some.inj hd
      rw [hbase] at hbase'
      cases hbase'
    have ht' : t ∈ ts := by simpa [hne] using ht
    have hall := Adds.derives (.derived hcheck hmissing hbase' hbases) hfind t ht
    rcases List.mem_append.mp hu with hu | hu
    · exact ih (fun v hv => hfind v (List.mem_append_left _ hv)) ht' hu
    · rw [List.mem_singleton.mp hu]
      exact hall

lemma Adds.eq_newInstance (h : r.Adds definition args ts) {t : TypeDecl} (ht : t ∈ ts) :
    ∃ definition args d, r.find? definition = some d ∧ t = r.newInstance d definition args := by
  induction h with
  | held => cases ht
  | last hcheck => exact ⟨_, _, _, find?_of_checkArguments hcheck, List.mem_singleton.mp ht⟩
  | derived hcheck _ _ _ ih =>
    rcases List.mem_append.mp ht with ht | ht
    · exact ih ht
    · exact ⟨_, _, _, find?_of_checkArguments hcheck, List.mem_singleton.mp ht⟩

end

end Registry

namespace Registration

open Registry

variable {r : Registry} {x : Registration} {ts : List TypeDecl}

lemma wellBased_of_findsBases (hr : r.WellBased) (hts : x.instances r = .ok ts)
    (hfree : ∀ t ∈ ts ++ x.declarations, r.contains t.id = false)
    (hnodup : ((ts ++ x.declarations).map (·.id)).Nodup) (h : r.FindsBases ts) :
    (r.insertAll (ts ++ x.declarations)).WellBased := by
  have hfind (t) (ht : t ∈ ts ++ x.declarations) :
      (r.insertAll (ts ++ x.declarations)).find? t.id = some t := find?_insertAll_of_mem hnodup ht
  have hold (type) (htype : r.contains type = true) :
      (r.insertAll (ts ++ x.declarations)).catalog.Grounded type :=
    (hr.ends type htype).mono fun id t ht => ⟨t, find?_insertAll_of_missing hfree ht, rfl⟩
  refine wellBased_of_ends fun type htype => ?_
  rw [contains_insertAll] at htype
  rcases htype with htype | htype
  · obtain ⟨t, ht, rfl⟩ := List.mem_map.mp htype
    rcases adds_of_instances hts with ⟨rfl, hdecl⟩ | ⟨definition, args, hadds, hdecl⟩
    · rw [List.nil_append] at ht hfind
      cases hbase : t.baseType with
      | none => exact .root (hfind t ht) hbase
      | some base => exact .derived (hfind t ht) hbase (hold base (hdecl t ht base hbase))
    · obtain ⟨htop, hall⟩ :=
        hadds.grounded h hold fun t ht => hfind t (List.mem_append_left _ ht)
      rcases List.mem_append.mp ht with ht' | ht'
      · exact hall t ht'
      · exact .derived (hfind t ht) (hdecl t ht') htop
  · exact hold type htype

/-- A closed base that is not registered never comes right: it stays missing, or it is registered
on top of the instance that derives from it. -/
lemma findsBases_of_wellBased (hts : x.instances r = .ok ts)
    (hnodup : ((ts ++ x.declarations).map (·.id)).Nodup)
    (h : (r.insertAll (ts ++ x.declarations)).WellBased) : r.FindsBases ts := by
  intro t ht root d base hdef hd hbase
  have hfind (t) (ht : t ∈ ts ++ x.declarations) :
      (r.insertAll (ts ++ x.declarations)).find? t.id = some t := find?_insertAll_of_mem hnodup ht
  rcases adds_of_instances hts with ⟨rfl, -⟩ | ⟨definition, args, hadds, hdecl⟩
  · cases ht
  have hmade (u) (hu : u ∈ ts) := hfind u (List.mem_append_left _ hu)
  have hderives : (r.insertAll (ts ++ x.declarations)).catalog.Derives t.id base := by
    obtain ⟨definition', args', d', hd', rfl⟩ := hadds.eq_newInstance ht
    obtain rfl := Option.some.inj hdef
    obtain rfl := Option.some.inj (hd.symm.trans hd')
    refine Catalog.derives_of_find? (hmade _ ht) ?_
    rw [baseType_newInstance, hbase]
    rfl
  have hground := h.ends t.id (contains_of_find? (hmade t ht))
  have hbaseType := Catalog.baseType_of_derives (hmade t ht) hderives
  have hcontains := h.closed _ _ _ (hmade t ht) hbaseType
  rw [contains_insertAll] at hcontains
  refine hcontains.resolve_left fun hstored => ?_
  obtain ⟨u, hu, rfl⟩ := List.mem_map.mp hstored
  refine hground.not_cyclic (.head' hderives ?_)
  rcases List.mem_append.mp hu with hu' | hu'
  · exact hadds.derives_last hmade ht hdef hd hbase hu'
  · exact .head (Catalog.derives_of_find? (hfind u hu) (hdecl u hu')) (hadds.derives hmade t ht)

end Registration

namespace Action

open Registry

/-- The actions of a run, each with the registry that it starts from. -/
def trace : Registry → List Action → List (Registry × Action)
  | _, [] => []
  | r, a :: as => (r, a) :: trace (after r a) as

/-- All that a run stores. -/
def log (r : Registry) (as : List Action) : List TypeDecl :=
  (trace r as).flatMap fun step => step.2.stored step.1

/-- A run registers each identity once, and none that was there at the start. -/
structure Distinct (start : Registry) (as : List Action) : Prop where
  free : ∀ t ∈ log start as, start.contains t.id = false
  nodup : ((log start as).map (·.id)).Nodup

/-- The instances that an action makes find their closed bases registered. -/
def FindsBases (r : Registry) (a : Action) : Prop :=
  ∀ x ts, a = registration x → x.instances r = .ok ts → r.FindsBases ts

lemma findsBases_of_stored {r : Registry} {a : Action} (h : a.stored r = []) : a.FindsBases r := by
  rintro x ts rfl hts t ht
  simp only [stored, hts, List.append_eq_nil_iff] at h
  rw [h.1] at ht
  cases ht

lemma log_cons (r : Registry) (a : Action) (as : List Action) :
    log r (a :: as) = a.stored r ++ log (after r a) as := by
  simp [log, trace]

lemma contains_after {r : Registry} {a : Action} {type : Ident}
    (h : (after r a).contains type = true) :
    r.contains type = true ∨ type ∈ (a.stored r).map (·.id) := by
  rcases after_cases r a with ⟨x, ts, rfl, hts, -⟩ | ⟨holder, change, -, -, heq⟩ | ⟨-, heq⟩
  · rw [after_registration, contains_insertAll] at h
    exact h.symm
  · rw [heq, contains_eq_isSome, find?_modify] at h
    refine .inl ?_
    rw [contains_eq_isSome]
    split at h <;> simpa using h
  · rw [heq] at h
    exact .inl h

lemma Distinct.tail {r : Registry} {a : Action} {as : List Action} (h : Distinct r (a :: as)) :
    Distinct (after r a) as := by
  obtain ⟨hfree, hnodup⟩ := h
  rw [log_cons] at hfree hnodup
  rw [List.map_append, List.nodup_append] at hnodup
  refine ⟨fun t ht => ?_, hnodup.2.1⟩
  rw [← Bool.not_eq_true]
  intro hcontains
  rcases contains_after hcontains with hold | hnew
  · rw [hfree t (List.mem_append_right _ ht)] at hold
    cases hold
  · exact hnodup.2.2 _ hnew _ (List.mem_map_of_mem ht) rfl

/-- **One action keeps bases well-founded exactly when the instances that it makes find theirs.** -/
lemma wellBased_after_iff {r : Registry} {a : Action} (hr : r.WellBased)
    (hfree : ∀ t ∈ a.stored r, r.contains t.id = false)
    (hnodup : ((a.stored r).map (·.id)).Nodup) : (after r a).WellBased ↔ a.FindsBases r := by
  rcases after_cases r a with ⟨x, ts, rfl, hts, heq⟩ | ⟨holder, change, hchange, hstored, heq⟩ |
      ⟨hstored, heq⟩
  · have hstored : (registration x).stored r = ts ++ x.declarations := by simp [stored, hts]
    rw [hstored] at hfree hnodup
    rw [heq]
    refine ⟨fun h y us hy hus => ?_, fun h => ?_⟩
    · cases hy
      obtain rfl := Except.ok.inj (hts.symm.trans hus)
      exact Registration.findsBases_of_wellBased hts hnodup h
    · exact Registration.wellBased_of_findsBases hr hts hfree hnodup (h x ts rfl hts)
  · rw [heq]
    exact iff_of_true (hr.modify holder hchange) (findsBases_of_stored hstored)
  · rw [heq]
    exact iff_of_true hr (findsBases_of_stored hstored)

lemma wellBased_trace_iff {r : Registry} (hr : r.WellBased) {as : List Action}
    (hdistinct : Distinct r as) :
    ((∀ step ∈ trace r as, step.1.WellBased) ∧ (runAll r as).WellBased) ↔
      ∀ step ∈ trace r as, step.2.FindsBases step.1 := by
  induction as generalizing r with
  | nil => simp [trace, hr]
  | cons a as ih =>
    have hfree (t) (ht : t ∈ a.stored r) : r.contains t.id = false :=
      hdistinct.free t (by rw [log_cons]; exact List.mem_append_left _ ht)
    have hnodup : ((a.stored r).map (·.id)).Nodup := by
      have hall := hdistinct.nodup
      rw [log_cons, List.map_append] at hall
      exact (List.nodup_append.mp hall).1
    have hstep := wellBased_after_iff hr hfree hnodup
    simp only [trace, List.forall_mem_cons, runAll_cons]
    constructor
    · rintro ⟨⟨-, hall⟩, hlast⟩
      have hafter : (after r a).WellBased := by
        cases as with
        | nil => exact hlast
        | cons b bs => exact hall (after r a, b) (by simp [trace])
      exact ⟨hstep.mp hafter, (ih hafter hdistinct.tail).mp ⟨hall, hlast⟩⟩
    · rintro ⟨hfinds, hall⟩
      have hafter := hstep.mpr hfinds
      obtain ⟨hstates, hlast⟩ := (ih hafter hdistinct.tail).mpr hall
      exact ⟨⟨hr, hstates⟩, hlast⟩

/-- **Bases stay well-founded as long as instances find them.** Over a run that registers each
identity once, every base is a registered type and every walk along bases ends, in all states of the
run, exactly when each instance that is made of a definition with a closed base finds that base
registered. -/
theorem wellBased_run_iff {start : Registry} (hstart : start = .empty ∨ start = .builtins)
    {actions : List Action} (hdistinct : Distinct start actions) :
    ((∀ step ∈ trace start actions, step.1.WellBased) ∧ (runAll start actions).WellBased) ↔
      ∀ step ∈ trace start actions, step.2.FindsBases step.1 := by
  refine wellBased_trace_iff (wellBased_of_ends fun type htype => ?_) hdistinct
  obtain ⟨t, ht⟩ := exists_find?_of_contains htype
  have hroots : ∀ t ∈ builtinTypes, t.baseType = none := by decide
  exact .root ht (hroots t (mem_builtinTypes_of_find? hstart ht))

/-- A generic definition with a closed base. -/
def box (base : Ident) : TypeDecl := (TypeDecl.reference "Box`1").derivedFrom base

/-- The definition is registered and closed over an argument. -/
def boxing (base arg : Ident) : List Action :=
  [.registration (.registerGeneric (box base) ["T"]),
    .registration (.instantiate (box base).id [arg])]

lemma checkArguments_box {start : Registry} {base arg : Ident}
    (harg : (start.insertAll (Registration.registerGeneric (box base) ["T"]).declarations).contains
      arg = true)
    (hnodup : ((Registration.registerGeneric (box base) ["T"]).declarations.map TypeDecl.id).Nodup) :
    (start.insertAll (Registration.registerGeneric (box base) ["T"]).declarations).checkArguments
      (box base).id [arg] = .ok ((box base).generic ["T"]) :=
  checkArguments_generic
    (find?_insertAll_of_mem hnodup (List.mem_append_right _ (List.mem_singleton_self _))) rfl
    (by simpa using harg)

lemma trace_boxing {start : Registry} {base arg : Ident}
    (hname : start.resolve? (.global "Box`1") = none)
    (harg : (start.insertAll (Registration.registerGeneric (box base) ["T"]).declarations).contains
      arg = true)
    (hfree : start.contains (.ofInstance (box base).id [arg]) = false)
    (hnodup : ((Registration.registerGeneric (box base) ["T"]).declarations.map TypeDecl.id ++
      [Ident.ofInstance (box base).id [arg]]).Nodup) :
    ∃ r t, r = start.insertAll (Registration.registerGeneric (box base) ["T"]).declarations ∧
      t.id = .ofInstance (box base).id [arg] ∧ t.baseType = some base ∧
      trace start (boxing base arg) =
        [(start, .registration (.registerGeneric (box base) ["T"])),
          (r, .registration (.instantiate (box base).id [arg]))] ∧
      log start (boxing base arg) =
        (Registration.registerGeneric (box base) ["T"]).declarations ++ [t] ∧
      runAll start (boxing base arg) = r.insert t ∧
      (r.contains base = true →
        (registration (.instantiate (box base).id [arg])).FindsBases r) := by
  let x := Registration.registerGeneric (box base) ["T"]
  let r := start.insertAll x.declarations
  let d := (box base).generic ["T"]
  have hbase : d.base = some (.closed base) := rfl
  have hcheck : r.checkArguments (box base).id [arg] = .ok d :=
    checkArguments_box harg (List.nodup_append.mp hnodup).1
  have hmissing : r.contains (.ofInstance (box base).id [arg]) = false := by
    rw [← Bool.not_eq_true, contains_insertAll, hfree]
    rintro (hmem | hold)
    · exact (List.nodup_append.mp hnodup).2.2 _ hmem _ (List.mem_singleton_self _) rfl
    · cases hold
  have hts : (Registration.instantiate (box base).id [arg]).instances r =
      .ok [r.newInstance d (box base).id [arg]] :=
    missing_of_last hcheck hmissing (by simp [hbase])
  have hfirst : (registration x).stored start = x.declarations := by
    rw [stored, Registration.instances_registerGeneric hname]
    rfl
  have hafter : after start (registration x) = r := by rw [after_registration, hfirst]
  have hsecond : (registration (.instantiate (box base).id [arg])).stored r =
      [r.newInstance d (box base).id [arg]] := by
    simp [stored, hts, Registration.declarations]
  refine ⟨r, r.newInstance d (box base).id [arg], rfl, rfl, ?_, ?_, ?_, ?_, fun hknown => ?_⟩
  · simp [hbase, BaseRef.target]
  · simp only [boxing, trace]
    exact congrArg (fun s => [(start, registration x), (s, _)]) hafter
  · simp only [boxing, log_cons]
    change (registration x).stored start ++ _ = _
    rw [hfirst]
    change x.declarations ++ ((registration _).stored (after start (registration x)) ++ []) = _
    rw [hafter, hsecond]
    rfl
  · change after (after start (registration x)) _ = _
    rw [hafter, after_registration, hsecond]
    rfl
  · rintro y us heq hus t ht definition e b hdef he hclosed
    obtain rfl := Action.registration.inj heq
    obtain rfl := Except.ok.inj (hts.symm.trans hus)
    rw [List.mem_singleton.mp ht] at hdef
    obtain rfl := Option.some.inj hdef
    rw [find?_of_checkArguments hcheck] at he
    obtain rfl := Option.some.inj he
    rw [hbase] at hclosed
    cases hclosed
    exact hknown

lemma distinct_boxing {base arg : Ident} {t : TypeDecl}
    (ht : t.id = .ofInstance (box base).id [arg])
    (hlog : log .builtins (boxing base arg) =
      (Registration.registerGeneric (box base) ["T"]).declarations ++ [t])
    (hnodup : ((builtinTypes ++ (Registration.registerGeneric (box base) ["T"]).declarations).map
      TypeDecl.id ++ [Ident.ofInstance (box base).id [arg]]).Nodup) :
    Distinct .builtins (boxing base arg) := by
  rw [List.map_append, List.append_assoc, List.nodup_append] at hnodup
  obtain ⟨-, hnew, hdisjoint⟩ := hnodup
  have hids : (log .builtins (boxing base arg)).map (·.id) =
      (Registration.registerGeneric (box base) ["T"]).declarations.map TypeDecl.id ++
        [.ofInstance (box base).id [arg]] := by
    rw [hlog, List.map_append, List.map_singleton, ht]
  refine ⟨fun u hu => ?_, hids ▸ hnew⟩
  have hmem : u.id ∈ (log .builtins (boxing base arg)).map (·.id) := List.mem_map_of_mem hu
  exact not_contains_builtins fun hold => hdisjoint _ hold _ (hids ▸ hmem) rfl

/-- The truth values, boxed. -/
abbrev bool : Ident := (TypeName.global "bool").ident

lemma resolve?_builtins_box : Registry.builtins.resolve? (.global "Box`1") = none :=
  resolve?_builtins (by decide)

theorem wellBased_box :
    let object := (TypeName.global "object").ident
    (runAll .builtins (boxing object bool)).WellBased := by
  intro object
  have hnodup :
      ((builtinTypes ++ (Registration.registerGeneric (box object) ["T"]).declarations).map
        TypeDecl.id ++ [Ident.ofInstance (box object).id [bool]]).Nodup := by
    decide +kernel
  have hfree : Registry.builtins.contains (.ofInstance (box object).id [bool]) = false :=
    not_contains_builtins (by decide +kernel)
  obtain ⟨r, t, rfl, ht, -, htrace, hlog, -, hfinds⟩ := trace_boxing resolve?_builtins_box
    (contains_builtins_insertAll.mpr (by decide +kernel)) hfree (by decide +kernel)
  have hdistinct := distinct_boxing ht hlog hnodup
  refine ((wellBased_run_iff (.inr rfl) hdistinct).mpr fun step hstep => ?_).2
  rw [htrace] at hstep
  simp only [List.mem_cons, List.not_mem_nil, or_false] at hstep
  rcases hstep with rfl | rfl
  · rintro y us heq hus
    obtain rfl := registration.inj heq
    rcases Registration.adds_of_instances hus with ⟨rfl, -⟩ | ⟨definition, args, -, hdecl⟩
    · intro u hu
      cases hu
    · cases hdecl _ (List.mem_append_right _ (List.mem_singleton_self _))
  · exact hfinds (contains_builtins_insertAll.mpr (by decide +kernel))

/-- Not all runs that register nothing twice keep their bases registered: an instance takes over the
closed base of its definition unseen. -/
theorem unknown_base_registered :
    ¬ ∀ (start : Registry) (actions : List Action), start = .empty ∨ start = .builtins →
      Distinct start actions → (runAll start actions).WellBased := by
  intro hclaim
  let ghost := (TypeName.global "Ghost").ident
  have hnodup : ((builtinTypes ++ (Registration.registerGeneric (box ghost) ["T"]).declarations).map
      TypeDecl.id ++ [Ident.ofInstance (box ghost).id [bool]]).Nodup := by
    decide +kernel
  have hfree : Registry.builtins.contains (.ofInstance (box ghost).id [bool]) = false :=
    not_contains_builtins (by decide +kernel)
  obtain ⟨r, t, rfl, ht, hbase, -, hlog, hrun, -⟩ := trace_boxing resolve?_builtins_box
    (contains_builtins_insertAll.mpr (by decide +kernel)) hfree (by decide +kernel)
  have hwell := hclaim .builtins (boxing ghost bool) (.inr rfl) (distinct_boxing ht hlog hnodup)
  rw [hrun] at hwell
  have hghost := hwell.closed t.id t ghost (by rw [find?_insert, if_pos rfl]) hbase
  rw [contains_eq_isSome, find?_insert, if_neg (by rw [ht]; decide +kernel), ← contains_eq_isSome,
    contains_builtins_insertAll] at hghost
  revert hghost
  decide +kernel

end Action

end PropertyLowering
