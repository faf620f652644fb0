import Mathlib.Logic.Relation
import PropertyLowering.Proofs.Registry.Chain

/-!
Operations on a registry are all or nothing.

The closing of a definition stores instances on its way back along the bases, and a registration may
close the base of what it declares first. Main statement: an operation that fails leaves the
registry as it was, however far along the bases the failure lies. Where no definition leads back to
itself, every failure is a complaint about what is registered: the walk along the bases never runs
out of its bound.
-/

namespace PropertyLowering

/-- The definition of a generic base. -/
def BaseRef.definition? : BaseRef → Option Ident
  | .closed _ => none
  | .generic definition _ => some definition

namespace Registry

/-- A generic definition declares another generic as its base. -/
def RefersTo (r : Registry) (definition base : Ident) : Prop :=
  ∃ d args, r.find? definition = some d ∧ d.flags.isDefinition = true ∧
    d.base = some (.generic base args)

/-- No definition leads back to itself along the generic bases. -/
def Acyclic (r : Registry) : Prop :=
  ∀ definition, ¬ Relation.TransGen r.RefersTo definition definition

variable {r : Registry} {definition : Ident} {args : List Ident}

lemma acyclic_of_rank (rank : Ident → Nat)
    (h : ∀ definition base, r.RefersTo definition base → rank base < rank definition) :
    r.Acyclic := by
  have hdown (definition base) (hpath : Relation.TransGen r.RefersTo definition base) :
      rank base < rank definition := by
    induction hpath with
    | single hstep => exact h _ _ hstep
    | tail _ hstep ih => exact Nat.lt_trans (h _ _ hstep) ih
  exact fun definition hcycle => Nat.lt_irrefl _ (hdown _ _ hcycle)

lemma contains_of_refersTo {base : Ident} (h : r.RefersTo definition base) :
    r.contains definition = true := by
  obtain ⟨d, -, hfind, -⟩ := h
  exact contains_of_find? hfind

/-- A walk that runs out of its bound has met as many definitions, each leading to all that come
after it. -/
lemma exists_path_of_endless {n : Nat} {name : String}
    (h : r.missing n definition args = .error (.endlessBase name)) :
    ∃ path : List Ident, path.length = n ∧ (∀ id ∈ path, r.contains id = true) ∧
      path.Pairwise (Relation.TransGen r.RefersTo) ∧
      ∀ id ∈ path, Relation.ReflTransGen r.RefersTo definition id := by
  induction n generalizing definition args with
  | zero => exact ⟨[], rfl, by simp, .nil, by simp⟩
  | succ n ih =>
    rw [missing] at h
    split at h
    next e hcheck =>
      cases h
      exact absurd hcheck (checkArguments_ne_endlessBase name)
    next d hcheck =>
      obtain ⟨hfind, hdef, -⟩ := checkArguments_eq_ok.mp hcheck
      split at h
      · cases h
      · split at h
        next base baseArgs hbase =>
          have hstep : r.RefersTo definition base := ⟨d, baseArgs, hfind, hdef, hbase⟩
          cases hbases : r.missing n base (baseArgs.map (TypeDecl.substitute d.params args)) with
          | ok ts =>
            rw [hbases] at h
            cases h
          | error e =>
            rw [hbases] at h
            cases h
            obtain ⟨path, hlen, hknown, hpath, hreach⟩ := ih hbases
            have hlater (id) (hid : id ∈ path) : Relation.TransGen r.RefersTo definition id :=
              .head' hstep (hreach id hid)
            refine ⟨definition :: path, by simp [hlen], ?_, ?_, ?_⟩
            · exact List.forall_mem_cons.mpr ⟨contains_of_refersTo hstep, hknown⟩
            · exact List.pairwise_cons.mpr ⟨hlater, hpath⟩
            · exact List.forall_mem_cons.mpr ⟨.refl, fun id hid => (hlater id hid).to_reflTransGen⟩
        · cases h

lemma Acyclic.missing_ne_endlessBase (hr : r.Acyclic) (name : String) :
    r.missing (r.applications + 1) definition args ≠ .error (.endlessBase name) := by
  intro h
  obtain ⟨path, hlen, hknown, hpath, -⟩ := exists_path_of_endless h
  have hne {a b : Ident} (hlater : Relation.TransGen r.RefersTo a b) : a ≠ b := by
    rintro rfl
    exact hr _ hlater
  have hnodup : path.Nodup := hpath.imp hne
  have hle := length_le_applications hnodup hknown
  omega

end Registry

lemma Registration.instances_ne_endlessBase {r : Registry} (hr : r.Acyclic) (x : Registration)
    (name : String) : x.instances r ≠ .error (.endlessBase name) := by
  cases x with
  | register t =>
    rw [instances]
    split
    · simp
    · rcases t.base with _ | base | ⟨definition, args⟩
      · simp [Registry.missingBases]
      · rw [Registry.missingBases]
        split <;> simp
      · exact hr.missing_ne_endlessBase name
  | registerGeneric t params =>
    rw [instances]
    split <;> simp
  | instantiate definition args => exact hr.missing_ne_endlessBase name

namespace Action

open Registry RegistryM

lemma outcome_perform_registration (x : Registration) (r : Registry) :
    outcome (registration x).perform r =
      match x.instances r with
      | .ok ts => (.ok (), r.insertAll (ts ++ x.declarations))
      | .error e => (.error e, r) := by
  rw [perform, outcome_bind, Registration.outcome_perform]
  cases x.instances r <;> rfl

lemma outcome_extend_error {holder : Ident} {member : String} {change : TypeDecl → TypeDecl}
    {r s : Registry} {e : RegistryError}
    (h : outcome (extend holder member change) r = (.error e, s)) :
    e = .unknownOwner holder.text member ∧ s = r := by
  rw [outcome_extend] at h
  split at h
  · cases (Prod.mk.inj h).1
  · obtain ⟨he, hs⟩ := Prod.mk.inj h
    exact ⟨(Except.error.inj he).symm, hs.symm⟩

/-- **Operations are all or nothing.** Whatever registry an operation is tried on, and wherever along
the bases it fails, the types and the names afterwards are those from before. Where no definition
leads back to itself, it does not fail for want of an end either. -/
theorem unchanged_of_error {r s : Registry} {a : Action} {e : RegistryError}
    (h : outcome a.perform r = (.error e, s)) :
    s = r ∧ (r.Acyclic → ∀ name, e ≠ .endlessBase name) := by
  have hextend {holder member change}
      (h : outcome (extend holder member change) r = (.error e, s)) :
      s = r ∧ (r.Acyclic → ∀ name, e ≠ .endlessBase name) := by
    obtain ⟨rfl, rfl⟩ := outcome_extend_error h
    exact ⟨rfl, fun _ _ heq => by cases heq⟩
  cases a with
  | registration x =>
    rw [outcome_perform_registration] at h
    cases hts : x.instances r with
    | ok ts =>
      rw [hts] at h
      cases (Prod.mk.inj h).1
    | error e' =>
      rw [hts] at h
      obtain ⟨he, rfl⟩ := Prod.mk.inj h
      obtain rfl := Except.error.inj he
      exact ⟨rfl, fun hr name heq => x.instances_ne_endlessBase hr name (heq ▸ hts)⟩
  | addField holder f => exact hextend h
  | addProperty holder p => exact hextend h
  | addMethod holder m => exact hextend h

/-- A definition that derives from another one, which derives from a third. -/
def outer : TypeDecl := Chain.above (.global "Outer`1") Chain.middle "T"

/-- The first two definitions of the three. -/
def orphans : List TypeDecl :=
  (Registration.registerGeneric Chain.middle ["T"]).declarations ++
    (Registration.registerGeneric outer ["T"]).declarations

/-- A type that derives from the first of them. -/
def heir : TypeDecl :=
  (TypeDecl.reference "Heir").derivedFromGeneric outer.id [Chain.bool]

lemma map_substitute_above (name : TypeName) (base : TypeDecl) (arg : Ident) :
    [(TypeDecl.parameterOf name "T").id].map (TypeDecl.substitute
      ((Chain.above name base "T").generic ["T"]).params [arg]) = [arg] := by
  have hparams : ((Chain.above name base "T").generic ["T"]).params =
      [(TypeDecl.parameterOf name "T").id] := rfl
  simp [hparams, TypeDecl.substitute]

lemma nodup_orphans : ((builtinTypes ++ orphans).map (·.id) ++
    [.ofInstance outer.id [Chain.bool], .ofInstance Chain.middle.id [Chain.bool],
      Chain.family.id]).Nodup := by
  decide +kernel

lemma acyclic_orphans : (Registry.builtins.insertAll orphans).Acyclic := by
  let rank (id : Ident) : Nat := if id = outer.id then 2 else if id = Chain.middle.id then 1 else 0
  refine acyclic_of_rank rank ?_
  rintro definition base ⟨d, args, hfind, -, hbase⟩
  have hdown : ∀ t ∈ builtinTypes ++ orphans,
      (t.base.bind BaseRef.definition?).all (fun b => decide (rank b < rank t.id)) = true := by
    decide +kernel
  rw [builtins_eq, ← insertAll_append, find?_insertAll, find?_empty, Option.or_none] at hfind
  have hmem := List.mem_reverse.mp (List.mem_of_find?_eq_some hfind)
  obtain rfl : d.id = definition := by simpa using List.find?_some hfind
  have hd := hdown d hmem
  rw [hbase] at hd
  exact of_decide_eq_true hd

theorem unchanged_of_error_heir :
    let r := Registry.builtins.insertAll orphans
    let e := RegistryError.typeNotFound Chain.family.id.text
    ∃ s, outcome (registration (.register heir)).perform r = (.error e, s) ∧ r.Acyclic ∧
      s = r ∧ ∀ name, e ≠ .endlessBase name := by
  intro r e
  have hids : (orphans.map (·.id)).Nodup := by
    have hnodup := (List.nodup_append.mp nodup_orphans).1
    rw [List.map_append] at hnodup
    exact (List.nodup_append.mp hnodup).2.1
  have hmiddle : r.find? Chain.middle.id = some (Chain.middle.generic ["T"]) :=
    find?_insertAll_of_mem hids (t := Chain.middle.generic ["T"])
      (by simp [orphans, Registration.declarations])
  have houter : r.find? outer.id = some (outer.generic ["T"]) :=
    find?_insertAll_of_mem hids (t := outer.generic ["T"])
      (by simp [orphans, Registration.declarations])
  have hbool : r.contains Chain.bool = true := contains_builtins_insertAll.mpr
    (List.mem_map_of_mem (List.mem_append_left _ (by simp [builtinTypes])))
  have hfree {type : Ident} (htype : type ∈ [.ofInstance outer.id [Chain.bool],
      .ofInstance Chain.middle.id [Chain.bool], Chain.family.id]) : r.contains type = false :=
    not_contains_builtins_insertAll fun hmem =>
      (List.nodup_append.mp nodup_orphans).2.2 _ hmem _ htype rfl
  have hfirst : r.checkArguments outer.id [Chain.bool] = .ok (outer.generic ["T"]) :=
    checkArguments_generic houter rfl (by simpa using hbool)
  have hnext : r.checkArguments Chain.middle.id [Chain.bool] =
      .ok (Chain.middle.generic ["T"]) :=
    checkArguments_generic hmiddle rfl (by simpa using hbool)
  have hlast : r.checkArguments Chain.family.id [Chain.bool] = .error e := by
    rw [checkArguments, find?_eq_none_of_not_contains (hfree (by simp))]
  -- The bound is large enough for the walk to get to the missing definition.
  obtain ⟨n, hn⟩ : ∃ n, r.applications + 1 = n + 3 := by
    have hapart : [outer.id, Chain.middle.id].Nodup := by decide +kernel
    have hle : 2 ≤ r.applications := length_le_applications hapart
      (by simp [contains_of_find? houter, contains_of_find? hmiddle])
    exact ⟨r.applications - 2, by omega⟩
  have hlast_missing : r.missing (n + 1) Chain.family.id [Chain.bool] = .error e := by
    rw [missing, hlast]
  have hnext_missing : r.missing (n + 2) Chain.middle.id [Chain.bool] = .error e := by
    rw [missing_eq_of_generic hnext (hfree (by simp)) rfl, Chain.middle, map_substitute_above]
    exact congrArg (Except.map _) hlast_missing
  have hfirst_missing : r.missing (n + 3) outer.id [Chain.bool] = .error e := by
    rw [missing_eq_of_generic hfirst (hfree (by simp)) rfl, outer, map_substitute_above]
    exact congrArg (Except.map _) hnext_missing
  have hname : r.resolve? heir.name = none :=
    resolve?_builtins_insertAll (by decide +kernel)
  have hinstances : (Registration.register heir).instances r = .error e := by
    rw [Registration.instances, hname, if_neg (by simp)]
    change r.missing (r.applications + 1) _ _ = _
    rw [hn]
    exact hfirst_missing
  have hout : outcome (registration (.register heir)).perform r = (.error e, r) := by
    rw [outcome_perform_registration, hinstances]
  obtain ⟨hsame, hends⟩ := unchanged_of_error hout
  exact ⟨r, hout, acyclic_orphans, hsame, hends acyclic_orphans⟩

end Action

end PropertyLowering
