import PropertyLowering.Proofs.Registry.Outcome

/-!
What the closing of a definition over arguments stores.

Everything is read off the registry as it was at the start: the walk along the bases comes first,
and the instances that were missing are stored on the way back, the one of the last base first. So
a failure has stored nothing.
-/

namespace PropertyLowering

/-- The type that a base stands for, with arguments in place of parameters. -/
def BaseRef.target (params args : List Ident) : BaseRef → Ident
  | closed type => type
  | generic definition baseArgs =>
    .ofInstance definition (baseArgs.map (TypeDecl.substitute params args))

namespace Registry

/-- The instance of a definition, as the registry would store it. -/
def newInstance (r : Registry) (d : TypeDecl) (definition : Ident) (args : List Ident) : TypeDecl :=
  d.instanceOf definition args (args.map r.catalog.nameOf) (d.base.map (·.target d.params args))

section

variable (r : Registry) (d : TypeDecl) (definition : Ident) (args : List Ident)

@[simp] lemma id_instanceOf (names : List String) (base : Option Ident) :
    (d.instanceOf definition args names base).id = .ofInstance definition args := rfl

@[simp] lemma id_newInstance :
    (r.newInstance d definition args).id = .ofInstance definition args := rfl

@[simp] lemma definition_newInstance :
    (r.newInstance d definition args).definition = some definition := rfl

@[simp] lemma args_newInstance : (r.newInstance d definition args).args = args := rfl

@[simp] lemma baseType_newInstance :
    (r.newInstance d definition args).baseType = d.base.map (·.target d.params args) := rfl

@[simp] lemma isParameter_newInstance :
    (r.newInstance d definition args).flags.isParameter = d.flags.isParameter := rfl

end

/-- The instances that the closing of a definition adds, the one of the last base first, or why it
fails. -/
def missing (r : Registry) : Nat → Ident → List Ident → Except RegistryError (List TypeDecl)
  | 0, definition, _ => .error (.endlessBase (r.catalog.nameOf definition))
  | n + 1, definition, args =>
    match r.checkArguments definition args with
    | .error e => .error e
    | .ok d =>
      if r.contains (.ofInstance definition args) then
        .ok []
      else
        match d.base with
        | some (.generic baseDefinition baseArgs) =>
          (r.missing n baseDefinition (baseArgs.map (TypeDecl.substitute d.params args))).map
            (· ++ [r.newInstance d definition args])
        | _ => .ok [r.newInstance d definition args]

/-- The instances that the base of a new type adds, or why it cannot be its base. -/
def missingBases (r : Registry) (owner : TypeName) :
    Option BaseRef → Except RegistryError (List TypeDecl)
  | none => .ok []
  | some (.closed base) =>
    if r.contains base then .ok []
    else .error (.typeNotFound s!"base {base.text} of '{owner.text}'")
  | some (.generic definition args) => r.missing (r.applications + 1) definition args

/-- A definition over arguments adds the given instances. -/
inductive Adds (r : Registry) : Ident → List Ident → List TypeDecl → Prop where
  /-- The instance is there. -/
  | held {definition args d} (check : r.checkArguments definition args = .ok d)
      (held : r.contains (.ofInstance definition args) = true) : Adds r definition args []
  /-- The definition has no base, or a closed one. -/
  | last {definition args d} (check : r.checkArguments definition args = .ok d)
      (missing : r.contains (.ofInstance definition args) = false)
      (base : ∀ b as, d.base ≠ some (.generic b as)) :
      Adds r definition args [r.newInstance d definition args]
  | derived {definition args d baseDefinition baseArgs ts}
      (check : r.checkArguments definition args = .ok d)
      (missing : r.contains (.ofInstance definition args) = false)
      (base : d.base = some (.generic baseDefinition baseArgs))
      (bases : Adds r baseDefinition (baseArgs.map (TypeDecl.substitute d.params args)) ts) :
      Adds r definition args (ts ++ [r.newInstance d definition args])

variable {r : Registry} {definition : Ident} {args : List Ident} {ts : List TypeDecl}

lemma checkArguments_eq_ok {d : TypeDecl} :
    r.checkArguments definition args = .ok d ↔
      r.find? definition = some d ∧ d.flags.isDefinition = true ∧ d.params.length = args.length ∧
        ∀ a ∈ args, r.contains a = true := by
  unfold checkArguments
  cases r.find? definition with
  | none => simp
  | some t =>
    dsimp only
    by_cases hdef : t.flags.isDefinition = true
    · by_cases hlen : t.params.length = args.length
      · cases hmissing : args.find? (!r.contains ·) with
        | none =>
          have hall : ∀ a ∈ args, r.contains a = true := by simpa using hmissing
          simp only [hdef, hlen, Bool.not_true, Bool.false_eq_true, if_false, ne_eq,
            not_true_eq_false, Except.ok.injEq, Option.some.injEq]
          refine ⟨?_, fun h => h.1⟩
          rintro rfl
          exact ⟨rfl, hdef, hlen, hall⟩
        | some a =>
          have ha := List.find?_some hmissing
          have hmem := List.mem_of_find?_eq_some hmissing
          simp only [hdef, hlen, Bool.not_true, Bool.false_eq_true, if_false, ne_eq,
            not_true_eq_false, reduceCtorEq, false_iff]
          rintro ⟨-, -, -, hall⟩
          simp [hall a hmem] at ha
      · simp only [hdef, Bool.not_true, Bool.false_eq_true, if_false, ne_eq, hlen,
          not_false_eq_true, if_true, reduceCtorEq, false_iff]
        rintro ⟨heq, -, hlen', -⟩
        exact hlen (Option.some.inj heq ▸ hlen')
    · simp only [hdef, Bool.not_false, if_true, reduceCtorEq, false_iff]
      rintro ⟨heq, hdef', -⟩
      exact hdef (Option.some.inj heq ▸ hdef')

lemma find?_of_checkArguments {d : TypeDecl} (h : r.checkArguments definition args = .ok d) :
    r.find? definition = some d := (checkArguments_eq_ok.mp h).1

lemma checkArguments_ne_endlessBase (name : String) :
    r.checkArguments definition args ≠ .error (.endlessBase name) := by
  unfold checkArguments
  split
  · simp
  next d _ =>
    by_cases hdef : d.flags.isDefinition = true
    · by_cases hlen : d.params.length = args.length
      · cases args.find? (!r.contains ·) <;> simp [hdef, hlen]
      · simp [hdef, hlen]
    · simp [hdef]

lemma missing_of_held {n : Nat} {d : TypeDecl} (hcheck : r.checkArguments definition args = .ok d)
    (hheld : r.contains (.ofInstance definition args) = true) :
    r.missing (n + 1) definition args = .ok [] := by
  rw [missing, hcheck]
  exact if_pos hheld

lemma missing_of_last {n : Nat} {d : TypeDecl} (hcheck : r.checkArguments definition args = .ok d)
    (hmissing : r.contains (.ofInstance definition args) = false)
    (hbase : ∀ b as, d.base ≠ some (.generic b as)) :
    r.missing (n + 1) definition args = .ok [r.newInstance d definition args] := by
  rw [missing, hcheck]
  rcases hd : d.base with _ | b | ⟨b, as⟩
  · simp [hmissing]
  · simp [hmissing]
  · exact absurd hd (hbase b as)

lemma missing_eq_of_generic {n : Nat} {d : TypeDecl} {base : Ident} {baseArgs : List Ident}
    (hcheck : r.checkArguments definition args = .ok d)
    (hmissing : r.contains (.ofInstance definition args) = false)
    (hbase : d.base = some (.generic base baseArgs)) :
    r.missing (n + 1) definition args =
      (r.missing n base (baseArgs.map (TypeDecl.substitute d.params args))).map
        (· ++ [r.newInstance d definition args]) := by
  rw [missing, hcheck]
  simp [hmissing, hbase]

lemma missing_of_generic {n : Nat} {d : TypeDecl} {base : Ident} {baseArgs : List Ident}
    (hcheck : r.checkArguments definition args = .ok d)
    (hmissing : r.contains (.ofInstance definition args) = false)
    (hbase : d.base = some (.generic base baseArgs))
    (hbases : r.missing n base (baseArgs.map (TypeDecl.substitute d.params args)) = .ok ts) :
    r.missing (n + 1) definition args = .ok (ts ++ [r.newInstance d definition args]) := by
  rw [missing_eq_of_generic hcheck hmissing hbase, hbases]
  rfl

/-- **How a walk succeeds**: at an instance that is there, or with a new one at its end or on top of
the rest of the walk. -/
lemma missing_succ_eq_ok {n : Nat} (h : r.missing (n + 1) definition args = .ok ts) :
    ∃ d, r.checkArguments definition args = .ok d ∧
      ((r.contains (.ofInstance definition args) = true ∧ ts = []) ∨
        r.contains (.ofInstance definition args) = false ∧
          (((∀ b as, d.base ≠ some (.generic b as)) ∧
              ts = [r.newInstance d definition args]) ∨
            ∃ b as us, d.base = some (.generic b as) ∧
              r.missing n b (as.map (TypeDecl.substitute d.params args)) = .ok us ∧
              ts = us ++ [r.newInstance d definition args])) := by
  rw [missing] at h
  split at h
  · cases h
  next d hcheck =>
    refine ⟨d, hcheck, ?_⟩
    split at h
    next hheld =>
      cases h
      exact .inl ⟨hheld, rfl⟩
    next hmissing =>
      refine .inr ⟨Bool.not_eq_true _ ▸ hmissing, ?_⟩
      split at h
      next b as hbase =>
        cases hbases : r.missing n b (as.map (TypeDecl.substitute d.params args)) with
        | error e =>
          rw [hbases] at h
          cases h
        | ok us =>
          rw [hbases] at h
          cases h
          exact .inr ⟨b, as, us, hbase, hbases, rfl⟩
      next hbase =>
        cases h
        exact .inl ⟨hbase, rfl⟩

lemma adds_of_missing {n : Nat} (h : r.missing n definition args = .ok ts) :
    r.Adds definition args ts := by
  induction n generalizing definition args ts with
  | zero => cases h
  | succ n ih =>
    obtain ⟨d, hcheck, ⟨hheld, rfl⟩ | ⟨hmissing, ⟨hbase, rfl⟩ | ⟨b, as, us, hbase, hus, rfl⟩⟩⟩ :=
      missing_succ_eq_ok h
    · exact .held hcheck hheld
    · exact .last hcheck hmissing hbase
    · exact .derived hcheck hmissing hbase (ih hus)

lemma Adds.held_or_snoc (h : r.Adds definition args ts) :
    ∃ d, r.checkArguments definition args = .ok d ∧
      ((r.contains (.ofInstance definition args) = true ∧ ts = []) ∨
        ∃ us, ts = us ++ [r.newInstance d definition args] ∧
          ∀ b as, d.base = some (.generic b as) →
            r.Adds b (as.map (TypeDecl.substitute d.params args)) us) := by
  cases h with
  | held hcheck hheld => exact ⟨_, hcheck, .inl ⟨hheld, rfl⟩⟩
  | last hcheck _ hbase => exact ⟨_, hcheck, .inr ⟨[], rfl, fun b as h => absurd h (hbase b as)⟩⟩
  | derived hcheck _ hbase hbases =>
    refine ⟨_, hcheck, .inr ⟨_, rfl, fun b as h => ?_⟩⟩
    rw [hbase] at h
    cases h
    exact hbases

lemma Adds.missing (h : r.Adds definition args ts) : ∀ t ∈ ts, r.contains t.id = false := by
  induction h with
  | held => simp
  | last _ hmissing =>
    intro t ht
    rw [List.mem_singleton.mp ht]
    exact hmissing
  | derived _ hmissing _ _ ih =>
    intro t ht
    rcases List.mem_append.mp ht with ht | ht
    · exact ih t ht
    · rw [List.mem_singleton.mp ht]
      exact hmissing

end Registry

namespace RegistryM

/-- **Closing a definition stores the missing instances, or fails and stores nothing.** -/
lemma outcome_instantiateWithin (n : Nat) (definition : Ident) (args : List Ident) (r : Registry) :
    outcome (instantiateWithin n definition args) r =
      match r.missing n definition args with
      | .ok ts => (.ok (.ofInstance definition args), r.insertAll ts)
      | .error e => (.error e, r) := by
  induction n generalizing definition args with
  | zero => rfl
  | succ n ih =>
    rw [instantiateWithin, outcome_bind, outcome_get]
    dsimp only
    rw [outcome_bind, outcome_liftM, Registry.missing]
    cases hcheck : r.checkArguments definition args with
    | error e => rfl
    | ok d =>
      dsimp only
      split
      · rfl
      · rcases hbase : d.base with _ | b | ⟨b, as⟩
        · simp [Registry.newInstance, hbase]
        · simp [Registry.newInstance, hbase, BaseRef.target]
        · simp only [outcome_bind, outcome_map, ih]
          cases r.missing n b (as.map (TypeDecl.substitute d.params args)) with
          | error e => rfl
          | ok us =>
            simp [Except.map, Registry.insertAll_append, Registry.newInstance, hbase,
              BaseRef.target]

lemma outcome_instantiate (definition : Ident) (args : List Ident) (r : Registry) :
    outcome (instantiate definition args) r =
      match r.missing (r.applications + 1) definition args with
      | .ok ts => (.ok (.ofInstance definition args), r.insertAll ts)
      | .error e => (.error e, r) := by
  rw [instantiate, outcome_bind, outcome_get]
  exact outcome_instantiateWithin _ definition args r

lemma substitute_nil : TypeDecl.substitute [] [] = fun type => type := rfl

lemma outcome_resolveBase (owner : TypeName) (base : Option BaseRef) (r : Registry) :
    outcome (resolveBase owner base) r =
      match r.missingBases owner base with
      | .ok ts => (.ok (base.map (·.target [] [])), r.insertAll ts)
      | .error e => (.error e, r) := by
  rcases base with _ | b | ⟨definition, args⟩
  · rfl
  · rw [resolveBase, outcome_bind, outcome_get, Registry.missingBases]
    dsimp only
    split <;> rfl
  · rw [resolveBase, outcome_map, outcome_instantiate, Registry.missingBases]
    cases r.missing (r.applications + 1) definition args with
    | error e => rfl
    | ok ts => simp [Except.map, BaseRef.target, substitute_nil]

end RegistryM

end PropertyLowering
