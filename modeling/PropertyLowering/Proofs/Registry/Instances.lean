import PropertyLowering.Proofs.Catalog.Lineage
import PropertyLowering.Proofs.Registry.Applications
import PropertyLowering.Proofs.Registry.Atomic
import PropertyLowering.Proofs.Registry.Undisturbed

/-!
Whether the type that closing a definition returns is what was asked for.

Nothing is looked at when the identity of an instance is registered already: whatever has it is
taken for the instance. Main statement: if identities tell apart what a run declares and makes, then
what is returned is the instance that was asked for exactly when there are arguments. A definition
without parameters has the identity of its only instance, and so it is returned itself.
-/

namespace PropertyLowering

/-- The type that a base stands for, with arguments in place of parameters wherever they stand. -/
def BaseRef.substituted (params args : List Ident) : BaseRef → Ident
  | closed type => TypeDecl.substitute params args type
  | generic definition baseArgs =>
    .ofInstance definition (baseArgs.map (TypeDecl.substitute params args))

lemma BaseRef.substituted_eq_target {params : List Ident} {base : BaseRef}
    (h : ∀ type, base = .closed type → type ∉ params) (args : List Ident) :
    base.substituted params args = base.target params args := by
  cases base with
  | closed type => exact TypeDecl.substitute_of_notMem (h type rfl)
  | generic definition baseArgs => rfl

namespace Registry

/-- The type is the definition closed over the arguments: it says so, it is closed, and it derives
from the base of the definition, with the arguments in place of the parameters. -/
def Closes (r : Registry) (definition : Ident) (args : List Ident) (type : Ident) : Prop :=
  ∃ d t, r.find? definition = some d ∧ r.find? type = some t ∧ t.definition = some definition ∧
    t.args = args ∧ t.flags.isDefinition = false ∧
    t.baseType = d.base.map (·.substituted d.params args)

/-- The name of a declaration leads somewhere, unless it is that of a parameter. -/
def Indexes (r : Registry) (t : TypeDecl) : Prop :=
  t.flags.isParameter = false → (r.resolve? t.name).isSome = true

/-- No declaration of the definition poses as a parameter, which would keep its name unknown. -/
def Indexed (declared : List TypeDecl) (definition : Ident) : Prop :=
  ∀ e ∈ declared, e.id = definition → e.flags.isDefinition = true → e.flags.isParameter = false

/-- A declaration is the instance of an application. It has the base that its definition declares,
for as long as the definition cannot be declared anew. -/
structure IsInstance (r : Registry) (declared : List TypeDecl) (a : Application) (t : TypeDecl) :
    Prop where
  definition : t.definition = some a.definition
  args : t.args = a.args
  closed : t.flags.isDefinition = false
  origin : ∃ e ∈ declared, e.id = a.definition ∧ e.flags.isDefinition = true ∧ r.Indexes e
  base : Indexed declared a.definition → ∀ d, r.find? a.definition = some d →
    d.flags.isDefinition = true → t.baseType = d.base.map (·.target d.params a.args)

/-- Where a registered type comes from. -/
inductive Origin (start : Registry) (declared : List TypeDecl) (apps : Set Application)
    (r : Registry) (type : Ident) (t : TypeDecl) : Prop where
  | start (held : start.contains type = true) (closed : t.flags.isDefinition = false)
  | declared {e} (mem : e ∈ declared) (id : e.id = type) (shell : t.shell = e.shell)
      (indexed : r.Indexes e)
  | made {a} (mem : a ∈ apps) (args : a.args ≠ []) (id : a.id = type)
      (isInstance : r.IsInstance declared a t)

/-- All that is registered was there at the start, was declared, or was made for an application. -/
def Accounted (start : Registry) (declared : List TypeDecl) (apps : Set Application)
    (r : Registry) : Prop :=
  ∀ type t, r.find? type = some t → Origin start declared apps r type t

variable {start r s : Registry} {declared : List TypeDecl} {apps : Set Application}
  {a : Application} {t u d e : TypeDecl} {type definition : Ident} {args : List Ident}

lemma Accounted.exists_declared (h : Accounted start declared apps r) (hd : r.find? type = some d)
    (hopen : d.flags.isDefinition = true) :
    ∃ e ∈ declared, e.id = type ∧ e.flags.isDefinition = true ∧ r.Indexes e := by
  cases h type d hd with
  | start _ closed => rw [closed] at hopen; cases hopen
  | declared mem id shell indexed =>
    have hflags : d.flags = _ := congrArg (·.flags) shell
    exact ⟨_, mem, id, hflags ▸ hopen, indexed⟩
  | made _ _ _ isInstance => rw [isInstance.closed] at hopen; cases hopen

lemma isInstance_newInstance (h : Accounted start declared apps r)
    (hcheck : r.checkArguments a.definition a.args = .ok d) :
    r.IsInstance declared a (r.newInstance d a.definition a.args) := by
  obtain ⟨hfind, hopen, -, -⟩ := checkArguments_eq_ok.mp hcheck
  refine ⟨rfl, rfl, rfl, h.exists_declared hfind hopen, fun _ d' hd' _ => ?_⟩
  obtain rfl := Option.some.inj (hfind.symm.trans hd')
  rfl

lemma IsInstance.congr (h : r.IsInstance declared a t) (hshell : u.shell = t.shell)
    (hresolve : s.resolve? = r.resolve?)
    (hfind : ∀ type d', s.find? type = some d' → ∃ d, r.find? type = some d ∧ d'.shell = d.shell) :
    s.IsInstance declared a u where
  definition := (congrArg (·.definition) hshell).trans h.definition
  args := (congrArg (·.args) hshell).trans h.args
  closed := (congrArg (·.flags.isDefinition) hshell).trans h.closed
  origin := by
    obtain ⟨e, he, hid, hopen, hindexed⟩ := h.origin
    exact ⟨e, he, hid, hopen, fun hparam => hresolve ▸ hindexed hparam⟩
  base hindexed d' hd' hopen := by
    obtain ⟨d, hd, hsame⟩ := hfind _ d' hd'
    have hbase := h.base hindexed d hd ((congrArg (·.flags.isDefinition) hsame).symm.trans hopen)
    calc u.baseType = t.baseType := congrArg (·.baseType) hshell
      _ = d.base.map (·.target d.params a.args) := hbase
      _ = d'.base.map (·.target d'.params a.args) :=
          (congrArg (fun d => d.base.map (·.target d.params a.args)) hsame).symm

lemma Indexes.insertAll (h : r.Indexes e) (ts : List TypeDecl) : (r.insertAll ts).Indexes e := by
  intro hparam
  rw [resolve?_insertAll, Option.isSome_or, h hparam, Bool.or_true]

lemma exists_find?_of_modify {holder : Ident} {change : TypeDecl → TypeDecl}
    (hchange : ChangesMembers change) (h : (r.modify holder change).find? type = some u) :
    ∃ t, r.find? type = some t ∧ u.shell = t.shell := by
  rw [find?_modify] at h
  split at h
  · obtain ⟨t, ht, rfl⟩ := Option.map_eq_some_iff.mp h
    obtain ⟨fields, properties, methods, heq⟩ := hchange t
    exact ⟨t, ht, by rw [heq]; rfl⟩
  · exact ⟨u, h, rfl⟩

section Registration

variable {x : Registration} {ts : List TypeDecl}

lemma isDefinition_of_instances (hts : x.instances r = .ok ts) (ht : t ∈ ts) :
    t.flags.isDefinition = false := by
  rcases Registration.adds_of_asked hts with ⟨-, rfl⟩ | ⟨root, -, hadds⟩
  · cases ht
  · obtain ⟨a, d, -, -, -, rfl, -⟩ := hadds.exists_application ht
    rfl

lemma find?_of_open (hts : x.instances r = .ok ts) (hdeclared : x.declarations ⊆ declared)
    (hnames : ∀ t ∈ declared, ∀ u ∈ declared, t.id = u.id → t.name = u.name)
    (hindexed : Indexed declared definition)
    (horigin : ∃ e ∈ declared, e.id = definition ∧ e.flags.isDefinition = true ∧ r.Indexes e)
    (hd : (r.insertAll (ts ++ x.declarations)).find? definition = some d)
    (hopen : d.flags.isDefinition = true) : r.find? definition = some d := by
  rcases mem_or_find?_of_insertAll hd with ⟨hmem, hid⟩ | hold
  · rcases List.mem_append.mp hmem with hmade | hnew
    · rw [isDefinition_of_instances hts hmade] at hopen
      cases hopen
    · obtain ⟨e, he, hide, hopen', hname⟩ := horigin
      have hfree := Registration.resolve?_declarations hts d hnew
        (hindexed d (hdeclared hnew) hid hopen)
      have hsome := hname (hindexed e he hide hopen')
      rw [hnames e he d (hdeclared hnew) (hide.trans hid.symm), hfree] at hsome
      cases hsome
  · exact hold

lemma IsInstance.insertAll (h : r.IsInstance declared a t) (hts : x.instances r = .ok ts)
    (hdeclared : x.declarations ⊆ declared)
    (hnames : ∀ t ∈ declared, ∀ u ∈ declared, t.id = u.id → t.name = u.name) :
    (r.insertAll (ts ++ x.declarations)).IsInstance declared a t where
  definition := h.definition
  args := h.args
  closed := h.closed
  origin := by
    obtain ⟨e, he, hid, hopen, hname⟩ := h.origin
    exact ⟨e, he, hid, hopen, hname.insertAll _⟩
  base hindexed d hd hopen :=
    h.base hindexed d (find?_of_open hts hdeclared hnames hindexed h.origin hd hopen) hopen

lemma Accounted.insertAll (h : Accounted start declared apps r) (hts : x.instances r = .ok ts)
    (hdeclared : x.declarations ⊆ declared)
    (hnames : ∀ t ∈ declared, ∀ u ∈ declared, t.id = u.id → t.name = u.name)
    (hmet : (Action.registration x).met r ⊆ apps) :
    Accounted start declared apps (r.insertAll (ts ++ x.declarations)) := by
  intro type t ht
  rcases mem_or_find?_of_insertAll ht with ⟨hmem, hid⟩ | hold
  · rcases List.mem_append.mp hmem with hmade | hnew
    · rcases Registration.adds_of_asked hts with ⟨-, rfl⟩ | ⟨root, hroot, hadds⟩
      · cases hmade
      · obtain ⟨a, d, hleads, hcheck, hmissing, rfl, -⟩ := hadds.exists_application hmade
        exact .made (hmet (Action.mem_met_of_leads hroot hleads))
          (args_ne_nil_of_missing (find?_of_checkArguments hcheck) hmissing) hid
          ((isInstance_newInstance h hcheck).insertAll hts hdeclared hnames)
    · refine .declared (hdeclared hnew) hid rfl fun hparam => ?_
      obtain ⟨u, -, -, -, hresolve⟩ :=
        exists_resolve?_insertAll (r := r) (List.mem_append_right ts hnew) hparam
      rw [hresolve]
      rfl
  · cases h type t hold with
    | start held closed => exact .start held closed
    | declared mem id shell indexed => exact .declared mem id shell (indexed.insertAll _)
    | made mem args id isInstance =>
      exact .made mem args id (isInstance.insertAll hts hdeclared hnames)

end Registration

lemma Accounted.modify (h : Accounted start declared apps r) (holder : Ident)
    {change : TypeDecl → TypeDecl} (hchange : ChangesMembers change) :
    Accounted start declared apps (r.modify holder change) := by
  intro type u hu
  obtain ⟨t, ht, hshell⟩ := exists_find?_of_modify hchange hu
  cases h type t ht with
  | start held closed =>
    exact .start held ((congrArg (·.flags.isDefinition) hshell).trans closed)
  | declared mem id shell indexed => exact .declared mem id (hshell.trans shell) indexed
  | made mem args id isInstance =>
    exact .made mem args id (isInstance.congr hshell (resolve?_modify r holder change) fun _ _ =>
      exists_find?_of_modify hchange)

lemma Accounted.exists_instance (h : Accounted start declared apps r)
    (hapart : Apart start declared apps) (ha : a ∈ apps) (hargs : a.args ≠ [])
    (hheld : r.contains a.id = true) : ∃ t, r.find? a.id = some t ∧ r.IsInstance declared a t := by
  obtain ⟨t, ht⟩ := exists_find?_of_contains hheld
  cases h _ t ht with
  | start held _ =>
    rw [hapart.not_started a ha hargs] at held
    cases held
  | declared mem id => exact absurd id (hapart.not_declared a ha hargs _ mem)
  | @made b mem args id isInstance =>
    obtain rfl := hapart.eq_of_id b mem a ha args hargs id
    exact ⟨t, ht, isInstance⟩

lemma IsInstance.closes (h : r.IsInstance declared a t) (hd : r.find? a.definition = some d)
    (hopen : d.flags.isDefinition = true) (ht : r.find? type = some t)
    (hindexed : Indexed declared a.definition)
    (hbase : ∀ base, d.base = some (.closed base) → base ∉ d.params) :
    r.Closes a.definition a.args type := by
  refine ⟨d, t, hd, ht, h.definition, h.args, h.closed, (h.base hindexed d hd hopen).trans ?_⟩
  exact Option.map_congr fun base hmem =>
    (BaseRef.substituted_eq_target (fun b hb => hbase b (hb ▸ hmem)) a.args).symm

end Registry

namespace Action

open Registry

variable {start r : Registry} {declared : List TypeDecl} {apps : Set Application}

lemma accounted_after {a : Action} (h : Accounted start declared apps r)
    (hdeclared : a.declared r ⊆ declared) (hmet : a.met r ⊆ apps)
    (hnames : ∀ t ∈ declared, ∀ u ∈ declared, t.id = u.id → t.name = u.name) :
    Accounted start declared apps (after r a) := by
  rcases after_cases r a with ⟨x, ts, rfl, hts, heq⟩ | ⟨holder, change, hchange, -, heq⟩ | ⟨-, heq⟩
  · rw [heq]
    refine h.insertAll hts ?_ hnames hmet
    rwa [Action.declared, hts] at hdeclared
  · rw [heq]
    exact h.modify holder hchange
  · rwa [heq]

lemma accounted_runAll (actions : List Action)
    (hstart : ∀ type t, start.find? type = some t → t.flags.isDefinition = false)
    (hnames : ∀ t ∈ declaredBy start actions, ∀ u ∈ declaredBy start actions,
      t.id = u.id → t.name = u.name) :
    Accounted start (declaredBy start actions) (metBy start actions) (runAll start actions) := by
  refine trace_induction (fun type t ht => .start (contains_of_find? ht) (hstart type t ht))
    fun step hstep h => accounted_after h ?_ ?_ hnames
  · exact fun t ht => List.mem_flatMap.mpr ⟨step, hstep, ht⟩
  · exact fun a ha => ⟨step, hstep, ha⟩

lemma closed_start (hstart : start = .empty ∨ start = .builtins) {type : Ident} {t : TypeDecl}
    (h : start.find? type = some t) : t.flags.isDefinition = false := by
  have hclosed : ∀ t ∈ builtinTypes, t.flags.isDefinition = false := by decide
  exact hclosed t (mem_builtinTypes_of_find? hstart h)

lemma declaredBy_instantiate (r : Registry) (actions : List Action) (definition : Ident)
    (args : List Ident) :
    declaredBy r (actions ++ [.registration (.instantiate definition args)]) =
      declaredBy r actions := by
  have hnone (r : Registry) :
      Action.declared r (.registration (.instantiate definition args)) = [] := by
    rw [Action.declared]
    split <;> rfl
  rw [declaredBy_append, declaredBy_singleton, hnone, List.append_nil]

lemma mem_metBy_instantiate (r : Registry) (actions : List Action) (definition : Ident)
    (args : List Ident) :
    ⟨definition, args⟩ ∈
      metBy r (actions ++ [.registration (.instantiate definition args)]) := by
  rw [metBy_append, metBy_singleton]
  exact .inr (mem_met_of_leads rfl .refl)

lemma accounted_instantiate {actions : List Action} {definition : Ident} {args : List Ident}
    {ts : List TypeDecl} (hstart : start = .empty ∨ start = .builtins)
    (hnames : ∀ t ∈ declaredBy start actions, ∀ u ∈ declaredBy start actions,
      t.id = u.id → t.name = u.name)
    (hts : (runAll start actions).missing ((runAll start actions).applications + 1) definition args =
      .ok ts) :
    Accounted start (declaredBy start actions)
      (metBy start (actions ++ [.registration (.instantiate definition args)]))
      ((runAll start actions).insertAll ts) := by
  have h := accounted_runAll (actions ++ [.registration (.instantiate definition args)])
    (fun _ _ => closed_start hstart) (by rwa [declaredBy_instantiate])
  rwa [declaredBy_instantiate, runAll_append, runAll_cons, runAll_nil,
    after_of_instances (x := .instantiate definition args) hts, Registration.declarations,
    List.append_nil] at h

lemma declaredBy_registerGeneric {t : TypeDecl} (h : start.resolve? t.name = none)
    (params : List String) :
    declaredBy start [.registration (.registerGeneric t params)] =
      (Registration.registerGeneric t params).declarations := by
  rw [declaredBy_singleton,
    declared_of_instances (Registration.instances_registerGeneric h params)]

lemma metBy_registerGeneric {t d : TypeDecl} {params : List String} {definition : Ident}
    (args : List Ident)
    (hd : (after start (registration (.registerGeneric t params))).find? definition = some d)
    (hbase : ∀ b as, d.base ≠ some (.generic b as)) :
    metBy start ([registration (.registerGeneric t params)] ++
      [registration (.instantiate definition args)]) ⊆ {⟨definition, args⟩} := by
  rw [metBy_append, metBy_singleton, metBy_singleton, met_registerGeneric, Set.empty_union]
  rintro a ⟨root, hroot, hleads⟩
  obtain rfl := Option.some.inj hroot
  rcases hleads.eq_or_base with rfl | ⟨c, hc, -⟩
  · rfl
  · rw [baseApplication?_of_last hd hbase] at hc
    cases hc

end Action

namespace RegistryM

open Registry PropertyLowering.Action

/-- **What is returned is what was asked for, if there are arguments.** Let the identities of a run
tell apart what it declares and the applications that it meets. Without arguments, the closing of a
definition returns the definition itself and changes nothing. With arguments, it returns a closed
type that says to be the definition over the arguments, and derives from the base that the
definition declares. So it returns an instance as asked for exactly when there are arguments, where
the definition is no parameter and has no parameter of its own for a closed base. -/
theorem closes_instantiate {start : Registry} (hstart : start = .empty ∨ start = .builtins)
    {actions : List Action} {definition : Ident} {args : List Ident}
    (hnames : ∀ t ∈ declaredBy start actions, ∀ u ∈ declaredBy start actions,
      t.id = u.id → t.name = u.name)
    (hapart : Apart start (declaredBy start actions)
      (metBy start (actions ++ [.registration (.instantiate definition args)])))
    {type : Ident} {s : Registry}
    (h : outcome (instantiate definition args) (runAll start actions) = (.ok type, s)) :
    ∃ d, s.find? definition = some d ∧ d.flags.isDefinition = true ∧
      (args = [] → type = definition ∧ s = runAll start actions) ∧
      (args ≠ [] → ∃ t, s.find? type = some t ∧ t.definition = some definition ∧ t.args = args ∧
        t.flags.isDefinition = false ∧
        (Indexed (declaredBy start actions) definition →
          t.baseType = d.base.map (·.target d.params args))) ∧
      (Indexed (declaredBy start actions) definition →
        (∀ base, d.base = some (.closed base) → base ∉ d.params) →
        (s.Closes definition args type ↔ args ≠ [])) := by
  obtain ⟨ts, hts, rfl, rfl⟩ := missing_of_outcome h
  have hadds := adds_of_missing hts
  obtain ⟨d, hcheck, -⟩ := hadds.held_or_snoc
  obtain ⟨hfind, hopen, -, -⟩ := checkArguments_eq_ok.mp hcheck
  have hd := hadds.find?_insertAll hfind
  have hempty (hnil : args = []) : Ident.ofInstance definition args = definition ∧
      (runAll start actions).insertAll ts = runAll start actions := by
    subst hnil
    rw [hadds.eq_nil_of_held (contains_of_find? hfind)]
    exact ⟨rfl, rfl⟩
  have hfull (hargs : args ≠ []) :=
    (accounted_instantiate hstart hnames hts).exists_instance hapart
      (mem_metBy_instantiate start actions definition args) hargs hadds.contains_insertAll
  refine ⟨d, hd, hopen, hempty, fun hargs => ?_, fun hindexed hbase => ⟨?_, fun hargs => ?_⟩⟩
  · obtain ⟨t, ht, hinstance⟩ := hfull hargs
    exact ⟨t, ht, hinstance.definition, hinstance.args, hinstance.closed,
      fun hindexed => hinstance.base hindexed d hd hopen⟩
  · rintro ⟨e, t, -, ht, -, -, hclosed, -⟩ hnil
    rw [(hempty hnil).1, hd] at ht
    rw [← Option.some.inj ht, hopen] at hclosed
    cases hclosed
  · obtain ⟨t, ht, hinstance⟩ := hfull hargs
    exact hinstance.closes hd hopen ht hindexed hbase

theorem closes_instantiate_box :
    let object := (TypeName.global "object").ident
    let r := runAll .builtins [.registration (.registerGeneric (box object) ["T"])]
    ∃ s, outcome (instantiate (box object).id [bool]) r =
        (.ok (.ofInstance (box object).id [bool]), s) ∧
      s.Closes (box object).id [bool] (.ofInstance (box object).id [bool]) := by
  intro object r
  let x := Registration.registerGeneric (box object) ["T"]
  have hr : r = Registry.builtins.insertAll x.declarations :=
    after_registerGeneric resolve?_builtins_box ["T"]
  have hnodup : (x.declarations.map TypeDecl.id).Nodup := by decide +kernel
  have hcheck : r.checkArguments (box object).id [bool] = .ok ((box object).generic ["T"]) :=
    hr ▸ checkArguments_box (contains_builtins_insertAll.mpr (by decide +kernel)) hnodup
  have hmissing : r.contains (.ofInstance (box object).id [bool]) = false :=
    hr ▸ not_contains_builtins_insertAll (by decide +kernel)
  have houtcome := outcome_instantiate (box object).id [bool] r
  rw [missing_of_last hcheck hmissing nofun] at houtcome
  have hdeclared : declaredBy .builtins [.registration x] = x.declarations :=
    declaredBy_registerGeneric resolve?_builtins_box ["T"]
  have hmet := metBy_registerGeneric [bool] (find?_of_checkArguments hcheck) nofun
  have hnames : ∀ t ∈ declaredBy .builtins [.registration x],
      ∀ u ∈ declaredBy .builtins [.registration x], t.id = u.id → t.name = u.name := by
    rw [hdeclared]
    decide +kernel
  have hbox : Apart .builtins x.declarations {⟨(box object).id, [bool]⟩} := by
    refine ⟨?_, ?_, ?_⟩
    · rintro a rfl b rfl - - -
      rfl
    · rintro a rfl -
      exact not_contains_builtins (by decide +kernel)
    · rintro a rfl -
      decide +kernel
  have hapart : Apart .builtins (declaredBy .builtins [.registration x]) _ :=
    hdeclared.symm ▸ hbox.mono (List.Subset.refl _) hmet
  obtain ⟨d, hd, -, -, -, hcloses⟩ := closes_instantiate (.inr rfl) hnames hapart houtcome
  have hold : (r.insert (r.newInstance ((box object).generic ["T"]) (box object).id [bool])).find?
      (box object).id = some ((box object).generic ["T"]) := by
    rw [find?_insert, if_neg (by decide +kernel)]
    exact find?_of_checkArguments hcheck
  obtain rfl := Option.some.inj (hold.symm.trans hd)
  refine ⟨_, houtcome, (hcloses ?_ ?_).mpr (List.cons_ne_nil _ _)⟩
  · rw [hdeclared, Indexed]
    decide +kernel
  · rintro base ⟨rfl⟩
    decide +kernel

/-- Not all that is returned is an instance: over no arguments it is the definition itself. -/
theorem definition_returned :
    ¬ ∀ (start : Registry) (actions : List Action) (definition : Ident) (args : List Ident)
      (type : Ident) (s : Registry), start = .empty ∨ start = .builtins →
      (∀ t ∈ declaredBy start actions, ∀ u ∈ declaredBy start actions,
        t.id = u.id → t.name = u.name) →
      Apart start (declaredBy start actions)
        (metBy start (actions ++ [.registration (.instantiate definition args)])) →
      (runAll start actions).Acyclic →
      outcome (instantiate definition args) (runAll start actions) = (.ok type, s) →
      s.Closes definition args type := by
  intro hclaim
  let t := TypeDecl.reference "Box"
  let d := t.generic []
  have hdeclared := declaredBy_registerGeneric (t := t) (resolve?_empty _) []
  have hr : runAll .empty [.registration (.registerGeneric t [])] = Registry.empty.insert d :=
    after_registerGeneric (resolve?_empty _) []
  have hfind (type) : (runAll .empty [.registration (.registerGeneric t [])]).find? type =
      if t.id = type then some d else none := by
    rw [hr, find?_insert, find?_empty]
    rfl
  have hcheck : (runAll .empty [.registration (.registerGeneric t [])]).checkArguments t.id [] =
      .ok d := checkArguments_generic (by rw [hfind, if_pos rfl]) rfl nofun
  have hmet := metBy_registerGeneric [] (find?_of_checkArguments hcheck) nofun
  have houtcome := outcome_instantiate t.id []
    (runAll .empty [.registration (.registerGeneric t [])])
  rw [missing_of_held hcheck (contains_of_find? (find?_of_checkArguments hcheck))] at houtcome
  have hapart : Apart .empty [d] {⟨t.id, []⟩} :=
    ⟨fun a ha _ _ hargs => absurd rfl (ha ▸ hargs), fun a ha hargs => absurd rfl (ha ▸ hargs),
      fun a ha hargs => absurd rfl (ha ▸ hargs)⟩
  have hacyclic : (runAll .empty [.registration (.registerGeneric t [])]).Acyclic := by
    refine acyclic_of_rank (fun _ => 0) fun definition base hrefers => ?_
    obtain ⟨e, as, he, -, hbase⟩ := hrefers
    rw [hfind] at he
    split at he
    · cases he
      cases hbase
    · cases he
  have hnames : ∀ t ∈ [d], ∀ u ∈ [d], t.id = u.id → t.name = u.name := by simp
  obtain ⟨-, u, -, hu, -, -, hclosed, -⟩ := hclaim .empty _ t.id [] _ _ (.inl rfl)
    (hdeclared.symm ▸ hnames) (hdeclared.symm ▸ hapart.mono (List.Subset.refl _) hmet) hacyclic
    houtcome
  rw [insertAll_nil, Ident.ofInstance_nil, find?_of_checkArguments hcheck] at hu
  rw [← Option.some.inj hu] at hclosed
  cases hclosed

end RegistryM

end PropertyLowering
