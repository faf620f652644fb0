import PropertyLowering.Proofs.Registry.Endless
import PropertyLowering.Proofs.Registry.Settled

/-!
Closing definitions again and in another order.

Two walks along generic bases may share any part of their ways, and the one that comes second finds
that part made. Main statement: to close a definition again changes nothing, what it adds is the
instances on its way that were missing, and two closings that succeed on a registry succeed one
after the other, in either order, with the same result.
-/

namespace PropertyLowering

namespace Registry

/-- A type that is in the second registry only. -/
def Added (r s : Registry) (t : TypeDecl) : Prop :=
  r.contains t.id = false ∧ s.find? t.id = some t

section

variable {r s : Registry} {apps : Set Application} {a b : Application} {d : TypeDecl}
  {definition : Ident} {args : List Ident} {ts us : List TypeDecl}

lemma checkArguments_of_find? (hfind : ∀ type t, r.find? type = some t → s.find? type = some t)
    (h : r.checkArguments definition args = .ok d) : s.checkArguments definition args = .ok d := by
  obtain ⟨hd, hopen, hlen, hargs⟩ := checkArguments_eq_ok.mp h
  refine checkArguments_eq_ok.mpr ⟨hfind _ d hd, hopen, hlen, fun a ha => ?_⟩
  obtain ⟨t, ht⟩ := exists_find?_of_contains (hargs a ha)
  exact contains_of_find? (hfind a t ht)

lemma newInstance_of_find? (hfind : ∀ type t, r.find? type = some t → s.find? type = some t)
    (h : r.checkArguments definition args = .ok d) :
    s.newInstance d definition args = r.newInstance d definition args := by
  have hnames : args.map s.catalog.nameOf = args.map r.catalog.nameOf := by
    refine List.map_congr_left fun a ha => ?_
    obtain ⟨t, ht⟩ := exists_find?_of_contains ((checkArguments_eq_ok.mp h).2.2.2 a ha)
    simp only [Catalog.nameOf, catalog_find?, ht, hfind a t ht]
  rw [newInstance, newInstance, hnames]

lemma Adds.unique (h : r.Adds definition args ts) (h' : r.Adds definition args us) : ts = us := by
  induction h generalizing us with
  | held _ hheld => exact (h'.eq_nil_of_held hheld).symm
  | last hcheck hmissing hbase =>
    cases h' with
    | held _ hheld =>
      rw [hmissing] at hheld
      cases hheld
    | last hcheck' =>
      obtain rfl := Except.ok.inj (hcheck.symm.trans hcheck')
      rfl
    | derived hcheck' _ hbase' =>
      obtain rfl := Except.ok.inj (hcheck.symm.trans hcheck')
      exact absurd hbase' (hbase _ _)
  | derived hcheck hmissing hbase _ ih =>
    cases h' with
    | held _ hheld =>
      rw [hmissing] at hheld
      cases hheld
    | last hcheck' _ hbase' =>
      obtain rfl := Except.ok.inj (hcheck.symm.trans hcheck')
      exact absurd hbase (hbase' _ _)
    | derived hcheck' _ hbase' hbases =>
      obtain rfl := Except.ok.inj (hcheck.symm.trans hcheck')
      rw [hbase] at hbase'
      cases hbase'
      rw [ih hbases]

end

section

variable {r : Registry} {apps : Set Application} {a b : Application} {ts us : List TypeDecl}

lemma Adds.eq_of_id (htelling : Telling apps) (ha : r.Adds a.definition a.args ts)
    (hb : r.Adds b.definition b.args us) (happs : ∀ c, r.Leads a c ∨ r.Leads b c → c ∈ apps)
    {t u : TypeDecl} (ht : t ∈ ts) (hu : u ∈ us) (h : t.id = u.id) : t = u := by
  obtain ⟨x, d, hx, hxcheck, hxmissing, rfl, -⟩ := ha.exists_application ht
  obtain ⟨y, e, hy, hycheck, hymissing, rfl, -⟩ := hb.exists_application hu
  obtain rfl := htelling x (happs x (.inl hx)) y (happs y (.inr hy))
    (args_ne_nil_of_missing (find?_of_checkArguments hxcheck) hxmissing)
    (args_ne_nil_of_missing (find?_of_checkArguments hycheck) hymissing) h
  obtain rfl := Except.ok.inj (hxcheck.symm.trans hycheck)
  rfl

lemma Adds.eq_of_mem_append (htelling : Telling apps) (ha : r.Adds a.definition a.args ts)
    (hb : r.Adds b.definition b.args us) (happs : ∀ c, r.Leads a c ∨ r.Leads b c → c ∈ apps) :
    ∀ t ∈ ts ++ us, ∀ u ∈ ts ++ us, t.id = u.id → t = u := by
  intro t ht u hu h
  rcases List.mem_append.mp ht with ht | ht <;> rcases List.mem_append.mp hu with hu | hu
  · exact ha.eq_of_id htelling ha (fun c hc => happs c (.inl (or_self_iff.mp hc))) ht hu h
  · exact ha.eq_of_id htelling hb happs ht hu h
  · exact hb.eq_of_id htelling ha (fun c hc => happs c hc.symm) ht hu h
  · exact hb.eq_of_id htelling hb (fun c hc => happs c (.inr (or_self_iff.mp hc))) ht hu h

lemma Adds.subset_of_made (htelling : Telling apps) (ha : r.Adds a.definition a.args ts)
    (hb : r.Adds b.definition b.args us) (happs : ∀ c, r.Leads a c ∨ r.Leads b c → c ∈ apps)
    (hmade : b.id ∈ ts.map (·.id)) : us ⊆ ts := by
  obtain ⟨t, ht, hid⟩ := List.mem_map.mp hmade
  obtain ⟨x, d, hx, hcheck, hmissing, rfl, vs, hvs, hsub⟩ := ha.exists_application ht
  obtain ⟨e, hbcheck, -⟩ := hb.held_or_snoc
  have hid : x.id = b.id := hid
  obtain rfl := htelling x (happs x (.inl hx)) b (happs b (.inr .refl))
    (args_ne_nil_of_missing (find?_of_checkArguments hcheck) hmissing)
    (args_ne_nil_of_missing (find?_of_checkArguments hbcheck) (hid ▸ hmissing)) hid
  rwa [hb.unique hvs]

/-- **A walk after another one** makes the rest of what both of them are missing. -/
lemma exists_missing_after (htelling : Telling apps) (ha : r.Adds a.definition a.args ts) {n : Nat}
    (hb : r.missing n b.definition b.args = .ok us)
    (happs : ∀ c, r.Leads a c ∨ r.Leads b c → c ∈ apps) :
    ∃ vs, (r.insertAll ts).missing n b.definition b.args = .ok vs ∧
      ∀ t, t ∈ ts ++ vs ↔ t ∈ ts ++ us := by
  induction n generalizing b us with
  | zero => cases hb
  | succ n ih =>
    have hadds := adds_of_missing hb
    obtain ⟨d, hcheck, hcases⟩ := missing_succ_eq_ok hb
    have hfind (type t) (ht : r.find? type = some t) : (r.insertAll ts).find? type = some t :=
      ha.find?_insertAll ht
    have hcheck' := checkArguments_of_find? hfind hcheck
    have hnew := newInstance_of_find? hfind hcheck
    cases hheld : (r.insertAll ts).contains (.ofInstance b.definition b.args) with
    | true =>
      -- The rest of the way has been made by the walk before, or there is none.
      have hsub : us ⊆ ts := by
        rcases (contains_insertAll _ _).mp hheld with hmade | hold
        · exact ha.subset_of_made htelling hadds happs hmade
        · rw [hadds.eq_nil_of_held hold]
          exact List.nil_subset ts
      refine ⟨[], missing_of_held hcheck' hheld, fun t => ?_⟩
      rw [List.append_nil, List.mem_append]
      exact (or_iff_left_of_imp (@hsub t)).symm
    | false =>
      rcases hcases with ⟨hold, -⟩ | ⟨-, ⟨hbase, rfl⟩ | ⟨base, as, vs, hbase, hvs, rfl⟩⟩
      · rw [(contains_insertAll _ _).mpr (.inr hold)] at hheld
        cases hheld
      · exact ⟨_, missing_of_last hcheck' hheld hbase, by rw [hnew]; exact fun _ => Iff.rfl⟩
      · have hstep := baseApplication?_of_generic (find?_of_checkArguments hcheck) hbase
        obtain ⟨ws, hws, hmem⟩ := ih (b := ⟨base, _⟩) hvs fun c hc =>
          happs c (hc.imp_right (.head hstep))
        refine ⟨_, missing_of_generic hcheck' hheld hbase hws, fun t => ?_⟩
        rw [hnew, ← List.append_assoc, List.mem_append, hmem, ← List.mem_append, List.append_assoc]

lemma Adds.find?_eq_some_iff (htelling : Telling apps) (h : r.Adds a.definition a.args ts)
    (happs : ∀ c, r.Leads a c → c ∈ apps) (hstops : r.StopsSettled a) {type : Ident} {t : TypeDecl}
    (htype : r.contains type = false) :
    (r.insertAll ts).find? type = some t ↔
      ∃ c d, r.Leads a c ∧ c.id = type ∧ r.find? c.definition = some d ∧
        t = r.newInstance d c.definition c.args := by
  constructor
  · intro ht
    rcases mem_or_find?_of_insertAll ht with ⟨hmem, hid⟩ | hold
    · obtain ⟨c, d, hc, hcheck, -, rfl, -⟩ := h.exists_application hmem
      exact ⟨c, d, hc, hid, find?_of_checkArguments hcheck, rfl⟩
    · rw [contains_of_find? hold] at htype
      cases htype
  · rintro ⟨c, d, hc, rfl, hd, rfl⟩
    have hmem := h.mem_of_leads hstops hc htype hd
    exact find?_insertAll_of_unique hmem fun u hu hid =>
      h.eq_of_id htelling h (fun c hc => happs c (or_self_iff.mp hc)) hu hmem hid

end

end Registry

namespace RegistryM

open Registry PropertyLowering.Action

variable {r s : Registry} {apps : Set Application} {a b : Application} {ts us : List TypeDecl}

lemma outcome_instantiate_again {definition type : Ident} {args : List Ident}
    (h : outcome (instantiate definition args) r = (.ok type, s)) :
    outcome (instantiate definition args) s = (.ok type, s) := by
  obtain ⟨ts, hts, rfl, rfl⟩ := missing_of_outcome h
  have hadds := adds_of_missing hts
  obtain ⟨d, hcheck, -⟩ := hadds.held_or_snoc
  have hcheck' := checkArguments_of_find? (fun _ _ => hadds.find?_insertAll) hcheck
  rw [outcome_instantiate, missing_of_held hcheck' hadds.contains_insertAll]
  rfl

lemma exists_outcome_after (htelling : Telling apps) (ha : r.Adds a.definition a.args ts)
    (hb : r.missing (r.applications + 1) b.definition b.args = .ok us)
    (happs : ∀ c, r.Leads a c ∨ r.Leads b c → c ∈ apps) :
    ∃ all, outcome (instantiate b.definition b.args) (r.insertAll ts) =
        (.ok b.id, r.insertAll all) ∧ ∀ t, t ∈ all ↔ t ∈ ts ++ us := by
  obtain ⟨vs, hvs, hmem⟩ := exists_missing_after htelling ha hb happs
  refine ⟨ts ++ vs, ?_, hmem⟩
  rw [outcome_instantiate, missing_applications (not_exceeds_of_ok hvs), hvs, insertAll_append]
  rfl

/-- **Closing a definition twice is closing it once, and the order of two closings does not
matter.** Take the registry after a run that declares nothing twice, in which the definitions have
parameters, and applications that identities tell apart. A closing that succeeds gives the same on
the registry that it leaves, and changes nothing there. It keeps all types, and those that it adds
are the instances that were missing along the generic bases of the definition, however far. Two
closings that succeed do so one after the other as well, for the same types and with the same
declarations in either order; names lead to the same types too, unless two of the new types have one
name. -/
theorem instantiate_again_or_reordered {start : Registry}
    (hstart : start = .empty ∨ start = .builtins) {actions : List Action}
    (honce : DeclaresOnce start (declaredBy start actions)) {apps : Set Application}
    (hapart : Apart start (declaredBy start actions) apps) (hmet : metBy start actions ⊆ apps) :
    let r := runAll start actions
    (∀ (a : Application) (type : Ident) (s : Registry), (∀ c, r.Leads a c → c ∈ apps) →
      outcome (instantiate a.definition a.args) r = (.ok type, s) →
        outcome (instantiate a.definition a.args) s = (.ok type, s) ∧
        (∀ other t, r.find? other = some t → s.find? other = some t) ∧
        ∀ other t, r.contains other = false →
          (s.find? other = some t ↔ ∃ c d, r.Leads a c ∧ c.id = other ∧
            r.find? c.definition = some d ∧ t = r.newInstance d c.definition c.args)) ∧
    ∀ (a b : Application) (type type' : Ident) (s s' : Registry),
      (∀ c, r.Leads a c ∨ r.Leads b c → c ∈ apps) →
      outcome (instantiate a.definition a.args) r = (.ok type, s) →
      outcome (instantiate b.definition b.args) r = (.ok type', s') →
        ∃ u v, outcome (instantiate b.definition b.args) s = (.ok type', u) ∧
          outcome (instantiate a.definition a.args) s' = (.ok type, v) ∧
          (∀ other, u.find? other = v.find? other) ∧
          ((∀ t w, r.Added u t → r.Added u w → t.name = w.name → t.id = w.id) →
            ∀ name, u.resolve? name = v.resolve? name) := by
  intro r
  have hcomplete : r.Complete apps := complete_runAll hstart honce hapart hmet
  have haccounted := accounted_runAll actions (fun _ _ => closed_start hstart) honce.name_eq
  have hparams (type d) : r.find? type = some d → d.flags.isDefinition = true → d.params ≠ [] :=
    haccounted.params_ne_nil honce.params
  refine ⟨fun a type s happs h => ⟨outcome_instantiate_again h, ?_⟩,
    fun a b type type' s s' happs ha hb => ?_⟩
  · obtain ⟨ts, hts, rfl, rfl⟩ := missing_of_outcome h
    have hadds := adds_of_missing hts
    exact ⟨fun _ _ => hadds.find?_insertAll, fun other t hother =>
      hadds.find?_eq_some_iff hapart.eq_of_id happs (hcomplete.stopsSettled happs hparams) hother⟩
  · obtain ⟨ts, hts, rfl, rfl⟩ := missing_of_outcome ha
    obtain ⟨us, hus, rfl, rfl⟩ := missing_of_outcome hb
    have htsadds := adds_of_missing hts
    have husadds := adds_of_missing hus
    obtain ⟨all, hall, hmem⟩ := exists_outcome_after hapart.eq_of_id htsadds hus happs
    obtain ⟨all', hall', hmem'⟩ := exists_outcome_after hapart.eq_of_id husadds hts
      fun c hc => happs c hc.symm
    have hsame (t) : t ∈ all ↔ t ∈ all' := by
      rw [hmem, hmem', List.mem_append, List.mem_append, or_comm]
    have hunique (t) (ht : t ∈ all) (u) (hu : u ∈ all) : t.id = u.id → t = u :=
      htsadds.eq_of_mem_append hapart.eq_of_id husadds happs t ((hmem t).mp ht) u ((hmem u).mp hu)
    have hadded (t) (ht : t ∈ all) : r.Added (r.insertAll all) t := by
      refine ⟨?_, find?_insertAll_of_unique ht fun u hu => hunique u hu t ht⟩
      exact (List.mem_append.mp ((hmem t).mp ht)).elim (htsadds.missing t) (husadds.missing t)
    refine ⟨_, _, hall, hall', find?_insertAll_congr hsame hunique, fun hnames => ?_⟩
    exact resolve?_insertAll_congr hsame fun t ht u hu => hnames t u (hadded t ht) (hadded u hu)

end RegistryM

namespace Registry.Chain

open PropertyLowering.Action RegistryM

/-- The definitions of the family are registered. -/
def stocking : List Action :=
  [.registration (.registerGeneric family ["T"]), .registration (.registerGeneric middle ["T"]),
    .registration (.registerGeneric derived ["TOwner", "TValue"])]

lemma resolve?_family : Registry.builtins.resolve? family.name = none :=
  resolve?_builtins (by decide)

lemma resolve?_middle : (Registry.builtins.insertAll
    (Registration.registerGeneric family ["T"]).declarations).resolve? middle.name = none :=
  resolve?_builtins_insertAll (by decide)

lemma resolve?_derived : ((Registry.builtins.insertAll
    (Registration.registerGeneric family ["T"]).declarations).insertAll
      (Registration.registerGeneric middle ["T"]).declarations).resolve? derived.name = none := by
  rw [← insertAll_append]
  exact resolve?_builtins_insertAll (by decide)

lemma runAll_stocking : runAll .builtins stocking = stock := by
  rw [stocking, runAll_cons, after_registerGeneric resolve?_family, runAll_cons,
    after_registerGeneric resolve?_middle, runAll_cons, after_registerGeneric resolve?_derived,
    runAll_nil, stock, definitions, insertAll_append, insertAll_append]

lemma declaredBy_stocking : declaredBy .builtins stocking = definitions := by
  rw [stocking, declaredBy_cons, after_registerGeneric resolve?_family,
    declaredBy_cons, after_registerGeneric resolve?_middle, declaredBy_singleton,
    declared_of_instances (Registration.instances_registerGeneric resolve?_family _),
    declared_of_instances (Registration.instances_registerGeneric resolve?_middle _),
    declared_of_instances (Registration.instances_registerGeneric resolve?_derived _),
    definitions, List.append_assoc]

lemma declaresOnce_definitions : DeclaresOnce .builtins definitions := by
  have hnodup := (List.nodup_append.mp nodup_stock).1
  rw [List.map_append, List.nodup_append] at hnodup
  refine ⟨fun t ht => not_contains_builtins fun hmem => ?_, hnodup.2.1, by decide +kernel⟩
  exact hnodup.2.2 _ hmem _ (List.mem_map_of_mem ht) rfl

lemma apart_along_links : Apart .builtins definitions {c | c ∈ first.along links} := by
  obtain ⟨-, hnodup, hdisjoint⟩ := List.nodup_append.mp nodup_stock
  refine ⟨fun a ha b hb _ _ h => List.inj_on_of_nodup_map hnodup ha hb h, fun a ha _ => ?_,
    fun a ha _ t ht => ?_⟩
  · refine not_contains_builtins fun hmem => ?_
    obtain ⟨t, ht, hid⟩ := List.mem_map.mp hmem
    exact hdisjoint _ (List.mem_map_of_mem (List.mem_append_left _ ht)) _ (List.mem_map_of_mem ha)
      hid
  · exact hdisjoint _ (List.mem_map_of_mem (List.mem_append_right _ ht)) _ (List.mem_map_of_mem ha)

lemma baseApplication?_first : stock.baseApplication? first = some ⟨middle.id, [bool]⟩ := by
  rw [baseApplication?_of_generic (a := first) find?_derived rfl, ← substitute_derived]
  rfl

lemma baseApplication?_middle :
    stock.baseApplication? ⟨middle.id, [bool]⟩ = some ⟨family.id, [bool]⟩ := by
  rw [baseApplication?_of_generic find?_middle rfl, substitute_middle]

lemma mem_along_of_leads {c : Application} (h : stock.Leads first c) : c ∈ first.along links := by
  rw [along_links]
  rcases h.eq_or_base with rfl | ⟨b, hb, h⟩
  · exact List.mem_cons_self ..
  · obtain rfl := Option.some.inj (baseApplication?_first.symm.trans hb)
    rcases h.eq_or_base with rfl | ⟨b, hb, h⟩
    · exact List.mem_cons_of_mem _ (List.mem_cons_self ..)
    · obtain rfl := Option.some.inj (baseApplication?_middle.symm.trans hb)
      rcases h.eq_or_base with rfl | ⟨b, hb, -⟩
      · exact List.mem_cons_of_mem _ (List.mem_cons_of_mem _ (List.mem_cons_self ..))
      · rw [baseApplication?_of_last find?_family (by rintro _ _ ⟨⟩)] at hb
        cases hb

theorem instantiate_again_or_reordered_derived :
    let r := runAll .builtins stocking
    ∃ s s' u v, outcome (instantiate derived.id [object, bool]) r =
        (.ok (.ofInstance derived.id [object, bool]), s) ∧
      outcome (instantiate middle.id [bool]) r = (.ok (.ofInstance middle.id [bool]), s') ∧
      outcome (instantiate derived.id [object, bool]) s =
        (.ok (.ofInstance derived.id [object, bool]), s) ∧
      outcome (instantiate middle.id [bool]) s = (.ok (.ofInstance middle.id [bool]), u) ∧
      outcome (instantiate derived.id [object, bool]) s' =
        (.ok (.ofInstance derived.id [object, bool]), v) ∧
      ∀ other, u.find? other = v.find? other := by
  intro r
  have hr : r = stock := runAll_stocking
  clear_value r
  subst hr
  obtain ⟨n, hn⟩ := exists_applications_stock
  obtain ⟨ts, hts⟩ := exists_missing_derived n
  obtain ⟨us, hus⟩ := exists_missing_middle (n + 1)
  have ha := outcome_instantiate derived.id [object, bool] stock
  have hb := outcome_instantiate middle.id [bool] stock
  rw [hn, hts] at ha
  rw [hn, hus] at hb
  have hmet : metBy .builtins stocking ⊆ {c | c ∈ first.along links} := by
    simp [stocking, metBy_cons]
  have honce : DeclaresOnce .builtins (declaredBy .builtins stocking) :=
    declaredBy_stocking.symm ▸ declaresOnce_definitions
  have hapart : Apart .builtins (declaredBy .builtins stocking) _ :=
    declaredBy_stocking.symm ▸ apart_along_links
  obtain ⟨hagain, hreordered⟩ := instantiate_again_or_reordered (.inr rfl) honce hapart hmet
  rw [runAll_stocking] at hagain hreordered
  have happs (c) (hc : stock.Leads first c ∨ stock.Leads ⟨middle.id, [bool]⟩ c) :
      c ∈ first.along links :=
    mem_along_of_leads (hc.elim id (.head baseApplication?_first))
  obtain ⟨u, v, hu, hv, hfind, -⟩ := hreordered first ⟨middle.id, [bool]⟩ _ _ _ _ happs ha hb
  exact ⟨_, _, u, v, ha, hb, (hagain first _ _ (fun c hc => happs c (.inl hc)) ha).1, hu,
    hv, hfind⟩

end Registry.Chain

end PropertyLowering
