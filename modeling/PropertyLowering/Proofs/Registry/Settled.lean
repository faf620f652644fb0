import Mathlib.Data.List.Induction
import Mathlib.Data.List.Nodup
import PropertyLowering.Proofs.Registry.Instances

/-!
Instances that are registered with all that they derive from.

The closing of a definition stops at the first instance on its way that is registered, and takes for
granted that the rest of the way has been made. Over a run that declares nothing twice it has: an
instance is stored after those that it derives from, and no definition changes later on. So what is
added for an application is all that is missing on the whole of its way.
-/

namespace PropertyLowering

namespace Registry

/-- All that an application leads to is registered, with its definition. -/
def Settled (r : Registry) (a : Application) : Prop :=
  ∀ b, r.Leads a b → r.contains b.definition = true ∧ r.contains b.id = true

/-- What is registered stays so and differs in its members at most. -/
def Keeps (r s : Registry) : Prop :=
  ∀ type t, r.find? type = some t → ∃ u, s.find? type = some u ∧ u.shell = t.shell

/-- Of the applications, those that are registered are settled. -/
def Complete (r : Registry) (apps : Set Application) : Prop :=
  ∀ a ∈ apps, a.args ≠ [] → r.contains a.id = true → r.Settled a

variable {start r s : Registry} {declared : List TypeDecl} {apps : Set Application}
  {a b : Application} {d : TypeDecl} {type definition : Ident} {args : List Ident}
  {ts : List TypeDecl}

lemma Keeps.contains (h : r.Keeps s) (htype : r.contains type = true) :
    s.contains type = true := by
  obtain ⟨t, ht⟩ := exists_find?_of_contains htype
  obtain ⟨u, hu, -⟩ := h type t ht
  exact contains_of_find? hu

lemma keeps_of_find? (h : ∀ type t, r.find? type = some t → s.find? type = some t) : r.Keeps s :=
  fun type t ht => ⟨t, h type t ht, rfl⟩

lemma keeps_modify (r : Registry) (holder : Ident) {change : TypeDecl → TypeDecl}
    (hchange : ChangesMembers change) : r.Keeps (r.modify holder change) := by
  intro type t ht
  rw [find?_modify]
  split
  · obtain ⟨fields, properties, methods, heq⟩ := hchange t
    exact ⟨change t, by rw [ht, Option.map_some], by rw [heq]; rfl⟩
  · exact ⟨t, ht, rfl⟩

lemma Keeps.baseApplication?_eq (h : r.Keeps s) (hd : r.contains a.definition = true) :
    s.baseApplication? a = r.baseApplication? a := by
  obtain ⟨t, ht⟩ := exists_find?_of_contains hd
  obtain ⟨u, hu, hshell⟩ := h _ t ht
  have hbase : u.base = t.base := congrArg (·.base) hshell
  have hparams : u.params = t.params := congrArg (·.params) hshell
  simp only [baseApplication?, ht, hu, hbase, hparams]

lemma contains_of_baseApplication? (h : r.baseApplication? a = some b) :
    r.contains a.definition = true := by
  cases hd : r.find? a.definition with
  | none =>
    rw [baseApplication?, hd] at h
    cases h
  | some d => exact contains_of_find? hd

lemma Leads.keeps (h : r.Leads a b) (hkeeps : r.Keeps s) : s.Leads a b := by
  refine Relation.ReflTransGen.mono (fun x y hxy => ?_) a b h
  rwa [hkeeps.baseApplication?_eq (contains_of_baseApplication? hxy)]

lemma Settled.leads (h : r.Settled a) (hab : r.Leads a b) : r.Settled b :=
  fun c hbc => h c (Relation.ReflTransGen.trans hab hbc)

lemma Settled.keeps (h : r.Settled a) (hkeeps : r.Keeps s) : s.Settled a := by
  intro b hb
  have hold : r.Leads a b := by
    induction hb with
    | refl => exact .refl
    | tail _ hstep ih =>
      rw [hkeeps.baseApplication?_eq (h _ ih).1] at hstep
      exact .tail ih hstep
  exact ⟨hkeeps.contains (h b hold).1, hkeeps.contains (h b hold).2⟩

lemma settled_of_base (hd : r.contains a.definition = true) (hheld : r.contains a.id = true)
    (hbase : ∀ b, r.baseApplication? a = some b → r.Settled b) : r.Settled a := by
  intro b hb
  rcases hb.eq_or_base with rfl | ⟨c, hc, hcb⟩
  · exact ⟨hd, hheld⟩
  · exact hbase c hc b hcb

/-- The walk for an application stops at none but a settled one. -/
def StopsSettled (r : Registry) (a : Application) : Prop :=
  ∀ b d, r.Leads a b → r.checkArguments b.definition b.args = .ok d →
    r.contains b.id = true → r.Settled b

lemma StopsSettled.base (h : r.StopsSettled a) (hab : r.baseApplication? a = some b) :
    r.StopsSettled b := fun c d hbc => h c d (.head hab hbc)

lemma Adds.settled (h : r.Adds definition args ts) (hstops : r.StopsSettled ⟨definition, args⟩)
    (hkeeps : r.Keeps s) (hmade : ∀ t ∈ ts, s.contains t.id = true) :
    s.Settled ⟨definition, args⟩ := by
  induction h with
  | held hcheck hheld => exact (hstops _ _ .refl hcheck hheld).keeps hkeeps
  | @last definition args d hcheck _ hbase =>
    have hd := contains_of_find? (find?_of_checkArguments hcheck)
    refine settled_of_base (hkeeps.contains hd) (hmade _ (List.mem_singleton_self _)) fun b hb => ?_
    rw [hkeeps.baseApplication?_eq hd,
      baseApplication?_of_last (find?_of_checkArguments hcheck) hbase] at hb
    cases hb
  | @derived definition args d base baseArgs ts hcheck _ hbase _ ih =>
    have hfind := find?_of_checkArguments hcheck
    have hstep := baseApplication?_of_generic (a := ⟨definition, args⟩) hfind hbase
    have hnew := hmade _ (List.mem_append_right ts (List.mem_singleton_self _))
    refine settled_of_base (hkeeps.contains (contains_of_find? hfind)) hnew fun b hb => ?_
    rw [hkeeps.baseApplication?_eq (contains_of_find? hfind), hstep] at hb
    obtain rfl := Option.some.inj hb
    exact ih (hstops.base hstep) fun t ht => hmade t (List.mem_append_left _ ht)

lemma Adds.mem_of_leads (h : r.Adds definition args ts)
    (hstops : r.StopsSettled ⟨definition, args⟩) (hb : r.Leads ⟨definition, args⟩ b)
    (hmissing : r.contains b.id = false) (hd : r.find? b.definition = some d) :
    r.newInstance d b.definition b.args ∈ ts := by
  induction h with
  | held hcheck hheld =>
    rw [((hstops _ _ .refl hcheck hheld) b hb).2] at hmissing
    cases hmissing
  | @last definition args e hcheck _ hbase =>
    have hfind := find?_of_checkArguments hcheck
    rcases hb.eq_or_base with rfl | ⟨c, hc, -⟩
    · obtain rfl := Option.some.inj (hfind.symm.trans hd)
      exact List.mem_singleton_self _
    · rw [baseApplication?_of_last hfind hbase] at hc
      cases hc
  | @derived definition args e base baseArgs ts hcheck _ hbase _ ih =>
    have hfind := find?_of_checkArguments hcheck
    have hstep := baseApplication?_of_generic (a := ⟨definition, args⟩) hfind hbase
    rcases hb.eq_or_base with rfl | ⟨c, hc, hcb⟩
    · obtain rfl := Option.some.inj (hfind.symm.trans hd)
      exact List.mem_append_right ts (List.mem_singleton_self _)
    · rw [hstep] at hc
      obtain rfl := Option.some.inj hc
      exact List.mem_append_left _ (ih (hstops.base hstep) hcb)

lemma Complete.stopsSettled (h : r.Complete apps) (happs : ∀ b, r.Leads a b → b ∈ apps)
    (hparams : ∀ type d, r.find? type = some d → d.flags.isDefinition = true → d.params ≠ []) :
    r.StopsSettled a := by
  intro b d hb hcheck hheld
  obtain ⟨hd, hopen, hlen, -⟩ := checkArguments_eq_ok.mp hcheck
  refine h b (happs b hb) (fun hnil => hparams _ d hd hopen ?_) hheld
  rwa [hnil, List.length_nil, List.length_eq_zero_iff] at hlen

lemma Complete.keeps (h : r.Complete apps) (hkeeps : r.Keeps s)
    (hnew : ∀ a ∈ apps, a.args ≠ [] → r.contains a.id = false → s.contains a.id = true →
      s.Settled a) : s.Complete apps := by
  intro a ha hargs hheld
  cases hold : r.contains a.id with
  | true => exact (h a ha hargs hold).keeps hkeeps
  | false => exact hnew a ha hargs hold hheld

lemma Complete.insertAll {x : Registration} (h : r.Complete apps) (hts : x.instances r = .ok ts)
    (hfree : ∀ t ∈ x.declarations, r.contains t.id = false)
    (hparams : ∀ type d, r.find? type = some d → d.flags.isDefinition = true → d.params ≠ [])
    (hapart : Apart start x.declarations apps) (hmet : (Action.registration x).met r ⊆ apps) :
    (r.insertAll (ts ++ x.declarations)).Complete apps := by
  have hkeeps : r.Keeps (r.insertAll (ts ++ x.declarations)) := by
    refine keeps_of_find? fun type t => find?_insertAll_of_missing fun u hu => ?_
    exact (List.mem_append.mp hu).elim (Registration.missing_instances hts u) (hfree u)
  refine h.keeps hkeeps fun a ha hargs hmissing hheld => ?_
  rw [contains_insertAll, hmissing, List.map_append, List.mem_append] at hheld
  rcases hheld with (hmade | hnew) | hold
  · obtain ⟨t, ht, hid⟩ := List.mem_map.mp hmade
    rcases Registration.adds_of_asked hts with ⟨-, rfl⟩ | ⟨root, hroot, hadds⟩
    · cases ht
    · obtain ⟨b, d, hleads, hcheck, hfreeb, rfl, -⟩ := hadds.exists_application ht
      have hmem (c) (hc : r.Leads root c) : c ∈ apps := hmet (Action.mem_met_of_leads hroot hc)
      obtain rfl := hapart.eq_of_id b (hmem b hleads) a ha
        (args_ne_nil_of_missing (find?_of_checkArguments hcheck) hfreeb) hargs hid
      have hroot := hadds.settled (h.stopsSettled hmem hparams) hkeeps fun t ht =>
        (contains_insertAll _ _).mpr (.inl (List.mem_map_of_mem (List.mem_append_left _ ht)))
      exact hroot.leads (hleads.keeps hkeeps)
  · obtain ⟨t, ht, hid⟩ := List.mem_map.mp hnew
    exact absurd hid (hapart.not_declared a ha hargs t ht)
  · cases hold

lemma Accounted.not_contains (h : Accounted start declared apps r)
    (hstart : start.contains type = false) (hdeclared : ∀ e ∈ declared, e.id ≠ type)
    (happs : ∀ a ∈ apps, a.args ≠ [] → a.id ≠ type) : r.contains type = false := by
  rw [← Bool.not_eq_true]
  intro hheld
  obtain ⟨t, ht⟩ := exists_find?_of_contains hheld
  cases h type t ht with
  | start held _ =>
    rw [hstart] at held
    cases held
  | declared mem id => exact hdeclared _ mem id
  | made mem args id => exact happs _ mem args id

lemma Accounted.params_ne_nil (h : Accounted start declared apps r)
    (hparams : ∀ t ∈ declared, t.flags.isDefinition = true → t.params ≠ [])
    (hd : r.find? type = some d) (hopen : d.flags.isDefinition = true) : d.params ≠ [] := by
  cases h type d hd with
  | start _ closed =>
    rw [closed] at hopen
    cases hopen
  | @declared e mem id shell =>
    have hparams' : d.params = e.params := congrArg (·.params) shell
    have hflags : d.flags = e.flags := congrArg (·.flags) shell
    rw [hparams']
    exact hparams e mem (hflags ▸ hopen)
  | made _ _ _ isInstance =>
    rw [isInstance.closed] at hopen
    cases hopen

end Registry

namespace Action

open Registry

variable {start : Registry} {apps : Set Application}

/-- The declarations of a run are new, each has an identity of its own, and generic ones have
parameters. -/
structure DeclaresOnce (start : Registry) (declared : List TypeDecl) : Prop where
  free : ∀ t ∈ declared, start.contains t.id = false
  nodup : (declared.map (·.id)).Nodup
  params : ∀ t ∈ declared, t.flags.isDefinition = true → t.params ≠ []

lemma DeclaresOnce.left {declared declared' : List TypeDecl}
    (h : DeclaresOnce start (declared ++ declared')) : DeclaresOnce start declared where
  free t ht := h.free t (List.mem_append_left _ ht)
  nodup := by
    have hnodup := h.nodup
    rw [List.map_append] at hnodup
    exact (List.nodup_append.mp hnodup).1
  params t ht := h.params t (List.mem_append_left _ ht)

lemma DeclaresOnce.id_ne {declared declared' : List TypeDecl} {t u : TypeDecl}
    (h : DeclaresOnce start (declared ++ declared')) (ht : t ∈ declared) (hu : u ∈ declared') :
    t.id ≠ u.id := by
  have hnodup := h.nodup
  rw [List.map_append] at hnodup
  exact (List.nodup_append.mp hnodup).2.2 _ (List.mem_map_of_mem ht) _ (List.mem_map_of_mem hu)

lemma DeclaresOnce.name_eq {declared : List TypeDecl} (h : DeclaresOnce start declared) :
    ∀ t ∈ declared, ∀ u ∈ declared, t.id = u.id → t.name = u.name := fun _ ht _ hu heq =>
  congrArg TypeDecl.name (List.inj_on_of_nodup_map h.nodup ht hu heq)

/-- After a run that declares nothing twice, all that is registered is settled. -/
lemma complete_runAll (hstart : start = .empty ∨ start = .builtins) {actions : List Action}
    (honce : DeclaresOnce start (declaredBy start actions))
    (hapart : Apart start (declaredBy start actions) apps) (hmet : metBy start actions ⊆ apps) :
    (runAll start actions).Complete apps := by
  induction actions using List.reverseRecOn with
  | nil =>
    intro a ha hargs hheld
    rw [runAll_nil, hapart.not_started a ha hargs] at hheld
    cases hheld
  | append_singleton as a ih =>
    rw [declaredBy_append, declaredBy_singleton] at honce hapart
    rw [metBy_append, metBy_singleton, Set.union_subset_iff] at hmet
    have hcomplete :=
      ih honce.left (hapart.mono (List.subset_append_left ..) (subset_refl _)) hmet.1
    have haccounted := accounted_runAll as (fun _ _ => closed_start hstart) honce.left.name_eq
    rw [runAll_append, runAll_cons, runAll_nil]
    rcases after_cases (runAll start as) a with ⟨x, ts, rfl, hts, heq⟩ |
      ⟨holder, change, hchange, -, heq⟩ | ⟨-, heq⟩
    · rw [declared_of_instances hts] at honce hapart
      rw [heq]
      refine hcomplete.insertAll hts (fun t ht => ?_) (fun _ _ => haccounted.params_ne_nil
        honce.left.params) (hapart.mono (List.subset_append_right ..) (subset_refl _)) hmet.2
      refine haccounted.not_contains (honce.free t (List.mem_append_right _ ht)) ?_ ?_
      · exact fun e he => honce.id_ne he ht
      · exact fun b hb hargs heq => hapart.not_declared b (hmet.1 hb) hargs t
          (List.mem_append_right _ ht) heq.symm
    · rw [heq]
      refine hcomplete.keeps (keeps_modify _ holder hchange) fun b _ _ hmissing hheld => ?_
      obtain ⟨u, hu⟩ := exists_find?_of_contains hheld
      obtain ⟨t, ht, -⟩ := exists_find?_of_modify hchange hu
      rw [contains_of_find? ht] at hmissing
      cases hmissing
    · rwa [heq]

end Action

end PropertyLowering
