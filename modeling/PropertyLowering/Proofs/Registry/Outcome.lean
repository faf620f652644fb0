import Mathlib.Data.List.Perm.Subperm
import Mathlib.Tactic.Lemma
import PropertyLowering.Registry.Registration

/-!
What registry operations do to the registry they start from.

Every change but the addition of a member is the storing of declarations, one after another. So a
registry after an operation is read off the list of what was stored: the declaration of an identity
is the one stored last under it, and a name leads to the one stored last under that name.
-/

namespace PropertyLowering

namespace Registry

/-- Stores declarations one after another. -/
def insertAll (r : Registry) (ts : List TypeDecl) : Registry := ts.foldl insert r

/-- The scalar types that a registry may start from, as they are stored. -/
def builtinTypes : List TypeDecl :=
  [TypeDecl.reference "object", TypeDecl.reference "string", TypeDecl.value "bool",
    TypeDecl.value "int", TypeDecl.value "double"]

lemma builtins_eq : builtins = empty.insertAll builtinTypes := rfl

variable (r : Registry)

@[simp] lemma insertAll_nil : r.insertAll [] = r := rfl

@[simp] lemma insertAll_cons (t : TypeDecl) (ts : List TypeDecl) :
    r.insertAll (t :: ts) = (r.insert t).insertAll ts := rfl

lemma insertAll_append (ts us : List TypeDecl) :
    r.insertAll (ts ++ us) = (r.insertAll ts).insertAll us :=
  List.foldl_append

lemma contains_eq_isSome (type : Ident) : r.contains type = (r.find? type).isSome := by
  simp [contains, find?]

variable {r}

lemma contains_of_find? {type : Ident} {t : TypeDecl} (h : r.find? type = some t) :
    r.contains type = true := by
  rw [contains_eq_isSome, h]
  rfl

lemma exists_find?_of_contains {type : Ident} (h : r.contains type = true) :
    ∃ t, r.find? type = some t := by
  rwa [contains_eq_isSome, Option.isSome_iff_exists] at h

lemma find?_eq_none_of_not_contains {type : Ident} (h : r.contains type = false) :
    r.find? type = none := by
  rwa [contains_eq_isSome, Option.isSome_eq_false_iff, Option.isNone_iff_eq_none] at h

variable (r)

@[simp] lemma find?_empty (type : Ident) : empty.find? type = none := by
  simp [find?, empty]

@[simp] lemma resolve?_empty (name : TypeName) : empty.resolve? name = none := by
  simp [resolve?, empty]

lemma find?_insertAll (ts : List TypeDecl) (type : Ident) :
    (r.insertAll ts).find? type = (ts.reverse.find? (·.id == type)).or (r.find? type) := by
  induction ts generalizing r with
  | nil => rfl
  | cons t ts ih =>
    rw [insertAll_cons, ih, find?_insert, List.reverse_cons, List.find?_append, Option.or_assoc]
    by_cases h : t.id = type <;> simp [h]

/-- A name leads to the last declaration stored under it that is not a parameter. -/
lemma resolve?_insertAll (ts : List TypeDecl) (name : TypeName) :
    (r.insertAll ts).resolve? name =
      ((ts.reverse.find? fun t => !t.flags.isParameter && t.name == name).map (·.id)).or
        (r.resolve? name) := by
  induction ts generalizing r with
  | nil => rfl
  | cons t ts ih =>
    rw [insertAll_cons, ih, resolve?_insert, List.reverse_cons, List.find?_append]
    by_cases hparam : t.flags.isParameter = false <;> by_cases hname : t.name = name <;>
      simp_all

lemma catalog_empty_insertAll (ts : List TypeDecl) :
    (empty.insertAll ts).catalog =
      { resolve? := fun name =>
          (ts.reverse.find? fun t => !t.flags.isParameter && t.name == name).map (·.id)
        find? := fun type => ts.reverse.find? (·.id == type) } := by
  rw [catalog, Catalog.mk.injEq]
  constructor
  · funext name
    rw [resolve?_insertAll, resolve?_empty, Option.or_none]
  · funext type
    rw [find?_insertAll, find?_empty, Option.or_none]

variable {r}

lemma find?_insertAll_of_forall_ne {ts : List TypeDecl} {type : Ident}
    (h : ∀ t ∈ ts, t.id ≠ type) : (r.insertAll ts).find? type = r.find? type := by
  have hnone : ts.reverse.find? (·.id == type) = none := by simpa using h
  rw [find?_insertAll, hnone, Option.none_or]

lemma find?_insertAll_of_missing {ts : List TypeDecl} {type : Ident} {t : TypeDecl}
    (hmissing : ∀ u ∈ ts, r.contains u.id = false) (ht : r.find? type = some t) :
    (r.insertAll ts).find? type = some t := by
  rw [find?_insertAll_of_forall_ne, ht]
  rintro u hu rfl
  have hfree := hmissing u hu
  rw [contains_of_find? ht] at hfree
  cases hfree

lemma resolve?_insertAll_of_forall_ne {ts : List TypeDecl} {name : TypeName}
    (h : ∀ t ∈ ts, t.flags.isParameter = false → t.name ≠ name) :
    (r.insertAll ts).resolve? name = r.resolve? name := by
  have hnone : ts.reverse.find? (fun t => !t.flags.isParameter && t.name == name) = none := by
    simpa using h
  rw [resolve?_insertAll, hnone, Option.map_none, Option.none_or]

lemma exists_find?_insertAll {ts : List TypeDecl} {t : TypeDecl} (ht : t ∈ ts) :
    ∃ u ∈ ts, u.id = t.id ∧ (r.insertAll ts).find? t.id = some u := by
  obtain ⟨u, hu⟩ : ∃ u, ts.reverse.find? (·.id == t.id) = some u := by
    rw [← Option.isSome_iff_exists, List.find?_isSome]
    exact ⟨t, List.mem_reverse.mpr ht, by simp⟩
  refine ⟨u, List.mem_reverse.mp (List.mem_of_find?_eq_some hu),
    by simpa using List.find?_some hu, ?_⟩
  rw [find?_insertAll, hu, Option.some_or]

lemma find?_insertAll_of_unique {ts : List TypeDecl} {t : TypeDecl} (ht : t ∈ ts)
    (h : ∀ u ∈ ts, u.id = t.id → u = t) : (r.insertAll ts).find? t.id = some t := by
  obtain ⟨u, hu, hid, hfind⟩ := exists_find?_insertAll (r := r) ht
  rwa [h u hu hid] at hfind

lemma exists_resolve?_insertAll {ts : List TypeDecl} {t : TypeDecl} (ht : t ∈ ts)
    (hparam : t.flags.isParameter = false) :
    ∃ u ∈ ts, u.flags.isParameter = false ∧ u.name = t.name ∧
      (r.insertAll ts).resolve? t.name = some u.id := by
  obtain ⟨u, hu⟩ : ∃ u, ts.reverse.find? (fun u => !u.flags.isParameter && u.name == t.name) =
      some u := by
    rw [← Option.isSome_iff_exists, List.find?_isSome]
    exact ⟨t, List.mem_reverse.mpr ht, by simp [hparam]⟩
  have hnew := List.find?_some hu
  rw [Bool.and_eq_true, Bool.not_eq_true', beq_iff_eq] at hnew
  refine ⟨u, List.mem_reverse.mp (List.mem_of_find?_eq_some hu), hnew.1, hnew.2, ?_⟩
  rw [resolve?_insertAll, hu, Option.map_some, Option.some_or]

lemma mem_or_find?_of_insertAll {ts : List TypeDecl} {type : Ident} {t : TypeDecl}
    (h : (r.insertAll ts).find? type = some t) : t ∈ ts ∧ t.id = type ∨ r.find? type = some t := by
  rw [find?_insertAll, Option.or_eq_some_iff] at h
  rcases h with h | ⟨-, h⟩
  · exact .inl ⟨List.mem_reverse.mp (List.mem_of_find?_eq_some h), by simpa using List.find?_some h⟩
  · exact .inr h

lemma find?_insertAll_cases {ts : List TypeDecl} {type : Ident} {t : TypeDecl}
    (h : (r.insertAll ts).find? type = some t) : t ∈ ts ∨ r.find? type = some t :=
  (mem_or_find?_of_insertAll h).imp_left And.left

lemma mem_builtinTypes_of_find? {start : Registry} (hstart : start = empty ∨ start = builtins)
    {type : Ident} {t : TypeDecl} (h : start.find? type = some t) : t ∈ builtinTypes := by
  rcases hstart with rfl | rfl
  · simp at h
  · rw [builtins_eq] at h
    rcases find?_insertAll_cases h with hmem | hempty
    · exact hmem
    · simp at hempty

lemma find?_insertAll_of_mem {ts : List TypeDecl} (hnodup : (ts.map (·.id)).Nodup) {t : TypeDecl}
    (ht : t ∈ ts) : (r.insertAll ts).find? t.id = some t := by
  induction ts generalizing r with
  | nil => cases ht
  | cons u ts ih =>
    rw [List.map_cons, List.nodup_cons] at hnodup
    rcases List.mem_cons.mp ht with rfl | ht
    · rw [insertAll_cons, find?_insertAll_of_forall_ne, find?_insert, if_pos rfl]
      exact fun v hv heq => hnodup.1 (List.mem_map.mpr ⟨v, hv, heq⟩)
    · exact ih hnodup.2 ht

lemma find?_insertAll_congr {ts us : List TypeDecl} (hmem : ∀ t, t ∈ ts ↔ t ∈ us)
    (h : ∀ t ∈ ts, ∀ u ∈ ts, t.id = u.id → t = u) (type : Ident) :
    (r.insertAll ts).find? type = (r.insertAll us).find? type := by
  by_cases hstored : ∃ t ∈ ts, t.id = type
  · obtain ⟨t, ht, rfl⟩ := hstored
    obtain ⟨v, hv, hid, hfind⟩ := exists_find?_insertAll (r := r) ht
    obtain ⟨w, hw, hid', hfind'⟩ := exists_find?_insertAll (r := r) ((hmem t).mp ht)
    rw [hfind, hfind', h v hv w ((hmem w).mpr hw) (hid.trans hid'.symm)]
  · rw [find?_insertAll_of_forall_ne fun t ht heq => hstored ⟨t, ht, heq⟩,
      find?_insertAll_of_forall_ne fun t ht heq => hstored ⟨t, (hmem t).mpr ht, heq⟩]

lemma resolve?_insertAll_congr {ts us : List TypeDecl} (hmem : ∀ t, t ∈ ts ↔ t ∈ us)
    (h : ∀ t ∈ ts, ∀ u ∈ ts, t.name = u.name → t.id = u.id) (name : TypeName) :
    (r.insertAll ts).resolve? name = (r.insertAll us).resolve? name := by
  by_cases hstored : ∃ t ∈ ts, t.flags.isParameter = false ∧ t.name = name
  · obtain ⟨t, ht, hparam, rfl⟩ := hstored
    obtain ⟨v, hv, -, hname, hresolve⟩ := exists_resolve?_insertAll (r := r) ht hparam
    obtain ⟨w, hw, -, hname', hresolve'⟩ :=
      exists_resolve?_insertAll (r := r) ((hmem t).mp ht) hparam
    rw [hresolve, hresolve', h v hv w ((hmem w).mpr hw) (hname.trans hname'.symm)]
  · rw [resolve?_insertAll_of_forall_ne fun t ht hparam heq => hstored ⟨t, ht, hparam, heq⟩,
      resolve?_insertAll_of_forall_ne fun t ht hparam heq =>
        hstored ⟨t, (hmem t).mpr ht, hparam, heq⟩]

lemma contains_insertAll (ts : List TypeDecl) (type : Ident) :
    (r.insertAll ts).contains type = true ↔ type ∈ ts.map (·.id) ∨ r.contains type = true := by
  simp [contains_eq_isSome, find?_insertAll]

lemma not_contains_builtins {type : Ident} (h : type ∉ builtinTypes.map (·.id)) :
    builtins.contains type = false := by
  rw [← Bool.not_eq_true, builtins_eq, contains_insertAll, contains_eq_isSome, find?_empty]
  simpa using h

lemma resolve?_builtins {name : TypeName} (h : ∀ t ∈ builtinTypes, t.name ≠ name) :
    builtins.resolve? name = none := by
  rw [builtins_eq, resolve?_insertAll_of_forall_ne fun t ht _ => h t ht, resolve?_empty]

lemma contains_builtins_insertAll {ts : List TypeDecl} {type : Ident} :
    (builtins.insertAll ts).contains type = true ↔ type ∈ (builtinTypes ++ ts).map (·.id) := by
  rw [builtins_eq, ← insertAll_append, contains_insertAll, contains_eq_isSome, find?_empty]
  simp

lemma not_contains_builtins_insertAll {ts : List TypeDecl} {type : Ident}
    (h : type ∉ (builtinTypes ++ ts).map (·.id)) :
    (builtins.insertAll ts).contains type = false := by
  rwa [← Bool.not_eq_true, contains_builtins_insertAll]

lemma resolve?_builtins_insertAll {ts : List TypeDecl} {name : TypeName}
    (h : ∀ t ∈ builtinTypes ++ ts, t.flags.isParameter = false → t.name ≠ name) :
    (builtins.insertAll ts).resolve? name = none := by
  rw [builtins_eq, ← insertAll_append, resolve?_insertAll_of_forall_ne h, resolve?_empty]

lemma length_le_size {ids : List Ident} (hnodup : ids.Nodup)
    (h : ∀ type ∈ ids, r.contains type = true) : ids.length ≤ r.size := by
  have hkeys : ids ⊆ r.types.keys := fun type htype => Std.HashMap.mem_keys.mpr (h type htype)
  rw [size, ← Std.HashMap.length_keys]
  exact (hnodup.subperm hkeys).length_le

lemma size_le_applications (r : Registry) : r.size ≤ r.applications := by
  have hle (ts : List (Ident × TypeDecl)) (hts : ts.length ≤ r.size) :
      ts.length ≤ ts.foldr (fun entry n => r.size.pow entry.2.params.length + n) 0 := by
    induction ts with
    | nil => exact Nat.le_refl _
    | cons entry ts ih =>
      rw [List.length_cons] at hts ⊢
      have hone : 0 < r.size.pow entry.2.params.length := Nat.pow_pos (by omega)
      have hrest := ih (by omega)
      rw [List.foldr_cons]
      omega
  have hlen : r.types.toList.length = r.size := Std.HashMap.length_toList
  exact hlen ▸ hle r.types.toList (Nat.le_of_eq hlen)

lemma length_le_applications {ids : List Ident} (hnodup : ids.Nodup)
    (h : ∀ type ∈ ids, r.contains type = true) : ids.length ≤ r.applications :=
  Nat.le_trans (length_le_size hnodup h) r.size_le_applications

end Registry

namespace RegistryM

variable {r s : Registry}

/-- What an operation gives on a registry, with the registry it leaves behind. -/
def outcome (x : RegistryM α) (r : Registry) : Except RegistryError α × Registry := x.run.run r

lemma outcome_bind (x : RegistryM α) (f : α → RegistryM β) (r : Registry) :
    outcome (x >>= f) r =
      match outcome x r with
      | (.ok a, s) => outcome (f a) s
      | (.error e, s) => (.error e, s) := by
  simp only [outcome, ExceptT.run_bind, StateT.run_bind]
  rcases h : StateT.run (ExceptT.run x) r with ⟨_ | _, s⟩ <;> rfl

@[simp] lemma outcome_pure (a : α) (r : Registry) :
    outcome (pure a : RegistryM α) r = (.ok a, r) := rfl

@[simp] lemma outcome_throw (e : RegistryError) (r : Registry) :
    outcome (throw e : RegistryM α) r = (.error e, r) := rfl

@[simp] lemma outcome_get (r : Registry) : outcome (get : RegistryM Registry) r = (.ok r, r) := rfl

@[simp] lemma outcome_modify (f : Registry → Registry) (r : Registry) :
    outcome (modify f : RegistryM Unit) r = (.ok (), f r) := rfl

@[simp] lemma outcome_liftM (x : Except RegistryError α) (r : Registry) :
    outcome (liftM x : RegistryM α) r = (x, r) := by
  cases x <;> rfl

@[simp] lemma outcome_insert (t : TypeDecl) (r : Registry) :
    outcome (insert t) r = (.ok t.id, r.insert t) := rfl

lemma outcome_map (f : α → β) (x : RegistryM α) (r : Registry) :
    outcome (f <$> x) r = ((outcome x r).1.map f, (outcome x r).2) := by
  rw [← bind_pure_comp, outcome_bind]
  rcases outcome x r with ⟨_ | _, s⟩ <;> rfl

lemma outcome_requireFresh (name : TypeName) (r : Registry) :
    outcome (requireFresh name) r =
      if (r.resolve? name).isSome then (.error (.duplicateType name.text), r) else (.ok (), r) := by
  change outcome
    (if (r.resolve? name).isSome then throw (.duplicateType name.text) else pure ()) r = _
  split <;> rfl

lemma outcome_extend (holder : Ident) (member : String) (change : TypeDecl → TypeDecl)
    (r : Registry) :
    outcome (extend holder member change) r =
      if r.contains holder then (.ok (), r.modify holder change)
      else (.error (.unknownOwner holder.text member), r) := by
  change outcome (if r.contains holder then modify (·.modify holder change)
    else throw (.unknownOwner holder.text member)) r = _
  split <;> rfl

end RegistryM

end PropertyLowering
