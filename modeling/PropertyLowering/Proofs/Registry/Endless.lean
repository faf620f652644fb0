import Mathlib.Data.Finset.Card
import Mathlib.Data.List.Sections
import PropertyLowering.Proofs.Registry.Applications

/-!
Walks along generic bases that have no end.

A walk goes on from one application to the next as long as it does not find the instance made. What
it does there depends on the application alone, so it never ends once it comes back to one, and
there are only so many applications to registered types. Main statement: the bound that a closing
puts on its walk is no restriction. It gives what any sufficient bound would, and where it complains
about an endless chain no bound is sufficient.
-/

namespace PropertyLowering

namespace Registry

/-- The application that a walk goes on to, unless it ends or fails at this one. -/
def onward? (r : Registry) (a : Application) : Option Application :=
  if (r.checkArguments a.definition a.args).isOk && !r.contains a.id then r.baseApplication? a
  else none

/-- The application that a walk has come to after some steps. -/
def walk (r : Registry) : Nat → Application → Option Application
  | 0, a => some a
  | n + 1, a => (r.onward? a).bind (r.walk n)

/-- A walk runs out of the given bound. -/
def Exceeds (r : Registry) (n : Nat) (a : Application) : Prop :=
  ∃ name, r.missing n a.definition a.args = .error (.endlessBase name)

/-- The applications of registered definitions to registered types. -/
def allApplications (r : Registry) : List Application :=
  r.types.toList.flatMap fun entry =>
    ((List.replicate entry.2.params.length r.types.keys).sections).map (⟨entry.1, ·⟩)

variable {r : Registry} {a b : Application} {n m : Nat}

lemma onward?_eq_some : r.onward? a = some b ↔
    ∃ d, r.checkArguments a.definition a.args = .ok d ∧ r.contains a.id = false ∧
      r.baseApplication? a = some b := by
  unfold onward?
  cases r.checkArguments a.definition a.args with
  | error e => simp [Except.isOk, Except.toBool]
  | ok d => cases r.contains a.id <;> simp [Except.isOk, Except.toBool]

lemma exceeds_succ : r.Exceeds (n + 1) a ↔ ∃ b, r.onward? a = some b ∧ r.Exceeds n b := by
  simp only [Exceeds, onward?_eq_some]
  cases hcheck : r.checkArguments a.definition a.args with
  | error e =>
    have hne (name) : e ≠ .endlessBase name := fun h =>
      checkArguments_ne_endlessBase name (h ▸ hcheck)
    simp [missing, hcheck, hne]
  | ok d =>
    have hfind := find?_of_checkArguments hcheck
    cases hheld : r.contains a.id with
    | true =>
      rw [missing_of_held hcheck hheld]
      simp
    | false =>
      by_cases hbase : ∃ base args, d.base = some (.generic base args)
      · obtain ⟨base, args, hbase⟩ := hbase
        rw [missing_eq_of_generic hcheck hheld hbase, baseApplication?_of_generic hfind hbase]
        cases hbases : r.missing n base (args.map (TypeDecl.substitute d.params a.args)) <;>
          simp [Except.map, hbases]
      · have hlast : ∀ base args, d.base ≠ some (.generic base args) :=
          fun base args h => hbase ⟨base, args, h⟩
        rw [missing_of_last hcheck hheld hlast, baseApplication?_of_last hfind hlast]
        simp

lemma exceeds_iff : r.Exceeds n a ↔ (r.walk n a).isSome = true := by
  induction n generalizing a with
  | zero => exact iff_of_true ⟨_, rfl⟩ rfl
  | succ n ih =>
    rw [exceeds_succ, walk]
    cases r.onward? a <;> simp [ih]

lemma missing_of_le (h : ¬ r.Exceeds n a) (hnm : n ≤ m) :
    r.missing m a.definition a.args = r.missing n a.definition a.args := by
  induction n generalizing a m with
  | zero => exact absurd ⟨_, rfl⟩ h
  | succ n ih =>
    obtain ⟨m, rfl⟩ := Nat.exists_eq_add_of_lt hnm
    rw [exceeds_succ] at h
    rw [missing, missing]
    cases hcheck : r.checkArguments a.definition a.args with
    | error e => rfl
    | ok d =>
      dsimp only
      split
      · rfl
      next hheld =>
        split
        next base args hbase =>
          have honward := onward?_eq_some.mpr ⟨d, hcheck, Bool.not_eq_true _ ▸ hheld,
            baseApplication?_of_generic (find?_of_checkArguments hcheck) hbase⟩
          rw [ih (fun hex => h ⟨_, honward, hex⟩) (Nat.le_add_right n m)]
        · rfl

lemma walk_add (m n : Nat) (a : Application) :
    r.walk (m + n) a = (r.walk m a).bind (r.walk n) := by
  induction m generalizing a with
  | zero => rw [Nat.zero_add]; rfl
  | succ m ih =>
    rw [Nat.succ_add, walk, walk, Option.bind_assoc]
    exact congrArg _ (funext ih)

lemma isSome_walk_of_le (h : (r.walk n a).isSome = true) (hmn : m ≤ n) :
    (r.walk m a).isSome = true := by
  obtain ⟨k, rfl⟩ := Nat.exists_eq_add_of_le hmn
  rw [walk_add] at h
  exact Option.isSome_of_isSome_bind h

/-- A walk that comes to an application again has no end. -/
lemma isSome_walk_of_repeat {i j : Nat} (hij : i < j) (hrepeat : r.walk i a = r.walk j a)
    (h : (r.walk j a).isSome = true) (n : Nat) : (r.walk n a).isSome = true := by
  induction n using Nat.strong_induction_on with
  | _ n ih =>
    rcases Nat.le_total n j with hn | hn
    · exact isSome_walk_of_le h hn
    · obtain ⟨k, rfl⟩ := Nat.exists_eq_add_of_le hn
      -- The steps behind the repetition are those behind the first time.
      rw [walk_add, ← hrepeat, ← walk_add]
      exact ih (i + k) (by omega)

lemma length_sections_replicate (keys : List Ident) (n : Nat) :
    (List.replicate n keys).sections.length = keys.length.pow n := by
  induction n with
  | zero => rfl
  | succ n ih =>
    simp [List.replicate_succ, List.sections, List.length_flatMap, ih, Nat.pow_succ]

lemma mem_sections_replicate {keys args : List Ident} (h : ∀ arg ∈ args, arg ∈ keys) :
    args ∈ (List.replicate args.length keys).sections := by
  rw [List.mem_sections, List.forall₂_iff_get]
  refine ⟨(List.length_replicate).symm, fun i hi _ => ?_⟩
  simpa using h _ (List.get_mem args ⟨i, hi⟩)

lemma length_allApplications (r : Registry) : r.allApplications.length = r.applications := by
  unfold allApplications applications
  induction r.types.toList with
  | nil => rfl
  | cons entry ts ih =>
    rw [List.flatMap_cons, List.length_append, ih, List.length_map, length_sections_replicate,
      Std.HashMap.length_keys]
    rfl

lemma mem_allApplications {d : TypeDecl} (h : r.checkArguments a.definition a.args = .ok d) :
    a ∈ r.allApplications := by
  obtain ⟨hfind, -, hlen, hargs⟩ := checkArguments_eq_ok.mp h
  refine List.mem_flatMap.mpr ⟨(a.definition, d), ?_, List.mem_map.mpr ⟨a.args, ?_, rfl⟩⟩
  · exact Std.HashMap.mem_toList_iff_getElem?_eq_some.mpr hfind
  · rw [hlen]
    exact mem_sections_replicate fun arg harg => Std.HashMap.mem_keys.mpr (hargs arg harg)

lemma exists_mem_of_walk (h : (r.walk (n + 1) a).isSome = true) :
    ∃ b ∈ r.allApplications, r.walk n a = some b := by
  rw [walk_add] at h
  obtain ⟨b, hb⟩ := Option.isSome_iff_exists.mp (Option.isSome_of_isSome_bind h)
  rw [hb, Option.bind_some, walk] at h
  obtain ⟨c, hc⟩ := Option.isSome_iff_exists.mp (Option.isSome_of_isSome_bind h)
  obtain ⟨d, hcheck, -⟩ := onward?_eq_some.mp hc
  exact ⟨b, mem_allApplications hcheck, hb⟩

/-- A walk of more steps than there are applications has come to one of them twice. -/
lemma exists_repeat (h : (r.walk (r.applications + 1) a).isSome = true) :
    ∃ i j, i < j ∧ j ≤ r.applications ∧ r.walk i a = r.walk j a := by
  classical
  have hcard : (r.allApplications.map some).toFinset.card <
      (Finset.range (r.applications + 1)).card := by
    have hle := List.toFinset_card_le (r.allApplications.map some)
    rw [List.length_map, length_allApplications] at hle
    rw [Finset.card_range]
    exact Nat.lt_succ_of_le hle
  have hmaps : ∀ i ∈ Finset.range (r.applications + 1),
      r.walk i a ∈ (r.allApplications.map some).toFinset := by
    intro i hi
    obtain ⟨b, hb, hi⟩ := exists_mem_of_walk (isSome_walk_of_le h (Finset.mem_range.mp hi))
    rw [hi, List.mem_toFinset]
    exact List.mem_map_of_mem hb
  obtain ⟨i, hi, j, hj, hne, heq⟩ := Finset.exists_ne_map_eq_of_card_lt_of_maps_to hcard hmaps
  rw [Finset.mem_range, Nat.lt_succ_iff] at hi hj
  rcases Nat.lt_or_gt_of_ne hne with hlt | hlt
  · exact ⟨i, j, hlt, hj, heq⟩
  · exact ⟨j, i, hlt, hi, heq.symm⟩

lemma exceeds_of_applications (h : r.Exceeds (r.applications + 1) a) (n : Nat) :
    r.Exceeds n a := by
  rw [exceeds_iff] at h ⊢
  obtain ⟨i, j, hij, hj, hrepeat⟩ := exists_repeat h
  exact isSome_walk_of_repeat hij hrepeat (isSome_walk_of_le h (Nat.le_succ_of_le hj)) n

lemma missing_applications (h : ¬ r.Exceeds n a) :
    r.missing (r.applications + 1) a.definition a.args = r.missing n a.definition a.args := by
  rcases Nat.le_total n (r.applications + 1) with hn | hn
  · exact missing_of_le h hn
  · exact (missing_of_le (fun hex => h (exceeds_of_applications hex n)) hn).symm

lemma not_exceeds_of_ok {ts : List TypeDecl} (h : r.missing n a.definition a.args = .ok ts) :
    ¬ r.Exceeds n a := by
  rintro ⟨name, hname⟩
  cases h.symm.trans hname

end Registry

namespace RegistryM

open Registry

lemma exceeds_iff_outcome {n : Nat} {a : Application} {r : Registry} : r.Exceeds n a ↔
    ∃ name, (outcome (instantiateWithin n a.definition a.args) r).1 =
      .error (.endlessBase name) := by
  rw [outcome_instantiateWithin, Exceeds]
  cases r.missing n a.definition a.args <;> simp

/-- **The bound of a closing is no restriction.** Whatever bound a walk along generic bases ends
within, a closing has the same outcome; and if it complains that the chain of bases has no end, the
walk runs out of every bound. -/
theorem outcome_instantiate_of_ends (a : Application) (r : Registry) :
    let ends (n : Nat) := ∀ name,
      (outcome (instantiateWithin n a.definition a.args) r).1 ≠ .error (.endlessBase name)
    (∀ n, ends n → outcome (instantiate a.definition a.args) r =
        outcome (instantiateWithin n a.definition a.args) r) ∧
      ∀ name, (outcome (instantiate a.definition a.args) r).1 = .error (.endlessBase name) →
        ∀ n, ¬ ends n := by
  intro ends
  have hends (n : Nat) : ends n ↔ ¬ r.Exceeds n a := by
    rw [exceeds_iff_outcome, not_exists]
  constructor
  · intro n hn
    rw [outcome_instantiate, missing_applications ((hends n).mp hn), outcome_instantiateWithin]
  · intro name h n
    rw [outcome_instantiate, ← outcome_instantiateWithin] at h
    rw [hends, not_not]
    exact exceeds_of_applications (exceeds_iff_outcome.mpr ⟨name, h⟩) n

end RegistryM

end PropertyLowering
