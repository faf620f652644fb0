import PropertyLowering.Proofs.Registry.Chain

/-!
Identities that differ in one component.

A fold multiplies by an odd word and adds a part under the marker of its position. Each step can be
undone, so what goes in at one place is never lost to the steps that follow it, however many these
are. Main statement: applications and methods that differ in one component have different
identities, so that instances of a definition with one parameter are never taken for each other.
-/

namespace PropertyLowering

namespace Ident

open Registry RegistryM Registry.Chain

variable {n i : Nat} {h h' : UInt64} {parts : List Ident} {a b : Ident}

lemma bits_inj : a.bits = b.bits ↔ a = b := ⟨congrArg mk, congrArg bits⟩

/-- The word that undoes the multiplication by the separator. There is one because the separator is
odd. -/
def separatorInverse : UInt64 := 0xd3f20f0a40208825

lemma separator_mul_inverse : separator * separatorInverse = 1 := by decide

lemma mul_separator_inj : h * separator = h' * separator ↔ h = h' := by
  refine ⟨fun heq => ?_, congrArg (· * separator)⟩
  have hback (x : UInt64) : x * separator * separatorInverse = x := by
    rw [UInt64.mul_assoc, separator_mul_inverse, UInt64.mul_one]
  rw [← hback h, ← hback h', heq]

lemma foldFrom_seed_inj : foldFrom n h parts = foldFrom n h' parts ↔ h = h' := by
  induction parts generalizing n h h' with
  | nil => rfl
  | cons part parts ih =>
    rw [foldFrom_cons, foldFrom_cons, ih, UInt64.add_left_inj, mul_separator_inj]

lemma foldFrom_head_inj : foldFrom n h (a :: parts) = foldFrom n h (b :: parts) ↔ a = b := by
  rw [foldFrom_cons, foldFrom_cons, foldFrom_seed_inj, UInt64.add_right_inj, UInt64.xor_right_inj,
    bits_inj]

lemma foldFrom_set_inj (hi : i < parts.length) :
    foldFrom n h (parts.set i a) = foldFrom n h (parts.set i b) ↔ a = b := by
  induction parts generalizing n i h with
  | nil => cases hi
  | cons part parts ih =>
    cases i with
    | zero => exact foldFrom_head_inj
    | succ i => exact ih (Nat.lt_of_succ_lt_succ hi)

lemma mk_fold_set_inj (hi : i < parts.length) :
    mk (fold h (parts.set i a)) = mk (fold h (parts.set i b)) ↔ a = b := by
  rw [← bits_inj]
  exact foldFrom_set_inj hi

lemma mk_fold_seed_inj : mk (fold h parts) = mk (fold h' parts) ↔ h = h' := by
  rw [← bits_inj]
  exact foldFrom_seed_inj

lemma eq_of_instantiate {definition type : Ident} {args : List Ident} {r s : Registry}
    (hout : outcome (instantiate definition args) r = (.ok type, s)) :
    type = ofInstance definition args := by
  rw [outcome_instantiate] at hout
  split at hout
  · exact (Except.ok.inj (Prod.mk.inj hout).1).symm
  · cases (Prod.mk.inj hout).1

/-- **An identity tells its components apart.** Change one argument, wherever it stands, and the
identity of the instance changes; so it is with the type arguments of a generic method, and with the
parameters of a method of an owner and a name. Change the definition, the method or the owner over
the same list, and it changes too. So a definition of one parameter that is closed over different
arguments, in whatever registries, never gives the same type. -/
theorem component_injective :
    (∀ (parts : List Ident) (i : Nat), i < parts.length → ∀ a b : Ident,
      (∀ definition, ofInstance definition (parts.set i a) = ofInstance definition (parts.set i b) ↔
        a = b) ∧
      (∀ method, ofMethodInstance method (parts.set i a) = ofMethodInstance method (parts.set i b) ↔
        a = b) ∧
      ∀ owner name, ofMethod owner name (parts.set i a) = ofMethod owner name (parts.set i b) ↔
        a = b) ∧
    (∀ (parts : List Ident) (a b : Ident),
      (ofInstance a parts = ofInstance b parts ↔ a = b) ∧
      (ofMethodInstance a parts = ofMethodInstance b parts ↔ a = b) ∧
      ∀ name, ofMethod a name parts = ofMethod b name parts ↔ a = b) ∧
    ∀ (definition a b type type' : Ident) (r r' s s' : Registry),
      outcome (instantiate definition [a]) r = (.ok type, s) →
      outcome (instantiate definition [b]) r' = (.ok type', s') →
        (type = type' ↔ a = b) := by
  refine ⟨fun parts i hi a b => ?parts, fun parts a b => ?seeds,
    fun definition a b type type' r r' s s' hout hout' => ?instances⟩
  case parts =>
    exact ⟨fun _ => mk_fold_set_inj hi, fun _ => mk_fold_set_inj hi, fun _ _ => mk_fold_set_inj hi⟩
  case seeds =>
    refine ⟨mk_fold_seed_inj.trans bits_inj, ?_, fun name => ?_⟩
    · rw [ofMethodInstance, ofMethodInstance, mk_fold_seed_inj, UInt64.xor_right_inj, bits_inj]
    · rw [ofMethod, ofMethod, mk_fold_seed_inj, UInt64.xor_left_inj, UInt64.xor_right_inj, bits_inj]
  case instances =>
    rw [eq_of_instantiate hout, eq_of_instantiate hout']
    have hfirst : 0 < [a].length := Nat.zero_lt_one
    exact mk_fold_set_inj hfirst

theorem component_injective_family :
    let params := List.replicate 10 object
    9 < params.length ∧
      ofMethod family.id "Set" (params.set 9 bool) ≠
        ofMethod family.id "Set" (params.set 9 object) ∧
      ∃ type type' s s', outcome (instantiate family.id [bool]) stock = (.ok type, s) ∧
        outcome (instantiate family.id [object]) stock = (.ok type', s') ∧ type ≠ type' := by
  intro params
  have hne : bool ≠ object := by decide +kernel
  have hout (a : Ident) (ha : stock.contains a = true) :
      ∃ type s, outcome (instantiate family.id [a]) stock = (.ok type, s) := by
    have hcheck : stock.checkArguments family.id [a] = .ok (family.generic ["T"]) :=
      checkArguments_generic find?_family rfl (by simpa using ha)
    rw [outcome_instantiate]
    cases hheld : stock.contains (.ofInstance family.id [a]) with
    | true => exact ⟨_, _, by rw [missing_of_held hcheck hheld]⟩
    | false => exact ⟨_, _, by rw [missing_of_last hcheck hheld (by rintro _ _ ⟨⟩)]⟩
  obtain ⟨type, s, hbool⟩ := hout bool contains_bool
  obtain ⟨type', s', hobject⟩ := hout object contains_object
  obtain ⟨hparts, -, hinstances⟩ := component_injective
  obtain ⟨-, -, hmethod⟩ := hparts params 9 (by decide) bool object
  exact ⟨by decide, (hmethod _ _).not.mpr hne, type, type', s, s', hbool, hobject,
    (hinstances _ _ _ _ _ _ _ _ _ hbool hobject).not.mpr hne⟩

end Ident

end PropertyLowering
