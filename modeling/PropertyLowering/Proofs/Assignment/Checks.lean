import PropertyLowering.Proofs.Assignment.Arguments
import PropertyLowering.Proofs.Assignment.Selection

/-!
What emission for arguments checks.

Each convention picks the arguments that it pushes and checks them one at a time. Main statement:
what is emitted has one argument for each parameter, and each of them fits its own, but for the
priority of a binding. That one is dropped unseen, whereas the unset value, which is not pushed
either, is checked.
-/

namespace PropertyLowering

namespace Asm

/-- The emission does not succeed unless the fact holds. -/
def Shows (x : Asm α) (q : Prop) : Prop := ∀ a r b, outcome x a = (.ok r, b) → q

variable {ctx : Context} {q : Prop}

lemma Shows.bind {x : Asm α} (h : x.Shows q) (f : α → Asm β) : (x >>= f).Shows q := by
  intro a r c hout
  obtain ⟨s, b, hx, -⟩ := outcome_bind_ok.mp hout
  exact h a s b hx

lemma Shows.of_bind {f : α → Asm β} (h : ∀ r, (f r).Shows q) (x : Asm α) : (x >>= f).Shows q := by
  intro a r c hout
  obtain ⟨s, b, -, hf⟩ := outcome_bind_ok.mp hout
  exact h s b r c hf

lemma shows_check (c : Catalog) (v : Value) (expected : Ident) :
    Shows (liftM (v.check c expected)) (v.fits c expected = true) := by
  intro a r b h
  unfold Value.check at h
  split at h
  next hfits => exact hfits
  · cases (Prod.mk.inj h).1

lemma shows_argument (ctx : Context) (v : Value) (expected : Ident) :
    (argument ctx v expected).Shows (v.fits ctx.catalog expected = true) :=
  (shows_check ctx.catalog v expected).bind _

end Asm

namespace Setter

open Asm

variable {ctx : Context} {p : FieldProperty} {s : Setter} {args : List Value}

lemma outcome_withArguments_of_length_ne (h : args.length ≠ s.arity) (a : Assembler) :
    outcome (s.withArguments ctx args) a = (.error (s.countError args), a) := by
  unfold withArguments
  rw [if_pos h]
  rfl

lemma shows_withArguments (hs : s ∈ p.setters ctx) (hlen : args.length = s.arity) :
    (s.withArguments ctx args).Shows (∀ q ∈ s.checked args, q.2.fits ctx.catalog q.1 = true) := by
  obtain ⟨convention, rank, rfl⟩ := FieldProperty.mem_setters hs
  simp only [withArguments, hlen, ne_eq, not_true, if_false]
  cases convention with
  | unset =>
    obtain ⟨v, rfl⟩ := List.length_eq_one_iff.mp hlen
    intro a r b h
    exact List.forall_mem_singleton.mpr ((shows_check ctx.catalog v _).bind _ a r b h)
  | plain | binding =>
    obtain ⟨v, rfl⟩ := List.length_eq_one_iff.mp hlen
    refine Shows.of_bind (fun _ => ?_) _
    intro a r b h
    exact List.forall_mem_singleton.mpr ((shows_argument ctx v _).bind _ a r b h)
  | bindingWithPriority =>
    obtain ⟨priority, v, rfl⟩ := List.length_eq_two.mp hlen
    refine Shows.of_bind (fun _ => ?_) _
    intro a r b h
    exact List.forall_mem_singleton.mpr ((shows_argument ctx v _).bind _ a r b h)
  | plainWithPriority =>
    obtain ⟨priority, v, rfl⟩ := List.length_eq_two.mp hlen
    refine Shows.of_bind (fun _ => ?_) _
    intro a r b h
    have hpriority := Shows.of_bind (fun _ => (shows_argument ctx priority _).bind _) _ a r b h
    have hv := (shows_argument ctx v _).bind _ a r b h
    exact List.forall_mem_cons.mpr ⟨hpriority, List.forall_mem_singleton.mpr hv⟩

/-- The argument for the priority of a binding does not fit. -/
def MisfitPriority (ctx : Context) (s : Setter) (args : List Value) : Prop :=
  s.convention = .bindingWithPriority ∧
    ∃ v, args.head? = some v ∧ v.fits ctx.catalog ctx.framework.bindingPriority = false

/-- Arguments that pass the checks fit their parameters, unless there is a priority that no check
concerns. -/
lemma fits_iff_of_checked (hs : s ∈ p.setters ctx) (hlen : args.length = s.arity)
    (h : ∀ q ∈ s.checked args, q.2.fits ctx.catalog q.1 = true) :
    List.Forall₂ (fun param v => v.fits ctx.catalog param = true) s.params args ↔
      ¬ MisfitPriority ctx s args := by
  by_cases hconvention : s.convention = .bindingWithPriority
  · obtain ⟨convention, rank, rfl⟩ := FieldProperty.mem_setters hs
    obtain rfl : convention = .bindingWithPriority := hconvention
    obtain ⟨priority, v, rfl⟩ := List.length_eq_two.mp hlen
    have hv : v.fits ctx.catalog ctx.framework.binding = true := h _ (List.mem_singleton_self _)
    simp [FieldProperty.setter, Convention.params, MisfitPriority, hv]
  · have hall : s.checked args = s.params.zip args := by simp [checked, hconvention]
    rw [hall] at h
    exact iff_of_true (List.forall₂_iff_zip.mpr ⟨hlen.symm, fun hmem => h _ hmem⟩)
      fun hmisfit => hconvention hmisfit.1

/-- **What is emitted for arguments fits, but for the priority of a binding.** The wrong number of
arguments is refused before anything else. If emission succeeds, the arguments that it checks fit,
and so all of them do exactly when the priority of a binding, if there is one, does. If it fails for
the right number of arguments, then one that it checks does not fit, or an operand or a missing
field prevents it. The priority of a binding makes no difference. -/
theorem withArguments_checks (hs : s ∈ p.setters ctx) (args : List Value) (a : Assembler) :
    (args.length ≠ s.arity →
      outcome (s.withArguments ctx args) a = (.error (s.countError args), a)) ∧
    (∀ b, outcome (s.withArguments ctx args) a = (.ok (), b) →
      args.length = s.arity ∧ (∀ q ∈ s.checked args, q.2.fits ctx.catalog q.1 = true) ∧
      (List.Forall₂ (fun param v => v.fits ctx.catalog param = true) s.params args ↔
        ¬ MisfitPriority ctx s args)) ∧
    (args.length = s.arity → ∀ e b, outcome (s.withArguments ctx args) a = (.error e, b) →
      (∃ q ∈ s.checked args, q.2.check ctx.catalog q.1 = .error e) ∨ AllowedError ctx args e) ∧
    (s.convention = .bindingWithPriority → ∀ priority priority' v,
      s.withArguments ctx [priority, v] = s.withArguments ctx [priority', v]) := by
  refine ⟨fun hlen => outcome_withArguments_of_length_ne hlen a, fun b hok => ?_,
    fun hlen e b => failsBy_withArguments_of_length hs hlen a e b, ?_⟩
  · have hlen : args.length = s.arity := by
      by_contra hne
      rw [outcome_withArguments_of_length_ne hne] at hok
      cases (Prod.mk.inj hok).1
    have hchecked := shows_withArguments hs hlen a () b hok
    exact ⟨hlen, hchecked, fits_iff_of_checked hs hlen hchecked⟩
  · obtain ⟨convention, rank, rfl⟩ := FieldProperty.mem_setters hs
    rintro ⟨⟩ priority priority' v
    rfl

/-- The way to bind a text with a priority. -/
def bindText : Setter := textProperty.setter textContext .bindingWithPriority 1

lemma bindText_mem : bindText ∈ textProperty.setters textContext :=
  List.mem_mapIdx.mpr ⟨1, by decide, rfl⟩

/-- A string for the priority, and a binding. -/
def stringPriority : List Value :=
  [.stored 0 FrameworkNames.customary.string.ident .unknown,
    .stored 1 FrameworkNames.customary.binding.ident .unknown]

lemma misfitPriority_stringPriority : MisfitPriority textContext bindText stringPriority :=
  ⟨rfl, _, rfl, by decide +kernel⟩

lemma ok_stringPriority :
    ∃ b, outcome (bindText.withArguments textContext stringPriority) (.start .empty 0) =
      (.ok (), b) := by
  let codes : List (List Operation) :=
    [[.getStatic textProperty.field.id], [.getLocal 1],
      [.null, .callMethod textContext.framework.bind.id 3, .pop]]
  have hpieces : bindText.argumentPieces textContext stringPriority = codes.map .ok := by
    have hfits : (Value.stored 1 FrameworkNames.customary.binding.ident .unknown).fits
        textContext.catalog textContext.framework.binding = true := by
      decide +kernel
    change [_, Value.argumentCode _ _ _, _] = _
    rw [Value.argumentCode, check_of_fits hfits]
    rfl
  have hok : (outcome (bindText.withArguments textContext stringPriority) (.start .empty 0)).1 =
      .ok () := by
    rw [withArguments_eq (Framework.declared_shaped _) bindText_mem rfl, hpieces, Piece.all_map_ok,
      Operation.ok_all_iff (by decide)]
    exact Operation.fit_of_room (by simp [codes, Operation.referent]) (by decide)
  exact ⟨_, Prod.ext hok rfl⟩

theorem withArguments_checks_string :
    (∃ b, outcome (bindText.withArguments textContext stringPriority) (.start .empty 0) =
        (.ok (), b)) ∧
      (∀ q ∈ bindText.checked stringPriority, q.2.fits textContext.catalog q.1 = true) ∧
      ¬ List.Forall₂ (fun param v => v.fits textContext.catalog param = true) bindText.params
        stringPriority := by
  obtain ⟨b, hok⟩ := ok_stringPriority
  obtain ⟨-, hchecked, hfits⟩ :=
    (withArguments_checks bindText_mem stringPriority (.start .empty 0)).2.1 b hok
  exact ⟨⟨b, hok⟩, hchecked, fun h => hfits.mp h misfitPriority_stringPriority⟩

/-- Not all arguments that are emitted fit their parameters. -/
theorem misfit_emitted :
    ¬ ∀ (ctx : Context) (p : FieldProperty) (s : Setter) (args : List Value) (a b : Assembler),
      s ∈ p.setters ctx → (∀ v ∈ args, ∀ c type, v ≠ .literal c type) →
        outcome (s.withArguments ctx args) a = (.ok (), b) →
          List.Forall₂ (fun param v => v.fits ctx.catalog param = true) s.params args := by
  intro hclaim
  obtain ⟨b, hok⟩ := ok_stringPriority
  have hvalues : ∀ v ∈ stringPriority, ∀ c type, v ≠ .literal c type := by simp [stringPriority]
  have hfits := hclaim _ _ _ _ _ b bindText_mem hvalues hok
  obtain ⟨-, v, hv, hmisfit⟩ := misfitPriority_stringPriority
  cases hv
  rw [(List.forall₂_cons.mp hfits).1] at hmisfit
  cases hmisfit

end Setter

end PropertyLowering
