import Mathlib.Data.List.Forall2
import PropertyLowering.Proofs.Assembler.Pieces
import PropertyLowering.Proofs.Assignment.Values

/-!
What selection of a setter promises for emission.

Selection and emission check arguments each in its own way: selection by one flag for null, emission
by the type that each parameter expects. Main statement: arguments that a setter was selected for
pass the checks of emission, but for a null priority, which the flag of the value lets through.
-/

namespace PropertyLowering

/-- The value is a property that has no descriptor field to load, and the error says so. -/
def Value.Unloadable (ctx : Context) (v : Value) (e : CompileError) : Prop :=
  ∃ n p, v = .property n ∧ n.descriptor = .accessors p ∧
    ctx.descriptorField? p.owner p.name = none ∧ e = .notAStyledProperty p.name n.span

lemma Value.error_of_mem_pieces {ctx : Context} {v : Value} {e : CompileError}
    (h : .error e ∈ v.pieces ctx) :
    (∃ reason, e = .internal reason) ∨ v.Unloadable ctx e := by
  cases v with
  | stored slot type span => simp [pieces, code] at h
  | null span => simp [pieces, code] at h
  | literal c type => cases c <;> simp [pieces, code] at h
  | property n =>
    obtain ⟨d, staticType, valueType, params, setters, span⟩ := n
    cases d with
    | field p => simp [pieces, code] at h
    | accessors p =>
      cases hfield : ctx.descriptorField? p.owner p.name with
      | some field => simp [pieces, code, hfield] at h
      | none =>
        simp only [pieces, code, hfield, List.mem_singleton, Except.error.injEq] at h
        exact .inr ⟨_, p, rfl, rfl, hfield, h⟩
    | selector className =>
      rw [pieces, List.mem_cons, List.mem_singleton] at h
      rcases h with h | h
      · cases h
      · exact .inl (MethodDecl.error_of_argumentCount h.symm)

/-- What emission for arguments may fail with: an operand out of range, or an argument that has
nothing to load. -/
def AllowedError (ctx : Context) (args : List Value) (e : CompileError) : Prop :=
  (∃ reason, e = .internal reason) ∨ ∃ v ∈ args, v.Unloadable ctx e

lemma not_allowedError_typeMismatch (ctx : Context) (args : List Value) (reason : String)
    (span : Span) : ¬ AllowedError ctx args (.typeMismatch reason span) := by
  rintro (⟨_, he⟩ | ⟨_, _, _, _, _, _, _, he⟩) <;> cases he

namespace Asm

/-- Errors of the emission are of the given kind. -/
def FailsBy (x : Asm α) (P : CompileError → Prop) : Prop :=
  ∀ a e b, outcome x a = (.error e, b) → P e

variable {P : CompileError → Prop} {ctx : Context}

lemma FailsBy.bind {x : Asm α} {f : α → Asm β} (hx : x.FailsBy P) (hf : ∀ r, (f r).FailsBy P) :
    (x >>= f).FailsBy P := by
  intro a e c h
  rcases outcome_bind_error.mp h with h | ⟨r, b, -, h⟩
  · exact hx a e c h
  · exact hf r b e c h

lemma FailsBy.mono {Q : CompileError → Prop} {x : Asm α} (hx : x.FailsBy P) (h : ∀ e, P e → Q e) :
    x.FailsBy Q := fun a e b hab => h e (hx a e b hab)

lemma failsBy_pure (r : α) : (pure r : Asm α).FailsBy P := by
  intro a e b h
  cases (Prod.mk.inj h).1

lemma failsBy_perform (op : Operation) :
    op.perform.FailsBy fun e => ∃ reason, e = .internal reason :=
  fun a e b h => ((Operation.failure_perform op a).2 e b h).2.2

lemma failsBy_pieces {cs : List Piece} (he : ∀ c ∈ cs, c.Emitting)
    (hinternal : ∀ reason, P (.internal reason)) (hcs : ∀ e, .error e ∈ cs → P e) :
    (Piece.all cs).FailsBy P := by
  refine Piece.all_induction (C := (FailsBy · P)) (failsBy_pure ())
    (fun op _ => (failsBy_perform op).mono ?_)
    (fun _ _ hx hy => hx.bind fun _ => hy) he fun e hmem => ?_
  · rintro e ⟨reason, rfl⟩
    exact hinternal reason
  · intro a e' b h
    obtain rfl := Except.error.inj (Prod.mk.inj h).1
    exact hcs e hmem

lemma failsBy_invoke (m : MethodDecl) (typeArg : Option Ident) :
    (invoke m typeArg).FailsBy fun e => ∃ reason, e = .internal reason := by
  rw [invoke_eq_all]
  refine failsBy_pieces ?_ (fun reason => ⟨reason, rfl⟩) fun e he => ?_
  · exact List.forall_mem_singleton.mpr (emitting_invocation m typeArg)
  · exact MethodDecl.error_of_argumentCount (List.mem_singleton.mp he).symm

lemma failsBy_unsetTail (ctx : Context) (field : Ident) :
    (unsetTail ctx field).FailsBy fun e => ∃ reason, e = .internal reason := by
  refine (failsBy_perform (.getStatic field)).bind fun _ => ?_
  refine (failsBy_perform (.getStatic ctx.framework.unsetValue.id)).bind fun _ => ?_
  refine (failsBy_perform (.int 0)).bind fun _ => ?_
  exact failsBy_invoke ctx.framework.setValue none

lemma failsBy_push {args : List Value} {v : Value} (hv : v ∈ args) :
    (push ctx v).FailsBy (AllowedError ctx args) := by
  rw [v.push_eq_all]
  refine failsBy_pieces (v.emitting_pieces ctx) (fun reason => .inl ⟨reason, rfl⟩) fun e he => ?_
  rcases Value.error_of_mem_pieces he with hinternal | hunloadable
  · exact .inl hinternal
  · exact .inr ⟨v, hv, hunloadable⟩

lemma check_of_fits {c : Catalog} {v : Value} {expected : Ident} (h : v.fits c expected = true) :
    v.check c expected = .ok () := by
  unfold Value.check
  rw [if_pos h]

lemma failsBy_check (v : Value) (expected : Ident) :
    FailsBy (liftM (v.check ctx.catalog expected)) (v.check ctx.catalog expected = .error ·) := by
  intro a e b h
  cases hcheck : v.check ctx.catalog expected with
  | error e' =>
    rw [hcheck] at h
    exact congrArg Except.error (Except.error.inj (Prod.mk.inj h).1)
  | ok _ =>
    rw [hcheck] at h
    cases (Prod.mk.inj h).1

lemma argument_of_fits {v : Value} {expected : Ident} (h : v.fits ctx.catalog expected = true) :
    argument ctx v expected = push ctx v := by
  unfold argument
  rw [check_of_fits h, liftExcept_ok_bind]

lemma failsBy_argument {args : List Value} {v : Value} (hv : v ∈ args) (expected : Ident) :
    (argument ctx v expected).FailsBy fun e =>
      v.check ctx.catalog expected = .error e ∨ AllowedError ctx args e :=
  ((failsBy_check v expected).mono fun _ h => .inl h).bind fun _ =>
    (failsBy_push hv).mono fun _ h => .inr h

end Asm

namespace Setter

open Asm

variable {ctx : Context} {p : FieldProperty} {s : Setter}

lemma acceptsNull_setter {convention : Convention} {rank : Nat}
    (h : (p.setter ctx convention rank).acceptsNull = true) :
    convention.takesValue = true ∧ ctx.catalog.acceptsNull p.valueType = true :=
  Bool.and_eq_true_iff.mp h

lemma fits_of_acceptsArgument {c : Catalog} {param : Ident} {v : Value}
    (h : s.acceptsArgument c param v.argument = true)
    (hnull : s.acceptsNull = true → v.type? = none → c.acceptsNull param = true) :
    v.fits c param = true := by
  unfold Value.argument at h
  unfold Value.fits
  cases htype : v.type? with
  | none =>
    rw [htype] at h
    exact hnull h htype
  | some type =>
    rw [htype] at h
    exact h

/-- The argument for the priority is null, and priorities do not accept null. -/
def NullPriority (ctx : Context) (s : Setter) (args : List Value) : Prop :=
  s.convention = .plainWithPriority ∧ (∃ v, args.head? = some v ∧ v.type? = none) ∧
    ctx.catalog.acceptsNull ctx.framework.bindingPriority = false

lemma accepts_iff_forall₂ {c : Catalog} {args : List Argument} :
    s.accepts c args = true ↔
      List.Forall₂ (fun param a => s.acceptsArgument c param a = true) s.params args := by
  rw [List.forall₂_iff_zip, accepts, Bool.and_eq_true, beq_iff_eq, arity, List.all_eq_true]
  simp

lemma accepts_iff {c : Catalog} {args : List Value} :
    s.accepts c (args.map Value.argument) = true ↔
      List.Forall₂ (fun param v => s.acceptsArgument c param v.argument = true) s.params args := by
  rw [accepts_iff_forall₂, List.forall₂_map_right_iff]

lemma fits_of_accepts (hs : s ∈ p.setters ctx) {args : List Value}
    (h : s.accepts ctx.catalog (args.map Value.argument) = true)
    (hnull : ¬ NullPriority ctx s args) :
    List.Forall₂ (fun param v => v.fits ctx.catalog param = true) s.params args := by
  rw [accepts_iff] at h
  obtain ⟨convention, rank, rfl⟩ := FieldProperty.mem_setters hs
  cases convention with
  | unset | binding | bindingWithPriority =>
    refine h.imp fun param v hv => fits_of_acceptsArgument hv fun hacc => ?_
    cases (acceptsNull_setter hacc).1
  | plain =>
    cases h with
    | cons hv hrest =>
      cases hrest
      refine .cons (fits_of_acceptsArgument hv fun hacc _ => (acceptsNull_setter hacc).2) .nil
  | plainWithPriority =>
    cases h with
    | @cons _ priority _ _ hpriority hrest =>
      cases hrest with
      | cons hv hrest =>
        cases hrest
        refine .cons (fits_of_acceptsArgument hpriority fun _ htype => ?_)
          (.cons (fits_of_acceptsArgument hv fun hacc _ => (acceptsNull_setter hacc).2) .nil)
        rw [← Bool.not_eq_false]
        exact fun hfalse => hnull ⟨rfl, ⟨priority, rfl, htype⟩, hfalse⟩

/-- The arguments with the types that emission checks them against. It drops the priority of a
binding unseen. -/
def checked (s : Setter) (args : List Value) : List (Ident × Value) :=
  (s.params.zip args).drop (if s.convention = .bindingWithPriority then 1 else 0)

lemma failsBy_withArguments_of_length (hs : s ∈ p.setters ctx) {args : List Value}
    (hlen : args.length = s.arity) :
    (s.withArguments ctx args).FailsBy fun e =>
      (∃ q ∈ s.checked args, q.2.check ctx.catalog q.1 = .error e) ∨ AllowedError ctx args e := by
  have hop (op : Operation) : op.perform.FailsBy (AllowedError ctx args) :=
    (failsBy_perform op).mono fun _ h => .inl h
  have hinvoke (m typeArg) : (invoke m typeArg).FailsBy (AllowedError ctx args) :=
    (failsBy_invoke m typeArg).mono fun _ h => .inl h
  have hargument {v : Value} {expected : Ident} (hmem : (expected, v) ∈ s.checked args) :
      (argument ctx v expected).FailsBy fun e =>
        (∃ q ∈ s.checked args, q.2.check ctx.catalog q.1 = .error e) ∨ AllowedError ctx args e :=
    (failsBy_argument (List.of_mem_zip (List.mem_of_mem_drop hmem)).2 expected).mono
      fun _ => .imp_left fun h => ⟨_, hmem, h⟩
  obtain ⟨convention, rank, rfl⟩ := FieldProperty.mem_setters hs
  simp only [withArguments, hlen, ne_eq, not_true, if_false]
  cases convention with
  | unset =>
    obtain ⟨v, rfl⟩ := List.length_eq_one_iff.mp hlen
    refine ((failsBy_check v _).mono fun _ h => .inl ⟨_, List.mem_singleton_self _, h⟩).bind
      fun _ => ?_
    exact (failsBy_unsetTail ctx p.field.id).mono fun _ h => .inr (.inl h)
  | binding =>
    obtain ⟨v, rfl⟩ := List.length_eq_one_iff.mp hlen
    refine ((hop (.getStatic p.field.id)).mono fun _ => .inr).bind fun _ => ?_
    refine (hargument (List.mem_singleton_self _)).bind fun _ => ?_
    exact ((hop .null).bind fun _ => hinvoke ctx.framework.bind none).mono fun _ => .inr
  | plain =>
    obtain ⟨v, rfl⟩ := List.length_eq_one_iff.mp hlen
    refine ((hop (.getStatic p.field.id)).mono fun _ => .inr).bind fun _ => ?_
    refine (hargument (List.mem_singleton_self _)).bind fun _ => ?_
    exact ((hop (.int 0)).bind fun _ =>
      hinvoke ctx.framework.setStyledValue (some p.valueType)).mono fun _ => .inr
  | bindingWithPriority =>
    obtain ⟨priority, v, rfl⟩ := List.length_eq_two.mp hlen
    refine ((hop (.getStatic p.field.id)).mono fun _ => .inr).bind fun _ => ?_
    refine (hargument (List.mem_singleton_self _)).bind fun _ => ?_
    exact ((hop .null).bind fun _ => hinvoke ctx.framework.bind none).mono fun _ => .inr
  | plainWithPriority =>
    obtain ⟨priority, v, rfl⟩ := List.length_eq_two.mp hlen
    refine ((hop (.getStatic p.field.id)).mono fun _ => .inr).bind fun _ => ?_
    refine (hargument (List.mem_cons_of_mem _ (List.mem_singleton_self _))).bind fun _ => ?_
    refine (hargument (List.mem_cons_self ..)).bind fun _ => ?_
    exact (hinvoke ctx.framework.setStyledValue (some p.valueType)).mono fun _ => .inr

lemma failsBy_withArguments (hs : s ∈ p.setters ctx) {args : List Value}
    (h : List.Forall₂ (fun param v => v.fits ctx.catalog param = true) s.params args) :
    (s.withArguments ctx args).FailsBy (AllowedError ctx args) := by
  refine (failsBy_withArguments_of_length hs h.length_eq.symm).mono fun e he => ?_
  refine he.resolve_left ?_
  rintro ⟨⟨param, v⟩, hmem, hcheck⟩
  have hfits := (List.forall₂_iff_zip.mp h).2 (List.mem_of_mem_drop hmem)
  rw [check_of_fits hfits] at hcheck
  cases hcheck

/-- A null priority is noticed once the descriptor field and the value are loaded. -/
lemma outcome_of_nullPriority (hs : s ∈ p.setters ctx) {args : List Value}
    (h : s.accepts ctx.catalog (args.map Value.argument) = true) (hnull : NullPriority ctx s args)
    (a : Assembler) :
    ∃ priority value reason, args = [priority, value] ∧
      ∀ r b, outcome (do getStatic s.property.field.id; push ctx value) a = (r, b) →
        outcome (s.withArguments ctx args) a =
          (do r; .error (.typeMismatch reason priority.span), b) := by
  rw [accepts_iff] at h
  obtain ⟨convention, rank, rfl⟩ := FieldProperty.mem_setters hs
  obtain ⟨hconvention, ⟨w, hw, htype⟩, hprio⟩ := hnull
  change convention = .plainWithPriority at hconvention
  subst hconvention
  cases h with
  | @cons _ priority _ _ hpriority hrest =>
    cases hrest with
    | @cons _ value _ _ hv hrest =>
      cases hrest
      obtain rfl : priority = w := Option.some.inj hw
      have hfits : value.fits ctx.catalog p.valueType = true :=
        fits_of_acceptsArgument hv fun hacc _ => (acceptsNull_setter hacc).2
      have hcheck : ∃ reason, priority.check ctx.catalog ctx.framework.bindingPriority =
          .error (.typeMismatch reason priority.span) := by
        unfold Value.check Value.fits
        rw [htype]
        simp [hprio]
      obtain ⟨reason, hcheck⟩ := hcheck
      refine ⟨priority, value, reason, rfl, fun r b hload => ?_⟩
      have hcode : (p.setter ctx .plainWithPriority rank).withArguments ctx [priority, value] =
          (do getStatic p.field.id; push ctx value) >>= fun _ =>
            argument ctx priority ctx.framework.bindingPriority >>= fun _ =>
              invoke ctx.framework.setStyledValue (some p.valueType) := by
        rw [← argument_of_fits hfits, bind_assoc]
        rfl
      have hargument : argument ctx priority ctx.framework.bindingPriority =
          throw (.typeMismatch reason priority.span) := by
        rw [argument, hcheck, liftExcept_error_bind]
      change outcome (do getStatic p.field.id; push ctx value) a = (r, b) at hload
      rw [hcode, hargument, outcome_bind, hload]
      cases r <;> rfl

/-- **Selection lets a null priority through and nothing else.** Emission for arguments that the
setter was selected for fails on an operand out of range or an argument with nothing to load, except
that a null priority is refused where priorities do not accept null, as soon as the descriptor field
and the value are loaded. So such arguments are never emitted, although they were selected for. -/
theorem selectSetter_withArguments {args : List Value}
    (h : selectSetter ctx.catalog (p.setters ctx) (args.map Value.argument) = some s)
    (a : Assembler) :
    ((∃ reason span b,
        outcome (s.withArguments ctx args) a = (.error (.typeMismatch reason span), b)) ↔
      NullPriority ctx s args ∧ ∃ priority value b, args = [priority, value] ∧
        outcome (do getStatic s.property.field.id; push ctx value) a = (.ok (), b)) ∧
    (∀ e b, outcome (s.withArguments ctx args) a = (.error e, b) →
      AllowedError ctx args e ∨
        NullPriority ctx s args ∧ ∃ reason span, e = .typeMismatch reason span) ∧
    (NullPriority ctx s args → ∀ b, outcome (s.withArguments ctx args) a ≠ (.ok (), b)) := by
  have hs : s ∈ p.setters ctx := List.mem_of_find?_eq_some h
  have hacc := List.find?_some h
  by_cases hnull : NullPriority ctx s args
  · obtain ⟨priority, value, reason, rfl, hout⟩ := outcome_of_nullPriority hs hacc hnull a
    have hloaded : FailsBy (do getStatic s.property.field.id; push ctx value)
        (AllowedError ctx [priority, value]) :=
      ((failsBy_perform (.getStatic _)).mono fun _ h => .inl h).bind fun _ =>
        failsBy_push (by simp)
    rcases hload : outcome (do getStatic s.property.field.id; push ctx value) a with ⟨e | _, b⟩
    · have he := hloaded a e b hload
      rw [hout _ b hload]
      refine ⟨iff_of_false ?_ ?_, ?_, ?_⟩
      · rintro ⟨reason, span, c, hmismatch⟩
        obtain ⟨heq, -⟩ := Prod.mk.inj hmismatch
        obtain rfl := Except.error.inj heq
        exact not_allowedError_typeMismatch _ _ reason span he
      · rintro ⟨-, _, _, c, hargs, hok⟩
        cases hargs
        rw [hload] at hok
        cases (Prod.mk.inj hok).1
      · intro e' c herror
        obtain ⟨heq, -⟩ := Prod.mk.inj herror
        obtain rfl := Except.error.inj heq
        exact .inl he
      · intro _ c hok
        cases (Prod.mk.inj hok).1
    · rw [hout _ b hload]
      refine ⟨iff_of_true ⟨reason, priority.span, b, rfl⟩ ?_, ?_, ?_⟩
      · exact ⟨hnull, priority, value, b, rfl, hload⟩
      · intro e c herror
        obtain ⟨heq, -⟩ := Prod.mk.inj herror
        exact .inr ⟨hnull, reason, priority.span, (Except.error.inj heq).symm⟩
      · intro _ c hok
        cases (Prod.mk.inj hok).1
  · have hfails := failsBy_withArguments hs (fits_of_accepts hs hacc hnull)
    refine ⟨?_, fun e b hout => .inl (hfails a e b hout), fun hnull' => absurd hnull' hnull⟩
    refine iff_of_false ?_ fun hbad => hnull hbad.1
    rintro ⟨reason, span, b, hout⟩
    exact not_allowedError_typeMismatch _ _ reason span (hfails a _ b hout)

/-- The declared framework among types of which strings accept null and priorities do not. -/
def textContext : Context :=
  .declared .customary
    [.ofName FrameworkNames.customary.string .reference,
      .ofName FrameworkNames.customary.bindingPriority .enum]

def textProperty : FieldProperty := .declared .customary FrameworkNames.customary.string

/-- A null priority and a string. -/
def nullArguments : List Value :=
  [.null .unknown, .stored 0 FrameworkNames.customary.string.ident .unknown]

lemma select_nullArguments :
    selectSetter textContext.catalog (textProperty.setters textContext)
        (nullArguments.map Value.argument) =
      some (textProperty.setter textContext .plainWithPriority 2) := by
  decide +kernel

lemma nullPriority_nullArguments :
    NullPriority textContext (textProperty.setter textContext .plainWithPriority 2)
      nullArguments :=
  ⟨rfl, ⟨_, rfl, rfl⟩, by decide +kernel⟩

lemma load_nullArguments :
    ∃ b, outcome (do
      getStatic textProperty.field.id
      push textContext (.stored 0 FrameworkNames.customary.string.ident .unknown))
        (.start .empty 0) = (.ok (), b) := by
  have hok : (outcome (Operation.all [.getStatic textProperty.field.id, .getLocal 0])
      (.start .empty 0)).1 = .ok () := by
    rw [Operation.ok_all_iff (by simp [Operation.emits])]
    exact Operation.fit_of_room (by simp [Operation.referent]) (by decide)
  simp only [Operation.all_cons (.getStatic _), Operation.all_singleton] at hok
  exact ⟨_, Prod.ext hok rfl⟩

theorem selectSetter_withArguments_null :
    let s := textProperty.setter textContext .plainWithPriority 2
    selectSetter textContext.catalog (textProperty.setters textContext)
        (nullArguments.map Value.argument) = some s ∧
      ∃ reason span b,
        outcome (s.withArguments textContext nullArguments) (.start .empty 0) =
          (.error (.typeMismatch reason span), b) := by
  intro s
  obtain ⟨b, hload⟩ := load_nullArguments
  have hmismatch := (selectSetter_withArguments select_nullArguments (.start .empty 0)).1
  refine ⟨select_nullArguments, hmismatch.mpr ⟨nullPriority_nullArguments, ?_⟩⟩
  exact ⟨_, _, b, rfl, hload⟩

/-- Not all arguments that a setter is selected for are emitted as far as operands and fields
allow. -/
theorem selected_refused :
    ¬ ∀ (ctx : Context) (p : FieldProperty) (s : Setter) (args : List Value) (a b : Assembler)
        (e : CompileError),
      selectSetter ctx.catalog (p.setters ctx) (args.map Value.argument) = some s →
        outcome (s.withArguments ctx args) a = (.error e, b) → AllowedError ctx args e := by
  intro hclaim
  have hs := List.mem_of_find?_eq_some select_nullArguments
  have hacc := List.find?_some select_nullArguments
  obtain ⟨priority, value, reason, hargs, hout⟩ :=
    outcome_of_nullPriority hs hacc nullPriority_nullArguments (.start .empty 0)
  obtain ⟨b, hload⟩ := load_nullArguments
  cases hargs
  have hallowed := hclaim _ _ _ _ _ _ _ select_nullArguments (hout _ b hload)
  exact not_allowedError_typeMismatch _ _ _ _ hallowed

end Setter

end PropertyLowering
