import PropertyLowering.Proofs.Text.Trim
import PropertyLowering.Reference.Parser

/-!
The grammar of written references.

A reference is spelled `name`, `owner.name` or `namespace:owner.name` in identifiers, and stands
among blanks, perhaps in one pair of parentheses with blanks inside. Main statement: reading accepts
exactly these texts and returns the pieces, so that a text can be taken apart in one way only.
-/

namespace PropertyLowering.Reference

open Text

/-- The texts that a reference is spelled with. -/
inductive Spells : Reference → String → Prop where
  | name {name : String} (hname : IsIdentifier name.toList) : Spells ⟨none, none, name⟩ name
  | owned {owner name : String} (howner : IsIdentifier owner.toList)
      (hname : IsIdentifier name.toList) :
      Spells ⟨none, some owner, name⟩ (owner ++ "." ++ name)
  | spaced {space owner name : String} (hspace : IsIdentifier space.toList)
      (howner : IsIdentifier owner.toList) (hname : IsIdentifier name.toList) :
      Spells ⟨some space, some owner, name⟩ (space ++ ":" ++ owner ++ "." ++ name)

/-- What may stand around a spelling: blanks, and a pair of parentheses with blanks on its inner
sides. -/
structure Setting where
  before : String
  inner : Option (String × String)
  after : String

namespace Setting

/-- The spelling with or without parentheses. -/
def enclose (s : Setting) (token : String) : String :=
  match s.inner with
  | none => token
  | some (left, right) => "(" ++ left ++ token ++ right ++ ")"

def around (s : Setting) (token : String) : String :=
  s.before ++ s.enclose token ++ s.after

/-- There are only blanks beside the parentheses. -/
structure IsBlank (s : Setting) : Prop where
  before : Blank s.before.toList
  after : Blank s.after.toList
  inner : ∀ left right, s.inner = some (left, right) → Blank left.toList ∧ Blank right.toList

end Setting

/-- What is left of reading once blanks and parentheses are off. -/
def parseText (text : List Char) : Except Fault Reference := do
  checkSeparators text
  let (space, rest) := splitAtFirst ':' text
  let (owner, name) := splitAtFirst '.' rest
  checkPieces space owner name
  return ⟨space.map String.ofList, owner.map String.ofList, String.ofList name⟩

lemma parseChars_eq (raw : List Char) : parseChars raw = unwrap (trim raw) >>= parseText := rfl

section Pieces

variable {text : List Char}

lemma checkIdentifier_eq_ok (segment : Segment) :
    checkIdentifier segment text = .ok () ↔ IsIdentifier text := by
  cases text with
  | nil => simp [checkIdentifier, IsIdentifier]
  | cons first rest =>
    simp only [checkIdentifier, IsIdentifier, ← isIdentStart_iff, ← isIdentRest_iff]
    by_cases hfirst : isIdentStart first = true
    · cases hrest : rest.find? (!isIdentRest ·) with
      | none =>
        have hall : ∀ c ∈ rest, isIdentRest c = true := by simpa using hrest
        simp only [hfirst, if_true, true_and, true_iff]
        exact hall
      | some c =>
        have hmem := List.mem_of_find?_eq_some hrest
        have hc := List.find?_some hrest
        simp only [hfirst, if_true, reduceCtorEq, true_and, false_iff, not_forall]
        exact ⟨c, hmem, by simpa using hc⟩
    · simp [hfirst]

lemma splitAtFirst_cases (separator : Char) (text : List Char) :
    separator ∉ text ∧ splitAtFirst separator text = (none, text) ∨
      ∃ front back, text = front ++ separator :: back ∧
        splitAtFirst separator text = (some front, back) := by
  unfold splitAtFirst
  cases hback : text.dropWhile (· != separator) with
  | nil =>
    refine .inl ⟨fun hmem => ?_, rfl⟩
    have hall := List.dropWhile_eq_nil_iff.mp hback separator hmem
    simp at hall
  | cons c back =>
    have hc : c = separator := by
      have hhead := List.head?_dropWhile_not (· != separator) text
      rw [hback] at hhead
      simpa using hhead
    subst hc
    refine .inr ⟨text.takeWhile (· != c), back, ?_, rfl⟩
    rw [← hback, List.takeWhile_append_dropWhile]

lemma splitAtFirst_of_notMem {separator : Char} (h : separator ∉ text) :
    splitAtFirst separator text = (none, text) := by
  rcases splitAtFirst_cases separator text with ⟨-, heq⟩ | ⟨front, back, rfl, -⟩
  · exact heq
  · exact absurd (by simp) h

lemma splitAtFirst_append {separator : Char} {front : List Char} (h : separator ∉ front)
    (back : List Char) : splitAtFirst separator (front ++ separator :: back) = (some front, back) := by
  have hfront : ∀ c ∈ front, (c != separator) = true := by
    intro c hc
    rw [bne_iff_ne]
    rintro rfl
    exact h hc
  simp [splitAtFirst, List.dropWhile_append_of_pos hfront, List.takeWhile_append_of_pos hfront]

lemma checkIdentifier_bind_eq_ok {segment : Segment} {next : Except Fault Unit} :
    (checkIdentifier segment text >>= fun _ => next) = .ok () ↔
      IsIdentifier text ∧ next = .ok () := by
  rw [← checkIdentifier_eq_ok segment]
  cases checkIdentifier segment text <;> simp [bind, Except.bind]

lemma checkPieces_eq_ok {space owner : Option (List Char)} {name : List Char} :
    checkPieces space owner name = .ok () ↔
      (∀ s, space = some s → IsIdentifier s ∧ owner ≠ none) ∧
        (∀ o, owner = some o → IsIdentifier o) ∧ IsIdentifier name := by
  rcases space with _ | space <;> rcases owner with _ | owner
  · change checkIdentifier .name name = .ok () ↔ _
    simp [checkIdentifier_eq_ok]
  · change (checkIdentifier .owner owner >>= fun _ => checkIdentifier .name name) = .ok () ↔ _
    simp [checkIdentifier_bind_eq_ok, checkIdentifier_eq_ok]
  · change (checkIdentifier .space space >>= fun _ => .error _) = .ok () ↔ _
    simp [checkIdentifier_bind_eq_ok]
  · change (checkIdentifier .space space >>= fun _ => checkIdentifier .owner owner >>= fun _ =>
      checkIdentifier .name name) = .ok () ↔ _
    simp [checkIdentifier_bind_eq_ok, checkIdentifier_eq_ok]

lemma checkSeparators_eq_ok (hopen : '(' ∉ text) (hclose : ')' ∉ text) (hne : text ≠ [])
    (hcolon : text.count ':' ≤ 1) (hdot : text.count '.' ≤ 1) : checkSeparators text = .ok () := by
  simp [checkSeparators, hopen, hclose, hne, Nat.not_lt.mpr hcolon, Nat.not_lt.mpr hdot]

end Pieces

lemma isIdentRest_colon : isIdentRest ':' = false := isIdentRest_punctuation.1

lemma isIdentRest_dot : isIdentRest '.' = false := isIdentRest_punctuation.2.1

lemma isIdentRest_open : isIdentRest '(' = false := isIdentRest_punctuation.2.2.1

lemma isIdentRest_close : isIdentRest ')' = false := isIdentRest_punctuation.2.2.2

lemma parseText_eq_ok {text rest name : List Char} {space owner : Option (List Char)}
    {r : Reference} (hcolon : splitAtFirst ':' text = (space, rest))
    (hdot : splitAtFirst '.' rest = (owner, name)) :
    parseText text = .ok r ↔ checkSeparators text = .ok () ∧ checkPieces space owner name = .ok () ∧
      r = ⟨space.map String.ofList, owner.map String.ofList, String.ofList name⟩ := by
  unfold parseText
  simp only [hcolon, hdot]
  cases checkSeparators text <;> cases checkPieces space owner name <;>
    simp [bind, Except.bind, pure, Except.pure, eq_comm]

lemma spells_of_parseText {text : List Char} {r : Reference} (h : parseText text = .ok r) :
    Spells r (String.ofList text) := by
  rcases splitAtFirst_cases ':' text with ⟨-, hcolon⟩ | ⟨space, rest, rfl, hcolon⟩
  · rcases splitAtFirst_cases '.' text with ⟨-, hdot⟩ | ⟨owner, name, rfl, hdot⟩
    · obtain ⟨-, hpieces, rfl⟩ := (parseText_eq_ok hcolon hdot).mp h
      obtain ⟨-, -, hname⟩ := checkPieces_eq_ok.mp hpieces
      exact .name (by simpa using hname)
    · obtain ⟨-, hpieces, rfl⟩ := (parseText_eq_ok hcolon hdot).mp h
      obtain ⟨-, howner, hname⟩ := checkPieces_eq_ok.mp hpieces
      have hspells : Spells ⟨none, some (String.ofList owner), String.ofList name⟩
          (String.ofList owner ++ "." ++ String.ofList name) :=
        .owned (by simpa using howner owner rfl) (by simpa using hname)
      have htext : String.ofList (owner ++ '.' :: name) =
          String.ofList owner ++ "." ++ String.ofList name := by
        simp [← String.toList_inj]
      rw [htext]
      exact hspells
  · rcases splitAtFirst_cases '.' rest with ⟨-, hdot⟩ | ⟨owner, name, rfl, hdot⟩
    · obtain ⟨-, hpieces, -⟩ := (parseText_eq_ok hcolon hdot).mp h
      exact absurd rfl ((checkPieces_eq_ok.mp hpieces).1 space rfl).2
    · obtain ⟨-, hpieces, rfl⟩ := (parseText_eq_ok hcolon hdot).mp h
      obtain ⟨hspace, howner, hname⟩ := checkPieces_eq_ok.mp hpieces
      have hspells : Spells ⟨some (String.ofList space), some (String.ofList owner),
          String.ofList name⟩ (String.ofList space ++ ":" ++ String.ofList owner ++ "." ++
            String.ofList name) :=
        .spaced (by simpa using (hspace space rfl).1) (by simpa using howner owner rfl)
          (by simpa using hname)
      have htext : String.ofList (space ++ ':' :: (owner ++ '.' :: name)) =
          String.ofList space ++ ":" ++ String.ofList owner ++ "." ++ String.ofList name := by
        simp [← String.toList_inj]
      rw [htext]
      exact hspells

lemma toList_owned (owner name : String) :
    (owner ++ "." ++ name).toList = owner.toList ++ '.' :: name.toList := by
  simp

lemma toList_spaced (space owner name : String) :
    (space ++ ":" ++ owner ++ "." ++ name).toList =
      space.toList ++ ':' :: (owner.toList ++ '.' :: name.toList) := by
  simp

lemma parseText_of_spells {r : Reference} {token : String} (h : Spells r token) :
    parseText token.toList = .ok r := by
  have hcount {text : List Char} (htext : IsIdentifier text) :
      text.count ':' = 0 ∧ text.count '.' = 0 :=
    ⟨List.count_eq_zero.mpr (htext.notMem isIdentRest_colon),
      List.count_eq_zero.mpr (htext.notMem isIdentRest_dot)⟩
  cases h with
  | @name name hname =>
    have hcolon := splitAtFirst_of_notMem (hname.notMem isIdentRest_colon)
    have hdot := splitAtFirst_of_notMem (hname.notMem isIdentRest_dot)
    refine (parseText_eq_ok hcolon hdot).mpr ⟨?_, checkPieces_eq_ok.mpr ?_, by simp⟩
    · exact checkSeparators_eq_ok (hname.notMem isIdentRest_open) (hname.notMem isIdentRest_close)
        hname.ne_nil (by simp [hcount hname]) (by simp [hcount hname])
    · simpa using hname
  | @owned owner name howner hname =>
    rw [toList_owned]
    have hcolon : splitAtFirst ':' (owner.toList ++ '.' :: name.toList) =
        (none, owner.toList ++ '.' :: name.toList) :=
      splitAtFirst_of_notMem (by
        simp [howner.notMem isIdentRest_colon, hname.notMem isIdentRest_colon])
    have hdot := splitAtFirst_append (howner.notMem isIdentRest_dot) name.toList
    refine (parseText_eq_ok hcolon hdot).mpr ⟨?_, checkPieces_eq_ok.mpr ?_, by simp⟩
    · refine checkSeparators_eq_ok ?_ ?_ (by simp) ?_ ?_
      · simp [howner.notMem isIdentRest_open, hname.notMem isIdentRest_open]
      · simp [howner.notMem isIdentRest_close, hname.notMem isIdentRest_close]
      · simp [hcount howner, hcount hname]
      · simp [hcount howner, hcount hname]
    · simpa using ⟨howner, hname⟩
  | @spaced space owner name hspace howner hname =>
    rw [toList_spaced]
    have hcolon := splitAtFirst_append (hspace.notMem isIdentRest_colon)
      (owner.toList ++ '.' :: name.toList)
    have hdot := splitAtFirst_append (howner.notMem isIdentRest_dot) name.toList
    refine (parseText_eq_ok hcolon hdot).mpr ⟨?_, checkPieces_eq_ok.mpr ?_, by simp⟩
    · refine checkSeparators_eq_ok ?_ ?_ (by simp) ?_ ?_
      · simp [hspace.notMem isIdentRest_open, howner.notMem isIdentRest_open,
          hname.notMem isIdentRest_open]
      · simp [hspace.notMem isIdentRest_close, howner.notMem isIdentRest_close,
          hname.notMem isIdentRest_close]
      · simp [hcount hspace, hcount howner, hcount hname]
      · simp [hcount hspace, hcount howner, hcount hname]
    · simpa using ⟨hspace, howner, hname⟩

namespace Spells

variable {r : Reference} {token : String}

lemma eq_text (h : Spells r token) : token = r.text := by
  cases h <;> simp [Reference.text, String.append_assoc]

lemma toList_ne_nil (h : Spells r token) : token.toList ≠ [] := by
  cases h with
  | name hname => exact hname.ne_nil
  | owned | spaced => simp

lemma isIdentifier_name (h : Spells r token) : IsIdentifier r.name.toList := by
  cases h with
  | name hname | owned _ hname | spaced _ _ hname => exact hname

lemma open_notMem (h : Spells r token) : '(' ∉ token.toList := by
  cases h with
  | name hname => exact hname.notMem isIdentRest_open
  | owned howner hname =>
    simp [howner.notMem isIdentRest_open, hname.notMem isIdentRest_open]
  | spaced hspace howner hname =>
    simp [hspace.notMem isIdentRest_open, howner.notMem isIdentRest_open,
      hname.notMem isIdentRest_open]

lemma trimmed (h : Spells r token) : Trimmed token.toList := by
  cases h with
  | name hname => exact hname.trimmed
  | owned howner hname =>
    simpa using howner.trimmed.append hname.trimmed howner.ne_nil hname.ne_nil ['.']
  | @spaced space owner name hspace howner hname =>
    simpa using hspace.trimmed.append hname.trimmed hspace.ne_nil hname.ne_nil
      (':' :: (owner.toList ++ ['.']))

end Spells

lemma trimmed_parentheses (inner : List Char) : Trimmed ('(' :: (inner ++ [')'])) := by
  have hopen : Trimmed ['('] := ⟨by simp; decide, by simp; decide⟩
  have hclose : Trimmed [')'] := ⟨by simp; decide, by simp; decide⟩
  exact hopen.append hclose (by simp) (by simp) inner

lemma unwrap_parentheses (inner : List Char) :
    unwrap ('(' :: (inner ++ [')'])) = .ok (trim inner) := by
  simp [unwrap]

lemma unwrap_of_notMem {text : List Char} (h : '(' ∉ text) : unwrap text = .ok text := by
  unfold unwrap
  split
  · simp at h
  · rfl

lemma eq_of_unwrap {text inner : List Char} (h : unwrap text = .ok inner) :
    text = inner ∨ ∃ body, text = '(' :: (body ++ [')']) ∧ inner = trim body := by
  unfold unwrap at h
  split at h
  next body =>
    split at h
    next hlast =>
      refine .inr ⟨body.dropLast, ?_, (Except.ok.inj h).symm⟩
      rw [← List.dropLast_append_getLast? ')' hlast]
      simp
    · cases h
  · exact .inl (Except.ok.inj h)

namespace Setting

variable {s : Setting} {r : Reference} {token : String}

lemma toList_around (s : Setting) (token : String) :
    (s.around token).toList = s.before.toList ++ (s.enclose token).toList ++ s.after.toList := by
  simp [around]

lemma toList_enclose_none (h : s.inner = none) : (s.enclose token).toList = token.toList := by
  simp [enclose, h]

lemma toList_enclose_some {left right : String} (h : s.inner = some (left, right)) :
    (s.enclose token).toList =
      '(' :: (left.toList ++ token.toList ++ right.toList ++ [')']) := by
  simp [enclose, h]

lemma trimmed_enclose (h : Spells r token) : Trimmed (s.enclose token).toList := by
  rcases hinner : s.inner with _ | ⟨left, right⟩
  · rw [toList_enclose_none hinner]
    exact h.trimmed
  · rw [toList_enclose_some hinner]
    exact trimmed_parentheses _

lemma toList_enclose_ne_nil (h : Spells r token) : (s.enclose token).toList ≠ [] := by
  rcases hinner : s.inner with _ | ⟨left, right⟩
  · rw [toList_enclose_none hinner]
    exact h.toList_ne_nil
  · simp [toList_enclose_some hinner]

lemma unwrap_enclose (hs : s.IsBlank) (h : Spells r token) :
    unwrap (s.enclose token).toList = .ok token.toList := by
  rcases hinner : s.inner with _ | ⟨left, right⟩
  · rw [toList_enclose_none hinner]
    exact unwrap_of_notMem h.open_notMem
  · obtain ⟨hleft, hright⟩ := hs.inner left right hinner
    rw [toList_enclose_some hinner, unwrap_parentheses, trim_of_trimmed hleft hright h.trimmed]

lemma parseChars_around (hs : s.IsBlank) (h : Spells r token) :
    parseChars (s.around token).toList = .ok r := by
  rw [parseChars_eq, toList_around, trim_of_trimmed hs.before hs.after (trimmed_enclose h),
    unwrap_enclose hs h]
  exact parseText_of_spells h

lemma exists_of_parseChars {raw : String} (h : parseChars raw.toList = .ok r) :
    ∃ (s : Setting) (token : String), s.IsBlank ∧ Spells r token ∧ raw = s.around token := by
  rw [parseChars_eq] at h
  obtain ⟨before, after, hbefore, hafter, hraw⟩ := exists_eq_trim raw.toList
  cases hunwrap : unwrap (trim raw.toList) with
  | error e =>
    rw [hunwrap] at h
    cases h
  | ok text =>
    rw [hunwrap] at h
    have hspells := spells_of_parseText h
    rcases eq_of_unwrap hunwrap with htrim | ⟨body, htrim, hbody⟩
    · refine ⟨⟨.ofList before, none, .ofList after⟩, .ofList text,
        ⟨by simpa using hbefore, by simpa using hafter, by simp⟩, hspells, ?_⟩
      rw [← String.toList_inj, toList_around, hraw, htrim]
      simp [enclose]
    · obtain ⟨left, right, hleft, hright, hsplit⟩ := exists_eq_trim body
      refine ⟨⟨.ofList before, some (.ofList left, .ofList right), .ofList after⟩, .ofList text,
        ⟨by simpa using hbefore, by simpa using hafter, ?_⟩, hspells, ?_⟩
      · rintro _ _ ⟨⟩
        exact ⟨by simpa using hleft, by simpa using hright⟩
      · rw [← String.toList_inj, toList_around, hraw, htrim, hsplit, ← hbody]
        simp [enclose]

/-- The pieces of a text and what stands around them are determined by it. -/
lemma eq_of_around_eq {s' : Setting} {r' : Reference} {token' : String} (hs : s.IsBlank)
    (h : Spells r token) (hs' : s'.IsBlank) (h' : Spells r' token')
    (heq : s.around token = s'.around token') : s = s' ∧ token = token' ∧ r = r' := by
  have hr : r = r' := by
    have hread := parseChars_around hs h
    rw [heq, parseChars_around hs' h'] at hread
    exact (Except.ok.inj hread).symm
  subst hr
  obtain rfl : token = token' := h.eq_text.trans h'.eq_text.symm
  rw [← String.toList_inj, toList_around, toList_around] at heq
  obtain ⟨hbefore, hmiddle, hafter⟩ := eq_of_append_eq hs.before hs.after (trimmed_enclose h)
    (toList_enclose_ne_nil h) hs'.before hs'.after (trimmed_enclose h) heq
  rw [String.toList_inj] at hbefore hafter
  suffices hinner : s.inner = s'.inner by
    obtain ⟨before, inner, after⟩ := s
    obtain ⟨before', inner', after'⟩ := s'
    simp_all
  rcases hinner : s.inner with _ | ⟨left, right⟩ <;>
    rcases hinner' : s'.inner with _ | ⟨left', right'⟩
  · rfl
  · rw [toList_enclose_none hinner, toList_enclose_some hinner'] at hmiddle
    exact absurd (hmiddle ▸ List.mem_cons_self) h.open_notMem
  · rw [toList_enclose_some hinner, toList_enclose_none hinner'] at hmiddle
    exact absurd (hmiddle ▸ List.mem_cons_self) h.open_notMem
  · rw [toList_enclose_some hinner, toList_enclose_some hinner', List.cons.injEq,
      List.append_cancel_right_eq] at hmiddle
    obtain ⟨hleft, hright⟩ := hs.inner left right hinner
    obtain ⟨hleft', hright'⟩ := hs'.inner left' right' hinner'
    obtain ⟨hl, -, hr⟩ := eq_of_append_eq hleft hright h.trimmed h.toList_ne_nil hleft' hright'
      h.trimmed hmiddle.2
    rw [String.toList_inj] at hl hr
    rw [hl, hr]

end Setting

lemma parseChars_parentheses {raw : List Char} (h : '(' ∉ raw) :
    parseChars ('(' :: (raw ++ [')'])) = parseChars raw := by
  obtain ⟨before, after, -, -, hraw⟩ := exists_eq_trim raw
  have htrim : '(' ∉ trim raw := by
    rw [hraw] at h
    simp only [List.mem_append, not_or] at h
    exact h.1.2
  have hsame : trim ('(' :: (raw ++ [')'])) = '(' :: (raw ++ [')']) := by
    have hnone : Blank [] := by simp [Blank]
    simpa using trim_of_trimmed hnone hnone (trimmed_parentheses raw)
  rw [parseChars_eq, parseChars_eq, hsame, unwrap_parentheses, unwrap_of_notMem htrim]

lemma parse_eq_ok {raw : String} {span : Span} {r : Reference} :
    parse raw span = .ok r ↔ parseChars raw.toList = .ok r := by
  unfold parse
  cases parseChars raw.toList <;> simp

/-- **Reading accepts exactly the grammar.** A text is read as a reference just where it spells it
among blanks, with or without parentheses, and it does so in one way only. So a reference that was
read is read again from its own text, in any such setting. Parentheses around a text that has none
change neither the reference nor the complaint. -/
theorem parse_eq_ok_iff_spelled (raw : String) (span : Span) :
    (∀ r, parse raw span = .ok r ↔
      ∃ (s : Setting) (token : String), s.IsBlank ∧ Spells r token ∧ raw = s.around token) ∧
    (∀ (s s' : Setting) (token token' : String) (r r' : Reference),
      s.IsBlank → Spells r token → raw = s.around token →
      s'.IsBlank → Spells r' token' → raw = s'.around token' →
        s = s' ∧ token = token' ∧ r = r') ∧
    (∀ r, parse raw span = .ok r → ∀ (s : Setting) (place : Span), s.IsBlank →
      parse (s.around r.text) place = .ok r) ∧
    ('(' ∉ raw.toList →
      match parse raw span with
      | .ok r => parse ("(" ++ raw ++ ")") span = .ok r
      | .error e => ∃ reason, e = .invalidToken raw reason span ∧
          parse ("(" ++ raw ++ ")") span =
            .error (.invalidToken ("(" ++ raw ++ ")") reason span)) := by
  refine ⟨fun r => ?_, ?_, fun r hread s place hs => ?_, fun hopen => ?_⟩
  · rw [parse_eq_ok]
    constructor
    · exact Setting.exists_of_parseChars
    · rintro ⟨s, token, hs, hspells, rfl⟩
      exact Setting.parseChars_around hs hspells
  · rintro s s' token token' r r' hs h hraw hs' h' hraw'
    exact Setting.eq_of_around_eq hs h hs' h' (hraw.symm.trans hraw')
  · obtain ⟨-, token, -, hspells, -⟩ := Setting.exists_of_parseChars (parse_eq_ok.mp hread)
    rw [parse_eq_ok, ← hspells.eq_text]
    exact Setting.parseChars_around hs hspells
  · have hsame : parseChars ("(" ++ raw ++ ")").toList = parseChars raw.toList := by
      simpa using parseChars_parentheses hopen
    unfold parse
    rw [hsame]
    cases parseChars raw.toList with
    | ok r => rfl
    | error fault => exact ⟨fault.message, rfl, rfl⟩

theorem parse_eq_ok_iff_spelled_row :
    let r : Reference := ⟨some "ui", some "Grid", "Row"⟩
    '(' ∉ (" ui:Grid.Row").toList ∧ parse " ui:Grid.Row" .unknown = .ok r ∧
      parse "( ui:Grid.Row)" .unknown = .ok r ∧ parse "\t(ui:Grid.Row )" .unknown = .ok r := by
  intro r
  obtain ⟨-, -, hagain, henclosed⟩ := parse_eq_ok_iff_spelled " ui:Grid.Row" .unknown
  have hopen : '(' ∉ (" ui:Grid.Row").toList := by decide
  have hread : parse " ui:Grid.Row" .unknown = .ok r := by decide +kernel
  have hblank : (⟨"\t", some ("", " "), ""⟩ : Setting).IsBlank := by
    refine ⟨by decide, by decide, ?_⟩
    rintro _ _ ⟨⟩
    exact ⟨by decide, by decide⟩
  have hwrapped := henclosed hopen
  rw [hread] at hwrapped
  exact ⟨hopen, hread, hwrapped, hagain r hread _ .unknown hblank⟩

end PropertyLowering.Reference
