import Mathlib.Data.List.DropRight
import Mathlib.Tactic.Lemma
import PropertyLowering.Text.Identifier

/-!
Blanks around a text, and identifiers.

Trimming finds the one way to take a text apart into blanks, something that no blank begins or ends,
and blanks. Identifiers have no blanks and no punctuation.
-/

namespace PropertyLowering.Text

/-- A text of blanks, possibly empty. -/
def Blank (text : List Char) : Prop := ∀ c ∈ text, isBlank c = true

instance (text : List Char) : Decidable (Blank text) :=
  List.decidableBAll (isBlank · = true) text

/-- A text that no blank begins or ends. -/
structure Trimmed (text : List Char) : Prop where
  head : ∀ c, text.head? = some c → isBlank c = false
  last : ∀ c, text.getLast? = some c → isBlank c = false

lemma trim_eq (text : List Char) : trim text = (text.dropWhile isBlank).rdropWhile isBlank := rfl

lemma dropWhile_of_head {text : List Char} (h : ∀ c, text.head? = some c → isBlank c = false) :
    text.dropWhile isBlank = text := by
  cases text with
  | nil => rfl
  | cons c rest => simp [h c rfl]

lemma Trimmed.reverse {text : List Char} (h : Trimmed text) : Trimmed text.reverse where
  head c hc := h.last c (by rwa [List.head?_reverse] at hc)
  last c hc := h.head c (by rwa [List.getLast?_reverse] at hc)

lemma Trimmed.append {first last : List Char} (hfirst : Trimmed first) (hlast : Trimmed last)
    (hfirst_ne : first ≠ []) (hlast_ne : last ≠ []) (between : List Char) :
    Trimmed (first ++ between ++ last) where
  head c hc := by
    rw [List.append_assoc, List.head?_append_of_ne_nil _ hfirst_ne] at hc
    exact hfirst.head c hc
  last c hc := by
    rw [List.getLast?_append_of_ne_nil _ hlast_ne] at hc
    exact hlast.last c hc

lemma exists_eq_trim (text : List Char) :
    ∃ before after, Blank before ∧ Blank after ∧ text = before ++ trim text ++ after := by
  refine ⟨text.takeWhile isBlank, (text.dropWhile isBlank).rtakeWhile isBlank,
    fun c hc => ?_, fun c hc => ?_, ?_⟩
  · exact List.mem_takeWhile_imp hc
  · exact List.mem_rtakeWhile_imp hc
  · rw [trim_eq, List.append_assoc, List.rdropWhile_append_rtakeWhile,
      List.takeWhile_append_dropWhile]

lemma trim_of_trimmed {before text after : List Char} (hbefore : Blank before)
    (hafter : Blank after) (h : Trimmed text) : trim (before ++ text ++ after) = text := by
  rw [trim_eq, List.append_assoc, List.dropWhile_append_of_pos hbefore]
  cases text with
  | nil =>
    have hnil : after.dropWhile isBlank = [] := List.dropWhile_eq_nil_iff.mpr hafter
    rw [List.nil_append, hnil, List.rdropWhile_nil]
  | cons c rest =>
    rw [List.cons_append, List.dropWhile_cons_of_neg (by simp [h.head c rfl]), ← List.cons_append,
      List.rdropWhile, List.reverse_append,
      List.dropWhile_append_of_pos fun d hd => hafter d (List.mem_reverse.mp hd),
      dropWhile_of_head h.reverse.head, List.reverse_reverse]

lemma eq_of_append_eq {before before' text text' after after' : List Char}
    (hbefore : Blank before) (hafter : Blank after) (h : Trimmed text) (hne : text ≠ [])
    (hbefore' : Blank before') (hafter' : Blank after') (h' : Trimmed text')
    (heq : before ++ text ++ after = before' ++ text' ++ after') :
    before = before' ∧ text = text' ∧ after = after' := by
  have htext : text = text' := by
    rw [← trim_of_trimmed hbefore hafter h, heq, trim_of_trimmed hbefore' hafter' h']
  subst htext
  obtain ⟨c, rest, rfl⟩ := List.exists_cons_of_ne_nil hne
  have hfront {front : List Char} (hfront : Blank front) (back : List Char) :
      (front ++ (c :: rest) ++ back).takeWhile isBlank = front := by
    rw [List.append_assoc, List.takeWhile_append_of_pos hfront, List.cons_append,
      List.takeWhile_cons_of_neg (by simp [h.head c rfl]), List.append_nil]
  have hsame : before = before' := by
    rw [← hfront hbefore after, heq, hfront hbefore']
  subst hsame
  exact ⟨rfl, rfl, List.append_cancel_left heq⟩

/-- An identifier: a letter or `_`, then letters, digits and `_`. -/
def IsIdentifier : List Char → Prop
  | [] => False
  | first :: rest =>
    (first = '_' ∨ isAlphabetic first = true) ∧
      ∀ c ∈ rest, c = '_' ∨ isAlphabetic c = true ∨ isNumeric c = true

lemma isIdentStart_iff {c : Char} : isIdentStart c = true ↔ c = '_' ∨ isAlphabetic c = true := by
  simp [isIdentStart]

lemma isIdentRest_iff {c : Char} :
    isIdentRest c = true ↔ c = '_' ∨ isAlphabetic c = true ∨ isNumeric c = true := by
  simp [isIdentRest, or_assoc]

namespace IsIdentifier

variable {text : List Char} {c : Char}

lemma ne_nil (h : IsIdentifier text) : text ≠ [] := by
  rintro rfl
  exact h

lemma isIdentRest_of_mem (h : IsIdentifier text) (hc : c ∈ text) : isIdentRest c = true := by
  cases text with
  | nil => cases hc
  | cons first rest =>
    rcases List.mem_cons.mp hc with rfl | hrest
    · exact isIdentRest_of_isIdentStart (isIdentStart_iff.mpr h.1)
    · exact isIdentRest_iff.mpr (h.2 c hrest)

lemma notMem (h : IsIdentifier text) (hc : isIdentRest c = false) : c ∉ text := by
  intro hmem
  rw [h.isIdentRest_of_mem hmem] at hc
  cases hc

end IsIdentifier

/-- The ranges of two classes lie apart from each other. -/
def rangesApart (a b : List (Nat × Nat)) : Bool :=
  a.all fun x => b.all fun y => x.2.blt y.1 || y.2.blt x.1

lemma inRanges_of_rangesApart {a b : List (Nat × Nat)} (h : rangesApart a b = true) {c : Char}
    (ha : inRanges a c = true) : inRanges b c = false := by
  rw [← Bool.not_eq_true]
  intro hb
  simp only [inRanges, List.any_eq_true, Bool.and_eq_true, decide_eq_true_eq] at ha hb
  obtain ⟨x, hx, hlow, hhigh⟩ := ha
  obtain ⟨y, hy, hlow', hhigh'⟩ := hb
  simp only [rangesApart, List.all_eq_true, Bool.or_eq_true, Nat.blt_eq] at h
  have := h x hx y hy
  omega

lemma isBlank_of_isAlphabetic {c : Char} (h : isAlphabetic c = true) : isBlank c = false :=
  inRanges_of_rangesApart (by decide +kernel) h

lemma isBlank_of_isNumeric {c : Char} (h : isNumeric c = true) : isBlank c = false :=
  inRanges_of_rangesApart (by decide +kernel) h

lemma isBlank_of_isIdentRest {c : Char} (h : isIdentRest c = true) : isBlank c = false := by
  rcases isIdentRest_iff.mp h with rfl | halpha | hnum
  · decide
  · exact isBlank_of_isAlphabetic halpha
  · exact isBlank_of_isNumeric hnum

lemma IsIdentifier.trimmed {text : List Char} (h : IsIdentifier text) : Trimmed text where
  head _ hc := isBlank_of_isIdentRest (h.isIdentRest_of_mem (List.mem_of_head? hc))
  last _ hc := isBlank_of_isIdentRest (h.isIdentRest_of_mem (List.mem_of_getLast? hc))

end PropertyLowering.Text
