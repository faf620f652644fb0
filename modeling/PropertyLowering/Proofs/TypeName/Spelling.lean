import Mathlib.Data.List.Infix
import Mathlib.Tactic.Lemma
import PropertyLowering.TypeName

/-!
Qualified names and the texts they are spelled with.

A separator is taken as soon as one is seen, so of a longer run of colons the odd one goes to what
follows. Hence no piece but the last ends with a colon, and pieces of this kind are found again in
the text that joins them, also after empty ones were dropped. Main statement: writing a name that
was read gives a normal form of the text, and a name whose components are filled and free of colons
is read back from its text.
-/

namespace PropertyLowering.TypeName

section Pieces

variable {c : Char} {text rest piece : List Char} {parts more : List (List Char)}

/-- No separator stands in the text. -/
def Whole (text : List Char) : Prop := ¬ [':', ':'] <:+: text

/-- What may stand between separators: a piece that a separator follows does not end with a colon,
which would be taken for the first half of that separator. -/
inductive Separated : List (List Char) → Prop where
  | last {piece : List Char} (hpiece : Whole piece) : Separated [piece]
  | cons {piece : List Char} {more : List (List Char)} (hpiece : Whole (piece ++ [':']))
      (hmore : Separated more) : Separated (piece :: more)

lemma whole_cons : Whole (c :: text) ↔ ¬ [':', ':'] <+: c :: text ∧ Whole text := by
  rw [Whole, List.infix_cons_iff, not_or, Whole]

lemma Whole.of_append (h : Whole (piece ++ rest)) : Whole piece :=
  fun hsep => h (hsep.trans (List.prefix_append piece rest).isInfix)

lemma whole_of_notMem (h : ':' ∉ text) : Whole text :=
  fun hsep => h (hsep.subset List.mem_cons_self)

lemma whole_concat_of_notMem (h : ':' ∉ text) : Whole (text ++ [':']) := by
  rw [Whole, List.infix_concat_iff, not_or]
  refine ⟨fun hsep => h ?_, whole_of_notMem h⟩
  obtain hnil | ⟨before, hbefore, hsuffix⟩ := List.suffix_concat_iff.mp hsep
  · cases hnil
  · have hhalves : [':'] ++ [':'] = before ++ [':'] := hbefore
    rw [← List.append_cancel_right hhalves] at hsuffix
    exact hsuffix.subset List.mem_cons_self

lemma separator_prefix_iff :
    [':', ':'] <+: c :: (piece ++ [':', ':'] ++ rest) ↔ [':', ':'] <+: c :: (piece ++ [':']) := by
  cases piece <;> simp [List.cons_prefix_cons]

lemma Separated.ne_nil (h : Separated parts) : parts ≠ [] := by
  cases h <;> exact List.cons_ne_nil _ _

lemma pieces_ne_nil (text : List Char) : pieces text ≠ [] := by
  fun_cases pieces text <;> simp_all

lemma pieces_cons (h : ¬ [':', ':'] <+: c :: rest) :
    pieces (c :: rest) = (pieces rest).modifyHead (c :: ·) := by
  have hne := pieces_ne_nil rest
  rw [pieces]
  · cases hrest : pieces rest with
    | nil => exact absurd hrest hne
    | cons piece more => rfl
  · rintro tail rfl rfl
    exact h (List.prefix_append [':', ':'] tail)

lemma pieces_of_whole (h : Whole text) : pieces text = [text] := by
  induction text with
  | nil => rfl
  | cons c text ih =>
    obtain ⟨hhead, htext⟩ := whole_cons.mp h
    rw [pieces_cons hhead, ih htext, List.modifyHead_cons]

lemma pieces_append (h : Whole (piece ++ [':'])) (rest : List Char) :
    pieces (piece ++ [':', ':'] ++ rest) = piece :: pieces rest := by
  induction piece with
  | nil => rfl
  | cons c piece ih =>
    obtain ⟨hhead, hpiece⟩ := whole_cons.mp h
    rw [List.cons_append, List.cons_append, pieces_cons (separator_prefix_iff.not.mpr hhead),
      ih hpiece, List.modifyHead_cons]

lemma pieces_intercalate (h : Separated parts) : pieces ([':', ':'].intercalate parts) = parts := by
  induction h with
  | last hpiece => rw [List.intercalate_singleton, pieces_of_whole hpiece]
  | cons hpiece hmore ih =>
    rw [List.intercalate_cons_of_ne_nil hmore.ne_nil, pieces_append hpiece, ih]

lemma intercalate_pieces (text : List Char) : [':', ':'].intercalate (pieces text) = text := by
  fun_induction pieces text with
  | case1 => rfl
  | case2 rest ih =>
    rw [List.intercalate_cons_of_ne_nil (pieces_ne_nil rest), ih]
    rfl
  | case3 c rest hne hnil => exact absurd hnil (pieces_ne_nil rest)
  | case4 c rest hne piece more hcons ih =>
    rw [hcons] at ih
    cases more with
    | nil => rw [List.intercalate_singleton] at ih ⊢; rw [ih]
    | cons next more =>
      rw [List.intercalate_cons_cons] at ih ⊢
      rw [List.cons_append, List.cons_append, ih]

lemma separated_pieces (text : List Char) : Separated (pieces text) := by
  fun_induction pieces text with
  | case1 => exact .last (whole_of_notMem List.not_mem_nil)
  | case2 rest ih => exact .cons (whole_concat_of_notMem List.not_mem_nil) ih
  | case3 c rest hne hnil => exact absurd hnil (pieces_ne_nil rest)
  | case4 c rest hne piece more hcons ih =>
    have hhead : ¬ [':', ':'] <+: c :: rest := by
      rintro ⟨tail, htail⟩
      obtain ⟨rfl, rfl⟩ := List.cons.inj htail
      exact hne tail rfl rfl
    have hrest : [':', ':'].intercalate (piece :: more) = rest := by
      rw [← hcons, intercalate_pieces]
    rw [hcons] at ih
    cases ih with
    | last hpiece =>
      rw [List.intercalate_singleton] at hrest
      subst hrest
      exact .last (whole_cons.mpr ⟨hhead, hpiece⟩)
    | cons hpiece hmore =>
      rw [List.intercalate_cons_of_ne_nil hmore.ne_nil] at hrest
      subst hrest
      exact .cons (whole_cons.mpr ⟨separator_prefix_iff.not.mp hhead, hpiece⟩) hmore

/-- Pieces stay separated when some are dropped: what may stand before a separator may stand last. -/
lemma Separated.filter (h : Separated parts) (keep : List Char → Bool)
    (hne : parts.filter keep ≠ []) : Separated (parts.filter keep) := by
  induction h with
  | @last piece hpiece =>
    cases hkeep : keep piece with
    | true => simpa [hkeep] using Separated.last hpiece
    | false => simp [hkeep] at hne
  | @cons piece more hpiece hmore ih =>
    cases hkeep : keep piece with
    | false =>
      rw [List.filter_cons_of_neg (by simp [hkeep])] at hne ⊢
      exact ih hne
    | true =>
      rw [List.filter_cons_of_pos hkeep]
      by_cases hlast : more.filter keep = []
      · rw [hlast]
        exact .last hpiece.of_append
      · exact .cons hpiece (ih hlast)

lemma separated_of_notMem (hne : parts ≠ []) (h : ∀ piece ∈ parts, ':' ∉ piece) :
    Separated parts := by
  induction parts with
  | nil => exact absurd rfl hne
  | cons piece more ih =>
    have hpiece := h piece List.mem_cons_self
    by_cases hlast : more = []
    · subst hlast
      exact .last (whole_of_notMem hpiece)
    · exact .cons (whole_concat_of_notMem hpiece)
        (ih hlast fun p hp => h p (List.mem_cons_of_mem piece hp))

end Pieces

section Names

variable {m n : TypeName}

/-- The namespaces from the outermost on, and the simple name. -/
def components (n : TypeName) : List String := n.path ++ [n.simple]

/-- A name that its text tells: it is empty, or its components are filled and separated. -/
def Legible (n : TypeName) : Prop :=
  n = global "" ∨ Separated (n.components.map String.toList) ∧ ∀ part ∈ n.components, part ≠ ""

/-- Every component is filled and free of colons. -/
def Plain (n : TypeName) : Prop :=
  ∀ part ∈ n.components, part ≠ "" ∧ ':' ∉ part.toList

instance : DecidablePred Plain := fun n =>
  inferInstanceAs (Decidable (∀ part ∈ n.components, part ≠ "" ∧ ':' ∉ part.toList))

lemma components_ne_nil (n : TypeName) : n.components ≠ [] := by
  simp [components]

lemma ofPieces_components (n : TypeName) : ofPieces n.components = n := by
  simp [ofPieces, components]

lemma components_ofPieces {parts : List String} (h : parts ≠ []) :
    (ofPieces parts).components = parts := by
  obtain ⟨path, simple, rfl⟩ := (List.eq_nil_or_concat' parts).resolve_left h
  simp [ofPieces, components]

lemma toList_text (n : TypeName) :
    n.text.toList = [':', ':'].intercalate (n.components.map String.toList) := by
  rw [text, String.toList_intercalate]
  rfl

lemma ofText_text_of_separated (h : Separated (n.components.map String.toList))
    (hfilled : ∀ part ∈ n.components, part ≠ "") : ofText n.text = n := by
  have hall : ∀ piece ∈ n.components.map String.toList, (!piece.isEmpty) = true := by
    simpa using hfilled
  rw [ofText, toList_text, pieces_intercalate h, List.filter_eq_self.mpr hall, List.map_map]
  simp [Function.comp_def, ofPieces_components]

lemma legible_ofText (text : String) : (ofText text).Legible := by
  by_cases hne : (pieces text.toList).filter (!·.isEmpty) = []
  · left
    rw [ofText, hne]
    rfl
  · right
    have hfilled := (List.map_eq_nil_iff (f := String.ofList)).not.mpr hne
    rw [ofText, components_ofPieces hfilled, List.map_map]
    constructor
    · simpa only [Function.comp_def, String.toList_ofList, List.map_id'] using
        (separated_pieces text.toList).filter _ hne
    · intro part hpart
      obtain ⟨piece, hpiece, rfl⟩ := List.mem_map.mp hpart
      simpa using (List.mem_filter.mp hpiece).2

lemma ofText_text_iff : ofText n.text = n ↔ n.Legible := by
  constructor
  · intro h
    rw [← h]
    exact legible_ofText n.text
  · rintro (rfl | ⟨h, hfilled⟩)
    · rw [text_global]
      rfl
    · exact ofText_text_of_separated h hfilled

/-- A colon at the end of a component is taken for the first half of a separator. -/
example : ofText (⟨"b", ["a:"]⟩ : TypeName).text = ⟨":b", ["a"]⟩ := by decide +kernel

lemma Plain.legible (h : n.Plain) : n.Legible := by
  refine .inr ⟨separated_of_notMem (by simpa using n.components_ne_nil) ?_,
    fun part hpart => (h part hpart).1⟩
  rintro piece hpiece
  obtain ⟨part, hpart, rfl⟩ := List.mem_map.mp hpiece
  exact (h part hpart).2

/-- **Texts of names have a normal form.** Reading a text, however its colons are spread, gives a
name whose own text is read as that name again. Where the components of names are filled and free of
colons, each is read back from its text, so that different names have different texts, and share an
identity only if the digest takes these two texts to one word. -/
theorem text_normal_and_injective :
    (∀ text, ofText (ofText text).text = ofText text) ∧
    (∀ n : TypeName, n.Plain → ofText n.text = n) ∧
    ∀ m n : TypeName, m.Plain → n.Plain →
      (m.text = n.text ↔ m = n) ∧
      (m.ident = n.ident ↔
        m = n ∨ m.text ≠ n.text ∧ Digest.ofText m.text = Digest.ofText n.text) := by
  have hback (n : TypeName) (h : n.Plain) : ofText n.text = n := ofText_text_iff.mpr h.legible
  refine ⟨fun text => ofText_text_iff.mpr (legible_ofText text), hback, fun m n hm hn => ?_⟩
  have htext : m.text = n.text ↔ m = n := by
    refine ⟨fun h => ?_, congrArg text⟩
    rw [← hback m hm, h, hback n hn]
  refine ⟨htext, ?_⟩
  rw [ident_eq_iff, Ne, htext]
  by_cases hsame : m = n
  · simp [hsame]
  · simp [hsame]

theorem text_normal_and_injective_track :
    let track : TypeName := ⟨"Track", ["Controls", "Primitives"]⟩
    let thumb : TypeName := ⟨"Thumb", ["Controls", "Primitives"]⟩
    ofText ":::a::::b:::" = ⟨":", [":a", "b"]⟩ ∧
      ofText (ofText ":::a::::b:::").text = ofText ":::a::::b:::" ∧
      track.Plain ∧ thumb.Plain ∧ track.text = "Controls::Primitives::Track" ∧
      ofText track.text = track ∧ track.text ≠ thumb.text ∧ track.ident ≠ thumb.ident := by
  intro track thumb
  obtain ⟨hnormal, hback, hinj⟩ := text_normal_and_injective
  have htrack : track.Plain := by decide +kernel
  have hthumb : thumb.Plain := by decide +kernel
  have hne : track ≠ thumb := by decide
  have hdigest : Digest.ofText track.text ≠ Digest.ofText thumb.text := by decide +kernel
  obtain ⟨htext, hident⟩ := hinj track thumb htrack hthumb
  refine ⟨by decide +kernel, hnormal _, htrack, hthumb, by decide +kernel, hback track htrack,
    htext.not.mpr hne, ?_⟩
  rw [Ne, hident]
  rintro (hsame | ⟨-, hsame⟩)
  · exact hne hsame
  · exact hdigest hsame

end Names

end PropertyLowering.TypeName
