/-
What trimming leaves behind.

A text is trimmed if neither its first nor its last character is blank. Trimming gives a
trimmed text, changes no text that is trimmed already, and finds a trimmed text again
between blanks. Everything that a reader of payloads or replies does with blanks goes
through these three facts.
-/
import Draftsman.Text.Blank
import Mathlib.Data.List.DropRight

set_option autoImplicit false

namespace Draftsman.Text

/-! ## Trimmed texts -/

/-- A text that neither begins nor ends with a blank. The empty text is one. -/
structure Trimmed (cs : List Char) : Prop where
  first : ∀ c ∈ cs.head?, isBlank c = false
  last : ∀ c ∈ cs.getLast?, isBlank c = false

/-- Texts that join to a trimmed one: what counts is where the first begins and where the
second ends. -/
theorem Trimmed.append {a b : List Char} (ha : Trimmed a) (hb : Trimmed b) (hna : a ≠ [])
    (hnb : b ≠ []) (m : List Char) : Trimmed (a ++ (m ++ b)) := by
  refine ⟨?_, ?_⟩
  · intro c hc
    rw [List.head?_append_of_ne_nil _ hna] at hc
    exact ha.first c hc
  · intro c hc
    rw [List.getLast?_append_of_ne_nil _ (by simp [hnb]),
      List.getLast?_append_of_ne_nil _ hnb] at hc
    exact hb.last c hc

/-- A text without any blank is trimmed. -/
theorem trimmed_of_forall {cs : List Char} (h : ∀ c ∈ cs, isBlank c = false) : Trimmed cs :=
  ⟨fun c hc => h c (List.mem_of_head? hc), fun c hc => h c (List.mem_of_getLast? hc)⟩

theorem trimmed_singleton {c : Char} (h : isBlank c = false) : Trimmed [c] :=
  trimmed_of_forall fun _ hd => List.mem_singleton.mp hd ▸ h

/-- Blanks at the end of a trimmed text are none at all. -/
theorem Trimmed.eq_nil_of_append {a w : List Char} (h : Trimmed (a ++ w))
    (hw : ∀ c ∈ w, isBlank c = true) : w = [] := by
  by_contra hne
  have hlast := h.last (w.getLast hne) (by simp [List.getLast?_eq_some_getLast hne])
  rw [hw _ (List.getLast_mem hne)] at hlast
  exact absurd hlast (by decide)

/-! ## Trimming at one end -/

theorem trimStart_eq_self {cs : List Char} (h : ∀ c ∈ cs.head?, isBlank c = false) :
    trimStart cs = cs := by
  cases cs with
  | nil => rfl
  | cons c cs =>
    rw [trimStart, List.dropWhile_cons_of_neg (by rw [h c rfl]; exact Bool.false_ne_true)]

theorem ne_nil_of_trimStart_ne_nil {cs : List Char} (h : trimStart cs ≠ []) : cs ≠ [] := by
  rintro rfl
  exact h rfl

theorem trimEnd_eq_self {cs : List Char} (h : ∀ c ∈ cs.getLast?, isBlank c = false) :
    trimEnd cs = cs := by
  refine List.rdropWhile_eq_self_iff.mpr fun hne => ?_
  rw [h _ (List.getLast?_eq_some_getLast hne ▸ rfl)]
  exact Bool.false_ne_true

theorem head?_trimStart (cs : List Char) : ∀ c ∈ (trimStart cs).head?, isBlank c = false := by
  intro c hc
  have h := List.head?_dropWhile_not isBlank cs
  rw [show (cs.dropWhile isBlank).head? = some c from hc] at h
  simpa using h

theorem getLast?_trimEnd (cs : List Char) : ∀ c ∈ (trimEnd cs).getLast?, isBlank c = false := by
  intro c hc
  obtain ⟨hne, rfl⟩ := List.mem_getLast?_eq_getLast hc
  exact Bool.eq_false_iff.mpr (List.rdropWhile_last_not isBlank cs hne)

/-! ## Trimming at both ends -/

/-- What trimming leaves is trimmed. -/
theorem trimmed_trimChars (cs : List Char) : Trimmed (trimChars cs) := by
  refine ⟨?_, getLast?_trimEnd _⟩
  intro c hc
  -- the second step only shortens the text at its end, so the first character stays
  have hcut : trimChars cs <+: trimStart cs := List.rdropWhile_prefix isBlank _
  obtain ⟨dropped, hdropped⟩ := hcut
  refine head?_trimStart cs c ?_
  rw [← hdropped, List.head?_append_of_ne_nil _ (List.ne_nil_of_mem (List.mem_of_head? hc))]
  exact hc

theorem Trimmed.trimChars_eq {cs : List Char} (h : Trimmed cs) : trimChars cs = cs := by
  rw [trimChars, trimStart_eq_self h.first, trimEnd_eq_self h.last]

theorem trimChars_eq_self_iff {cs : List Char} : trimChars cs = cs ↔ Trimmed cs :=
  ⟨fun h => h ▸ trimmed_trimChars cs, Trimmed.trimChars_eq⟩

/-- **Trimming undoes the blanks around a trimmed text.** -/
theorem trimChars_append {w cs w' : List Char} (hw : ∀ c ∈ w, isBlank c) (hcs : Trimmed cs)
    (hw' : ∀ c ∈ w', isBlank c) : trimChars (w ++ (cs ++ w')) = cs := by
  have hstart : trimStart (w ++ (cs ++ w')) = trimStart (cs ++ w') :=
    List.dropWhile_append_of_pos hw
  rw [trimChars, hstart]
  rcases List.eq_nil_or_concat cs with rfl | ⟨ds, c, rfl⟩
  · rw [List.nil_append, trimStart, List.dropWhile_eq_nil_iff.mpr hw']
    rfl
  · have hfirst : trimStart (ds.concat c ++ w') = ds.concat c ++ w' := by
      refine trimStart_eq_self fun d hd => hcs.first d ?_
      rwa [List.head?_append_of_ne_nil _ (by simp)] at hd
    have hblank : w'.reverse.dropWhile isBlank = [] :=
      List.dropWhile_eq_nil_iff.mpr fun d hd => hw' d (List.mem_reverse.mp hd)
    rw [hfirst, trimEnd, dropEndWhile, List.reverse_append, List.dropWhile_append, hblank]
    exact trimEnd_eq_self hcs.last

/-- What trimming takes away is blank. -/
theorem exists_eq_append_trimChars (cs : List Char) :
    ∃ w w', (∀ c ∈ w, isBlank c = true) ∧ (∀ c ∈ w', isBlank c = true) ∧
      cs = w ++ (trimChars cs ++ w') := by
  refine ⟨cs.takeWhile isBlank, (trimStart cs).rtakeWhile isBlank, ?_, ?_, ?_⟩
  · exact fun c hc => List.mem_takeWhile_imp hc
  · exact fun c hc => List.mem_rtakeWhile_imp hc
  · rw [trimChars, trimEnd, dropEndWhile]
    rw [show ((trimStart cs).reverse.dropWhile isBlank).reverse =
      (trimStart cs).rdropWhile isBlank from rfl, List.rdropWhile_append_rtakeWhile]
    exact List.takeWhile_append_dropWhile.symm

/-! ## One more blank at the end -/

section Concat

variable {c : Char} (hc : isBlank c = true)
include hc

theorem trimChars_concat (cs : List Char) : trimChars (cs ++ [c]) = trimChars cs := by
  obtain ⟨w, w', hw, hw', hcs⟩ := exists_eq_append_trimChars cs
  conv => lhs; rw [hcs, List.append_assoc, List.append_assoc]
  refine trimChars_append hw (trimmed_trimChars cs) fun d hd => ?_
  rcases List.mem_append.mp hd with hd | hd
  · exact hw' d hd
  · exact List.mem_singleton.mp hd ▸ hc

theorem trimStart_concat_of_eq_nil {cs : List Char} (h : trimStart cs = []) :
    trimStart (cs ++ [c]) = [] := by
  refine List.dropWhile_eq_nil_iff.mpr fun d hd => ?_
  rcases List.mem_append.mp hd with hd | hd
  · exact List.dropWhile_eq_nil_iff.mp h d hd
  · exact List.mem_singleton.mp hd ▸ hc

omit hc in
theorem trimStart_concat_of_ne_nil {cs : List Char} (h : trimStart cs ≠ []) :
    trimStart (cs ++ [c]) = trimStart cs ++ [c] := by
  rw [trimStart, List.dropWhile_append, if_neg (by simpa [trimStart] using h)]
  rfl

end Concat

/-! ## Strings -/

theorem trim_eq_self_iff {s : String} : trim s = s ↔ Trimmed s.toList := by
  rw [← trimChars_eq_self_iff, trim]
  constructor
  · intro h
    simpa using congrArg String.toList h
  · intro h
    rw [h, String.ofList_toList]

@[simp] theorem trim_trim (s : String) : trim (trim s) = trim s := by
  rw [trim_eq_self_iff, trim, String.toList_ofList]
  exact trimmed_trimChars s.toList

end Draftsman.Text
