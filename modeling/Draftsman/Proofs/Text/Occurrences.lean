/-
Where a pattern occurs in a text that is put together.

A pattern stays within one piece of a text if a character that it does not have stands
between the pieces, and it begins in no piece that lacks its first character. So it occurs
in a text of several pieces exactly if it occurs in one of them. Replacing it leaves none
of it, and makes none, if its first character comes but once in the pattern and once in the
replacement: what is copied between two replacements is a stretch of the text as it was
(`not_infix_replaceAll`). Which occurrences are replaced is said by `Replaced`, which goes from one
first occurrence to the next (`replaceAll_eq_iff`).
-/
import Draftsman.Proofs.Text.Searching

set_option autoImplicit false

namespace Draftsman.Text

/-! ## Pieces -/

section Pieces

variable {pattern a b : List Char} {c : Char}

theorem infix_append_cons_iff (hne : pattern ≠ []) (hc : c ∉ pattern) :
    pattern <:+: a ++ c :: b ↔ pattern <:+: a ∨ pattern <:+: b := by
  constructor
  · rintro ⟨u, r, hcs⟩
    rw [List.append_assoc] at hcs
    rcases (occursAt_id_iff.mpr hcs.symm).of_append_cons hne hc with ⟨r', hr', -⟩ | ⟨u', -, hu'⟩
    · exact .inl ⟨u, r', by rw [List.append_assoc, ← occursAt_id_iff.mp hr']⟩
    · exact .inr ⟨u', r, by rw [List.append_assoc, ← occursAt_id_iff.mp hu']⟩
  · rintro (h | h)
    · exact h.trans (List.prefix_append a (c :: b)).isInfix
    · exact (List.infix_cons h).trans (List.suffix_append a (c :: b)).isInfix

theorem infix_cons_iff_of_not_mem (hne : pattern ≠ []) (hc : c ∉ pattern) :
    pattern <:+: c :: b ↔ pattern <:+: b := by
  have hsplit := infix_append_cons_iff (a := []) (b := b) hne hc
  rw [List.nil_append, List.infix_nil] at hsplit
  rw [hsplit, or_iff_right hne]

/-- A pattern does not begin in a piece that lacks its first character. -/
theorem cons_infix_append_iff (hc : c ∉ a) : c :: pattern <:+: a ++ b ↔ c :: pattern <:+: b := by
  induction a with
  | nil => rfl
  | cons d a ih =>
    rw [List.mem_cons, not_or] at hc
    rw [List.cons_append, List.infix_cons_iff, List.cons_prefix_cons, ih hc.2]
    exact or_iff_right fun h => hc.1 h.1

/-- A text of pieces with one character between them, which the pattern does not have. -/
theorem infix_intercalate_iff (hne : pattern ≠ []) (hc : c ∉ pattern) {pieces : List (List Char)} :
    pattern <:+: [c].intercalate pieces ↔ ∃ piece ∈ pieces, pattern <:+: piece := by
  induction pieces with
  | nil => simpa using hne
  | cons piece pieces ih =>
    cases pieces with
    | nil => simp
    | cons next pieces =>
      rw [List.intercalate_cons_cons, List.append_assoc, List.singleton_append,
        infix_append_cons_iff hne hc, ih]
      exact (List.exists_mem_cons_iff ..).symm

end Pieces

/-! ## At the end -/

/-- The pattern ends the text, and occurs nowhere else in it. -/
def OnlyAtEnd (pattern cs : List Char) : Prop :=
  pattern <:+ cs ∧ ∀ u r, cs = u ++ (pattern ++ r) → r = []

theorem onlyAtEnd_append_cons_iff {pattern body : List Char} {c : Char} (hne : pattern ≠ [])
    (hc : c ∉ pattern) : OnlyAtEnd pattern (body ++ c :: pattern) ↔ ¬ pattern <:+: body := by
  constructor
  · rintro ⟨-, hlast⟩ ⟨u, r, rfl⟩
    have hnil := hlast u (r ++ c :: pattern) (by simp only [List.append_assoc])
    exact absurd hnil (by simp)
  · intro hbody
    refine ⟨⟨body ++ [c], by simp⟩, fun u r h => ?_⟩
    rcases (occursAt_id_iff.mpr h).of_append_cons hne hc with ⟨r', hr', -⟩ | ⟨u', -, hu'⟩
    · exact absurd ⟨u, r', by rw [List.append_assoc, ← occursAt_id_iff.mp hr']⟩ hbody
    · -- the occurrence is the pattern at the end itself, and nothing is left after it
      have hlength := congrArg List.length (occursAt_id_iff.mp hu')
      simp only [List.length_append] at hlength
      exact List.eq_nil_of_length_eq_zero (by omega)

/-! ## Replacing -/

section Replacing

variable {c : Char} {pattern replacement : List Char}

/-- What a replaced text begins with, up to the first character of a replacement, is what the
text itself begins with. -/
theorem prefix_of_prefix_replaceFrom {w cs : List Char} (hw : c ∉ w)
    (h : w <+: replaceFrom pattern (c :: replacement) 0 cs) : w <+: cs := by
  induction cs generalizing w with
  | nil => exact h
  | cons d cs ih =>
    cases w with
    | nil => exact List.nil_prefix
    | cons e w =>
      rw [List.mem_cons, not_or] at hw
      rw [replaceFrom] at h
      split at h
      · exact absurd (List.cons_prefix_cons.mp h).1.symm hw.1
      · obtain ⟨rfl, htail⟩ := List.cons_prefix_cons.mp h
        exact List.cons_prefix_cons.mpr ⟨rfl, ih hw.2 htail⟩

theorem isSome_dropPattern?_of_starts {cs : List Char} (h : pattern <+: cs) :
    (dropPattern? id pattern cs).isSome = true := by
  obtain ⟨r, hr⟩ := h
  have hdrop := dropPattern?_eq_some_iff.mpr (occursAt_id_iff (u := []).mpr hr.symm)
  rw [hdrop, Option.isSome_some]

/-- **A text in which every occurrence of a pattern is replaced has no occurrence of it.** -/
theorem not_infix_replaceFrom (hpattern : c ∉ pattern) (hreplacement : c ∉ replacement)
    (hlength : pattern.length ≤ replacement.length) (hdiffers : ¬ pattern <+: replacement)
    (skip : Nat) (cs : List Char) :
    ¬ c :: pattern <:+: replaceFrom (c :: pattern) (c :: replacement) skip cs := by
  induction cs generalizing skip with
  | nil => simp [replaceFrom]
  | cons d cs ih =>
    cases skip with
    | succ skip =>
      rw [replaceFrom]
      exact ih skip
    | zero =>
      rw [replaceFrom]
      split
      · -- a replacement is not the pattern, and no pattern begins later in it
        rw [List.cons_append, List.infix_cons_iff, List.cons_prefix_cons,
          cons_infix_append_iff hreplacement]
        rintro (⟨-, hstart⟩ | hlater)
        · exact hdiffers (List.prefix_of_prefix_length_le hstart (List.prefix_append _ _) hlength)
        · exact ih _ hlater
      · -- a pattern that begins with a copied character was one before
        rename_i hstays
        rw [List.infix_cons_iff, List.cons_prefix_cons]
        rintro (⟨rfl, hstart⟩ | hlater)
        · refine hstays (isSome_dropPattern?_of_starts (List.cons_prefix_cons.mpr ⟨rfl, ?_⟩))
          exact prefix_of_prefix_replaceFrom hpattern hstart
        · exact ih 0 hlater

theorem not_infix_replaceAll (hpattern : c ∉ pattern) (hreplacement : c ∉ replacement)
    (hlength : pattern.length ≤ replacement.length) (hdiffers : ¬ pattern <+: replacement)
    (cs : List Char) : ¬ c :: pattern <:+: replaceAll (c :: pattern) (c :: replacement) cs :=
  not_infix_replaceFrom hpattern hreplacement hlength hdiffers 0 cs

end Replacing

/-! ### From left to right -/

/-- A text, and what comes of it when the occurrences of a pattern are replaced as they are found
from left to right: behind the first one the search begins anew, and what holds none is kept. -/
inductive Replaced (pattern replacement : List Char) : List Char → List Char → Prop
  | kept {cs : List Char} (hnone : ¬ pattern <:+: cs) : Replaced pattern replacement cs cs
  | found {cs before after replaced : List Char}
      (hfirst : FirstOccurrence id pattern cs before after)
      (hafter : Replaced pattern replacement after replaced) :
      Replaced pattern replacement cs (before ++ (replacement ++ replaced))

section Replaced

variable {pattern replacement : List Char}

/-- The rest of an occurrence is skipped. -/
theorem replaceFrom_length_append (a r : List Char) :
    replaceFrom pattern replacement a.length (a ++ r) = replaceFrom pattern replacement 0 r := by
  induction a with
  | nil => rfl
  | cons c a ih => rw [List.length_cons, List.cons_append, replaceFrom, ih]

theorem replaceAll_eq_self {cs : List Char} (hnone : ¬ pattern <:+: cs) :
    replaceAll pattern replacement cs = cs := by
  rw [replaceAll]
  induction cs with
  | nil => rfl
  | cons c cs ih =>
    have hstart : ¬ (dropPattern? id pattern (c :: cs)).isSome = true := by
      intro hstart
      obtain ⟨r, hr⟩ := Option.isSome_iff_exists.mp hstart
      apply hnone
      rw [occursAt_id_iff.mp (dropPattern?_eq_some_iff.mp hr)]
      exact (List.prefix_append pattern r).isInfix
    rw [replaceFrom, if_neg hstart, ih fun hcs => hnone (List.infix_cons hcs)]

/-- What stands in front of the first occurrence is kept, and the search begins anew behind it. The
induction is on the text, of which the first occurrence loses one character after the other until
it is at the start. -/
theorem FirstOccurrence.replaceAll_eq (hne : pattern ≠ []) {cs u r : List Char}
    (h : FirstOccurrence id pattern cs u r) :
    replaceAll pattern replacement cs = u ++ (replacement ++ replaceAll pattern replacement r) := by
  rw [replaceAll, replaceAll]
  induction cs generalizing u with
  | nil =>
    have hcs := occursAt_id_iff.mp h.occurs
    rw [List.nil_eq_append_iff, List.append_eq_nil_iff] at hcs
    exact absurd hcs.2.1 hne
  | cons c cs ih =>
    rcases h.occurs.of_cons with rfl | ⟨u', rfl, h'⟩
    · -- the text begins with the pattern
      have hstart : (dropPattern? id pattern (c :: cs)).isSome = true := by
        rw [dropPattern?_eq_some_iff.mpr h.occurs, Option.isSome_some]
      obtain ⟨d, rest, rfl⟩ := List.exists_cons_of_ne_nil hne
      have hcs : cs = rest ++ r := (List.cons.inj (occursAt_id_iff.mp h.occurs)).2
      rw [replaceFrom, if_pos hstart, List.length_cons, Nat.add_sub_cancel, hcs,
        replaceFrom_length_append, List.nil_append]
    · -- an occurrence at the start would be an earlier one
      have hstart : ¬ (dropPattern? id pattern (c :: cs)).isSome = true := by
        intro hstart
        obtain ⟨r', hr'⟩ := Option.isSome_iff_exists.mp hstart
        have hlength := h.least [] r' (dropPattern?_eq_some_iff.mp hr')
        simp only [List.length_cons, List.length_nil] at hlength
        omega
      have hrest : FirstOccurrence id pattern cs u' r :=
        ⟨h', fun u'' r'' h'' => Nat.le_of_succ_le_succ (h.least _ _ (h''.cons c))⟩
      rw [replaceFrom, if_neg hstart, ih hrest, List.cons_append]

/-- Every text can be looked through to its end: behind an occurrence it is shorter. -/
theorem exists_replaced (hne : pattern ≠ []) (replacement cs : List Char) :
    ∃ r, Replaced pattern replacement cs r := by
  induction hlength : cs.length using Nat.strongRecOn generalizing cs with
  | _ n ih =>
    by_cases hocc : pattern <:+: cs
    · obtain ⟨after, hafter⟩ := Option.isSome_iff_exists.mp (occurs_iff.mpr hocc)
      obtain ⟨before, hfirst⟩ := firstOccurrence_of_afterFirst? hafter
      have hshort : after.length < n := by
        have hpattern := List.length_pos_of_ne_nil hne
        have hcs := congrArg List.length (occursAt_id_iff.mp hfirst.occurs)
        simp only [List.length_append] at hcs
        omega
      obtain ⟨replaced, hreplaced⟩ := ih after.length hshort after rfl
      exact ⟨_, .found hfirst hreplaced⟩
    · exact ⟨cs, .kept hocc⟩

/-- **Replacing all occurrences replaces those that are found from left to right**, and gives
nothing else. -/
theorem replaceAll_eq_iff (hne : pattern ≠ []) {cs r : List Char} :
    replaceAll pattern replacement cs = r ↔ Replaced pattern replacement cs r := by
  have hforward : ∀ {cs r}, Replaced pattern replacement cs r →
      replaceAll pattern replacement cs = r := by
    intro cs r h
    induction h with
    | kept hnone => exact replaceAll_eq_self hnone
    | found hfirst hafter ih => rw [hfirst.replaceAll_eq hne, ih]
  constructor
  · rintro rfl
    obtain ⟨r, hr⟩ := exists_replaced hne replacement cs
    rwa [hforward hr]
  · exact hforward

end Replaced

end Draftsman.Text
