/-
Words without blanks.

A word is *solid* if it is not empty and holds no blank. Letters and numbers of any script
are no blanks, and small forms of such characters are none either; the tables of the
properties are asked for that once, at the few blanks there are, and nowhere else. Solid
words with single spaces between them are found again as words, and make a trimmed text.
-/
import Draftsman.Text.Case
import Draftsman.Proofs.Text.Trimming

set_option autoImplicit false

namespace Draftsman.Text

/-! ## The blanks, one by one -/

/-- The codes of the blanks. -/
def blankCodes : List Nat :=
  List.range' 9 5 ++ [0x20, 0x85, 0xA0, 0x1680] ++ List.range' 0x2000 11
    ++ [0x2028, 0x2029, 0x202F, 0x205F, 0x3000]

theorem mem_blankCodes_of_isBlank {c : Char} (h : isBlank c = true) : c.toNat ∈ blankCodes := by
  simp only [isBlank, Bool.or_eq_true, Bool.and_eq_true, decide_eq_true_eq, beq_iff_eq] at h
  simp only [blankCodes, List.mem_append, List.mem_range'_1, List.mem_cons, List.not_mem_nil,
    or_false]
  omega

/-- What holds of every character of the list holds of every blank. -/
theorem forall_isBlank {P : Char → Bool} (hP : blankCodes.all (fun n => P (Char.ofNat n)) = true)
    {c : Char} (h : isBlank c = true) : P c = true := by
  have hcode := List.all_eq_true.mp hP _ (mem_blankCodes_of_isBlank h)
  rwa [Char.ofNat_toNat] at hcode

/-- A property that no blank has. -/
theorem not_isBlank_of {P : Char → Bool}
    (hP : blankCodes.all (fun n => !P (Char.ofNat n)) = true) {c : Char} (h : P c = true) :
    isBlank c = false := by
  by_contra hblank
  have hnot : (!P c) = true := forall_isBlank (P := fun c => !P c) hP (by simpa using hblank)
  rw [h] at hnot
  exact absurd hnot (by decide)

theorem not_isBlank_of_isAlphanumeric {c : Char} (h : isAlphanumeric c = true) :
    isBlank c = false :=
  not_isBlank_of (by decide +kernel) h

theorem not_isBlank_of_isWordMember {c : Char} (h : isWordMember c = true) : isBlank c = false :=
  not_isBlank_of (by decide +kernel) h

/-! ## Small forms -/

/-- No image of the run is a blank. -/
def CaseRun.avoidsBlanks (run : CaseRun) : Bool :=
  blankCodes.all fun n => n < run.image || run.image + (run.last - run.first) < n

theorem forall_avoidsBlanks : ∀ run ∈ lowercaseRuns, run.avoidsBlanks = true :=
  List.all_eq_true.mp (by decide +kernel)

/-- The image is as far from the first image as the code is from the first code. -/
theorem CaseRun.image_bounds {run : CaseRun} {code image : Nat}
    (h : run.apply? code = some image) :
    run.image ≤ image ∧ image ≤ run.image + (run.last - run.first) := by
  unfold CaseRun.apply? at h
  split_ifs at h with hcode
  simp only [Bool.and_eq_true, decide_eq_true_eq] at hcode
  have himage := Option.some.inj h
  omega

theorem CaseRun.not_mem_blankCodes {run : CaseRun} (hrun : run.avoidsBlanks = true)
    {code image : Nat} (h : run.apply? code = some image) : image ∉ blankCodes := by
  intro hmem
  have havoids := List.all_eq_true.mp hrun image hmem
  have hbounds := CaseRun.image_bounds h
  simp only [Bool.or_eq_true, decide_eq_true_eq] at havoids
  omega

/-- A code that is no blank's gives a character that is no blank: what is no code at all
gives the character zero. -/
theorem not_isBlank_ofNat {n : Nat} (h : n ∉ blankCodes) : isBlank (Char.ofNat n) = false := by
  by_contra hblank
  have hmem := mem_blankCodes_of_isBlank (Bool.of_not_eq_false hblank)
  by_cases hvalid : n.isValidChar
  · rw [Char.ofNat, dif_pos hvalid] at hmem
    exact h hmem
  · rw [Char.ofNat, dif_neg hvalid] at hmem
    exact absurd hmem (by decide)

theorem not_isBlank_applyRuns {runs : List CaseRun}
    (hruns : ∀ run ∈ runs, run.avoidsBlanks = true) {c : Char} (h : isBlank c = false) :
    isBlank (applyRuns runs c) = false := by
  unfold applyRuns
  split
  · rename_i code hcode
    obtain ⟨run, hrun, happly⟩ := List.exists_of_findSome?_eq_some hcode
    exact not_isBlank_ofNat (CaseRun.not_mem_blankCodes (hruns run hrun) happly)
  · exact h

/-- A small letter lies 32 codes behind its capital; no other character changes. -/
theorem toLower_cases (c : Char) :
    c.toLower = c ∨ 97 ≤ c.toLower.toNat ∧ c.toLower.toNat ≤ 122 := by
  by_cases hupper : c.val ≥ 'A'.val ∧ c.val ≤ 'Z'.val
  · have hsmall : c.toLower = Char.mk (c.val + ('a'.val - 'A'.val)) _ := dif_pos hupper
    have hlow : 65 ≤ c.val.toNat := hupper.1
    have hhigh : c.val.toNat ≤ 90 := hupper.2
    -- the sum is far below the end of a word
    have hsum : (c.val + ('a'.val - 'A'.val)).toNat = c.val.toNat + 32 := by
      rw [UInt32.toNat_add]
      exact Nat.mod_eq_of_lt (show c.val.toNat + 32 < 2 ^ 32 by omega)
    rw [hsmall]
    simp only [Char.toNat, hsum]
    omega
  · exact .inl (dif_neg hupper)

theorem not_isBlank_toLower {c : Char} (h : isBlank c = false) : isBlank c.toLower = false := by
  rcases toLower_cases c with hsame | hletter
  · rw [hsame]
    exact h
  · refine not_isBlank_of (P := fun d => decide (97 ≤ d.toNat ∧ d.toNat ≤ 122)) (by decide) ?_
    exact decide_eq_true hletter

theorem not_isBlank_of_mem_lowerChar {c d : Char} (h : isBlank c = false) (hd : d ∈ lowerChar c) :
    isBlank d = false := by
  unfold lowerChar at hd
  split_ifs at hd
  · rw [List.mem_singleton.mp hd]
    exact not_isBlank_toLower h
  · simp only [List.mem_cons, List.not_mem_nil, or_false] at hd
    rcases hd with rfl | rfl <;> decide
  · rw [List.mem_singleton.mp hd]
    exact not_isBlank_applyRuns forall_avoidsBlanks h

theorem lowerChar_ne_nil (c : Char) : lowerChar c ≠ [] := by
  unfold lowerChar
  split_ifs <;> simp

/-! ## Solid words -/

/-- A word that is not empty and holds no blank. -/
structure Solid (w : List Char) : Prop where
  ne_nil : w ≠ []
  not_isBlank : ∀ c ∈ w, isBlank c = false

theorem Solid.trimmed {w : List Char} (h : Solid w) : Trimmed w := trimmed_of_forall h.not_isBlank

theorem solid_singleton {c : Char} (h : isBlank c = false) : Solid [c] :=
  ⟨by simp, fun _ hd => List.mem_singleton.mp hd ▸ h⟩

/-- A part of a solid word is solid unless it is empty. -/
theorem Solid.of_subset {w v : List Char} (h : Solid w) (hv : v ≠ []) (hsub : v ⊆ w) : Solid v :=
  ⟨hv, fun c hc => h.not_isBlank c (hsub hc)⟩

theorem Solid.append_singleton {w : List Char} (h : ∀ c ∈ w, isBlank c = false) {c : Char}
    (hc : isBlank c = false) : Solid (w ++ [c]) := by
  refine ⟨by simp, fun d hd => ?_⟩
  rcases List.mem_append.mp hd with hd | hd
  · exact h d hd
  · exact List.mem_singleton.mp hd ▸ hc

/-- A small form is solid: the final sigma depends on the neighbours, but either form of it
is a letter. -/
theorem not_isBlank_of_mem_lowerAfter {before w : List Char} (h : ∀ c ∈ w, isBlank c = false) :
    ∀ d ∈ lowerAfter before w, isBlank d = false := by
  induction w generalizing before with
  | nil => exact fun d hd => absurd hd List.not_mem_nil
  | cons c w ih =>
    intro d hd
    rw [lowerAfter] at hd
    rcases List.mem_append.mp hd with hd | hd
    · split_ifs at hd
      -- a capital sigma, which closes the word or does not
      · rw [List.mem_singleton.mp hd]
        decide
      · rw [List.mem_singleton.mp hd]
        decide
      · exact not_isBlank_of_mem_lowerChar (h c List.mem_cons_self) hd
    · exact ih (fun c hc => h c (List.mem_cons_of_mem _ hc)) d hd

theorem Solid.lowerChars {w : List Char} (h : Solid w) : Solid (lowerChars w) := by
  refine ⟨?_, not_isBlank_of_mem_lowerAfter h.not_isBlank⟩
  obtain ⟨c, w, rfl⟩ := List.exists_cons_of_ne_nil h.ne_nil
  rw [Text.lowerChars, lowerAfter]
  split_ifs <;> simp [lowerChar_ne_nil]

/-! ## Solid words with spaces between them -/

section Phrases

variable {ws : List (List Char)}

/-- **Solid words are found again between single spaces.** -/
theorem words_intercalate (h : ∀ w ∈ ws, Solid w) : words ([' '].intercalate ws) = ws := by
  induction ws with
  | nil => rfl
  | cons w ws ih =>
    have hw := h w List.mem_cons_self
    have hblank : ∀ c ∈ w, isBlank c = false := hw.not_isBlank
    have hne : (!w.isEmpty) = true := by simpa using hw.ne_nil
    cases ws with
    | nil =>
      rw [List.intercalate_singleton, words, List.splitOnP_eq_singleton hblank,
        List.filter_cons, if_pos hne, List.filter_nil]
    | cons v ws =>
      have ih := ih fun u hu => h u (List.mem_cons_of_mem _ hu)
      -- the first cut is at the space behind the first word, which has no blank itself
      rw [List.intercalate_cons_cons, List.append_assoc, List.singleton_append, words,
        List.splitOnP_append_cons_of_forall_mem hblank ' ' rfl, List.filter_cons, if_pos hne]
      exact congrArg (w :: ·) ih

theorem intercalate_ne_nil (h : ∀ w ∈ ws, Solid w) (hws : ws ≠ []) : [' '].intercalate ws ≠ [] := by
  intro hnil
  have hwords := words_intercalate h
  rw [hnil] at hwords
  exact hws hwords.symm

/-- A phrase of solid words begins with the first and ends with the last of them. -/
theorem trimmed_intercalate (h : ∀ w ∈ ws, Solid w) : Trimmed ([' '].intercalate ws) := by
  induction ws with
  | nil => exact trimmed_of_forall fun c hc => absurd hc List.not_mem_nil
  | cons w ws ih =>
    have hw := h w List.mem_cons_self
    have htail : ∀ u ∈ ws, Solid u := fun u hu => h u (List.mem_cons_of_mem _ hu)
    cases ws with
    | nil =>
      rw [List.intercalate_singleton]
      exact hw.trimmed
    | cons v ws =>
      rw [List.intercalate_cons_cons, List.append_assoc]
      exact hw.trimmed.append (ih htail) hw.ne_nil
        (intercalate_ne_nil htail (List.cons_ne_nil v ws)) _

end Phrases

end Draftsman.Text
