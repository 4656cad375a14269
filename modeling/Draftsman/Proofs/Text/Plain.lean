/-
The first 128 characters.

No table of the standard is asked about a plain character: its properties are those of English
text, and what is in question can be checked for all of them, one by one (`forall_isPlain`).
Letters and digits of English are plain, and a text of plain characters is lowered letter by letter.
-/
import Draftsman.Text.Case

set_option autoImplicit false

namespace Draftsman.Text

/-- What can be checked for the first 128 code points holds of every plain character. -/
theorem forall_isPlain {P : Char → Bool}
    (hP : (List.range 128).all (fun n => P (Char.ofNat n)) = true) {c : Char}
    (hc : isPlain c = true) : P c = true := by
  have hcode := List.all_eq_true.mp hP c.toNat (List.mem_range.mpr (of_decide_eq_true hc))
  rwa [Char.ofNat_toNat] at hcode

/-- What can be checked for every character of a text holds of each of them. -/
theorem forall_mem_of_all {P : Char → Prop} [DecidablePred P] {cs : List Char}
    (h : cs.all (fun c => decide (P c)) = true) : ∀ c ∈ cs, P c :=
  fun c hc => of_decide_eq_true (List.all_eq_true.mp h c hc)

/-! ## Letters and digits -/

theorem isAlphanum_of_isLower {c : Char} (h : c.isLower = true) : c.isAlphanum = true :=
  Bool.or_eq_true_iff.mpr (.inl (Bool.or_eq_true_iff.mpr (.inr h)))

theorem isAlphanum_of_isUpper {c : Char} (h : c.isUpper = true) : c.isAlphanum = true :=
  Bool.or_eq_true_iff.mpr (.inl (Bool.or_eq_true_iff.mpr (.inl h)))

theorem isPlain_of_isAlphanum {c : Char} (h : c.isAlphanum = true) : isPlain c = true := by
  have hplain (last : Nat) (hlast : c.val.toNat ≤ last) (hsmall : last < 128) :
      isPlain c = true := decide_eq_true (Nat.lt_of_le_of_lt hlast hsmall)
  rcases Bool.or_eq_true_iff.mp h with hletter | hdigit
  · rcases Bool.or_eq_true_iff.mp hletter with hupper | hlower
    · exact hplain 90 (of_decide_eq_true hupper : c.val ≥ 'A'.val ∧ c.val ≤ 'Z'.val).2 (by decide)
    · exact hplain 122 (of_decide_eq_true (Bool.and_eq_true_iff.mp hlower).2) (by decide)
  · exact hplain 57 (of_decide_eq_true (Bool.and_eq_true_iff.mp hdigit).2) (by decide)

theorem isPlain_of_isUpper {c : Char} (h : c.isUpper = true) : isPlain c = true :=
  isPlain_of_isAlphanum (isAlphanum_of_isUpper h)

theorem isPlain_of_isLower {c : Char} (h : c.isLower = true) : isPlain c = true :=
  isPlain_of_isAlphanum (isAlphanum_of_isLower h)

theorem isAlphanumeric_of_isAlphanum {c : Char} (h : c.isAlphanum = true) :
    isAlphanumeric c = true := by
  rw [isAlphanumeric, if_pos (isPlain_of_isAlphanum h), h]

theorem isWordMember_of_isAlphanum {c : Char} (h : c.isAlphanum = true) :
    isWordMember c = true := by
  rw [isWordMember, if_pos (isPlain_of_isAlphanum h), h, Bool.true_or]

theorem isUppercase_of_isUpper {c : Char} (h : c.isUpper = true) : isUppercase c = true := by
  rw [isUppercase, if_pos (isPlain_of_isUpper h), h]

/-! ## Small letters and capitals -/

/-- What can be checked for the small letters of the first 128 code points holds of every one. -/
theorem forall_isLower {P : Char → Bool}
    (hP : (List.range 128).all (fun n => !(Char.ofNat n).isLower || P (Char.ofNat n)) = true)
    {c : Char} (hc : c.isLower = true) : P c = true := by
  have hletter := forall_isPlain (P := fun c => !c.isLower || P c) hP (isPlain_of_isLower hc)
  rwa [hc, Bool.not_true, Bool.false_or] at hletter

/-- What can be checked for the capitals of the first 128 code points holds of every one. -/
theorem forall_isUpper {P : Char → Bool}
    (hP : (List.range 128).all (fun n => !(Char.ofNat n).isUpper || P (Char.ofNat n)) = true)
    {c : Char} (hc : c.isUpper = true) : P c = true := by
  have hletter := forall_isPlain (P := fun c => !c.isUpper || P c) hP (isPlain_of_isUpper hc)
  rwa [hc, Bool.not_true, Bool.false_or] at hletter

section Letters

variable {c : Char}

theorem isLowercase_of_isLower (h : c.isLower = true) : isLowercase c = true := by
  rw [isLowercase, if_pos (isPlain_of_isLower h), h]

theorem not_isUppercase_of_isLower (h : c.isLower = true) : isUppercase c = false :=
  beq_iff_eq.mp (forall_isLower (P := fun c => isUppercase c == false) (by decide) h)

theorem not_isPlainDigit_of_isLower (h : c.isLower = true) : isPlainDigit c = false :=
  beq_iff_eq.mp (forall_isLower (P := fun c => isPlainDigit c == false) (by decide) h)

theorem not_isPlainDigit_of_isUpper (h : c.isUpper = true) : isPlainDigit c = false :=
  beq_iff_eq.mp (forall_isUpper (P := fun c => isPlainDigit c == false) (by decide) h)

theorem toLower_of_isLower (h : c.isLower = true) : c.toLower = c :=
  beq_iff_eq.mp (forall_isLower (P := fun c => c.toLower == c) (by decide) h)

/-- The capital of a small letter. -/
theorem isUpper_toUpper (h : c.isLower = true) : c.toUpper.isUpper = true :=
  forall_isLower (P := fun c => c.toUpper.isUpper) (by decide) h

theorem toLower_toUpper (h : c.isLower = true) : c.toUpper.toLower = c :=
  beq_iff_eq.mp (forall_isLower (P := fun c => c.toUpper.toLower == c) (by decide) h)

end Letters

/-- Plain letters are lowered one by one. -/
theorem lowerChars_of_isPlain {w : List Char} (hw : ∀ c ∈ w, isPlain c = true) :
    lowerChars w = w.map Char.toLower := by
  have hafter (before : List Char) : lowerAfter before w = w.map Char.toLower := by
    induction w generalizing before with
    | nil => rfl
    | cons c w ih =>
      have hc := hw c List.mem_cons_self
      have hsigma : (c == 'Σ') = false := by
        rw [beq_eq_false_iff_ne]
        rintro rfl
        exact absurd hc (by decide)
      rw [lowerAfter, hsigma, if_neg Bool.false_ne_true, lowerChar, if_pos hc,
        ih (fun d hd => hw d (List.mem_cons_of_mem c hd)), List.map_cons, List.singleton_append]
  exact hafter []

/-- A text of small letters is lowered already. -/
theorem lowerChars_of_isLower {w : List Char} (hw : ∀ c ∈ w, c.isLower = true) :
    lowerChars w = w := by
  rw [lowerChars_of_isPlain fun c hc => isPlain_of_isLower (hw c hc)]
  exact (List.map_congr_left fun c hc => toLower_of_isLower (hw c hc)).trans (List.map_id' w)

end Draftsman.Text
