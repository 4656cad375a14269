/-
What the text of a number is made of.

Whatever the layout and whatever the value, only digits, signs, the point and the mark of
an exponent are written, and at least one of them. So a number is never written as
nothing, and never with a blank.
-/
import Draftsman.Json.Value
import Draftsman.Text.Blank
import Mathlib.Tactic.SplitIfs

set_option autoImplicit false

namespace Draftsman

open Draftsman.Decimal Draftsman.Text

/-- A character that occurs in the text of a number. -/
def isNumberChar (c : Char) : Bool :=
  c.isDigit || c == '-' || c == '+' || c == '.' || c == 'e'

theorem not_isBlank_of_isNumberChar {c : Char} (h : isNumberChar c) : isBlank c = false := by
  simp only [isNumberChar, Char.isDigit, Bool.or_eq_true, Bool.and_eq_true, decide_eq_true_eq,
    beq_iff_eq] at h
  rcases h with (((⟨hlow, hhigh⟩ | rfl) | rfl) | rfl) | rfl
  · have h48 : 48 ≤ c.toNat := hlow
    have h57 : c.toNat ≤ 57 := hhigh
    simp only [isBlank, Bool.or_eq_false_iff, Bool.and_eq_false_iff, decide_eq_false_iff_not,
      beq_eq_false_iff_ne]
    omega
  all_goals decide

/-! ## Digits -/

theorem isNumberChar_of_mem_toDigits {n : Nat} {c : Char} (h : c ∈ Nat.toDigits 10 n) :
    isNumberChar c := by
  rw [isNumberChar, Nat.isDigit_of_mem_toDigits (by decide) (by decide) h]
  rfl

namespace Decimal

theorem Digits.toChars_ne_nil (d : Digits) : d.toChars ≠ [] := Nat.toDigits_ne_nil

theorem isNumberChar_of_mem_toChars {d : Digits} {c : Char} (h : c ∈ d.toChars) :
    isNumberChar c := isNumberChar_of_mem_toDigits h

/-! ## Layouts -/

theorem Layout.writePositional_ne_nil (layout : Layout) (d : Digits) :
    layout.writePositional d ≠ [] := by
  have hne := d.toChars_ne_nil
  simp only [Layout.writePositional]
  split_ifs <;> simp [hne]

theorem writeScientific_ne_nil (d : Digits) : writeScientific d ≠ [] := by
  simp [writeScientific]

theorem isNumberChar_of_mem_writePositional {layout : Layout} {d : Digits} {c : Char}
    (h : c ∈ layout.writePositional d) : isNumberChar c := by
  have hzeros : ∀ n, c ∈ List.replicate n '0' → isNumberChar c := by
    intro n hc
    rw [(List.mem_replicate.mp hc).2]
    decide
  simp only [Layout.writePositional] at h
  split_ifs at h
  · simp only [List.mem_append, List.mem_cons, List.not_mem_nil, or_false] at h
    rcases h with (h | h) | rfl | rfl
    · exact isNumberChar_of_mem_toChars h
    · exact hzeros _ h
    all_goals decide
  · simp only [List.append_nil, List.mem_append] at h
    exact h.elim isNumberChar_of_mem_toChars (hzeros _)
  · simp only [List.mem_append, List.mem_cons] at h
    rcases h with h | rfl | h
    · exact isNumberChar_of_mem_toChars (List.mem_of_mem_take h)
    · decide
    · exact isNumberChar_of_mem_toChars (List.mem_of_mem_drop h)
  · simp only [List.mem_append, List.mem_cons, List.not_mem_nil, or_false] at h
    rcases h with ((rfl | rfl) | h) | h
    · decide
    · decide
    · exact hzeros _ h
    · exact isNumberChar_of_mem_toChars h

theorem isNumberChar_of_mem_writeScientific {d : Digits} {c : Char}
    (h : c ∈ writeScientific d) : isNumberChar c := by
  unfold writeScientific at h
  simp only [List.mem_append, List.mem_cons] at h
  rcases h with (h | h) | rfl | h | h
  · exact isNumberChar_of_mem_toChars (List.mem_of_mem_take h)
  · -- the digits after the first, if there are any, with a point before them
    split at h
    · exact absurd h List.not_mem_nil
    · rcases List.mem_cons.mp h with rfl | h
      · decide
      · exact isNumberChar_of_mem_toChars (List.mem_of_mem_drop h)
  · decide
  · split_ifs at h <;> subst h <;> decide
  · exact isNumberChar_of_mem_toDigits h

/-- What a layout writes: perhaps a minus, and a decimal in one of the two forms. -/
theorem Layout.toList_write (layout : Layout) (f : Format) (x : Finite) :
    ∃ sign body d, (layout.write f x).toList = sign ++ body ∧ (sign = [] ∨ sign = ['-']) ∧
      (body = layout.writePositional d ∨ body = writeScientific d) := by
  unfold Layout.write
  rw [String.toList_ofList]
  split_ifs
  · exact ⟨['-'], _, _, rfl, .inr rfl, .inl rfl⟩
  · exact ⟨['-'], _, _, rfl, .inr rfl, .inr rfl⟩
  · exact ⟨[], _, _, rfl, .inl rfl, .inl rfl⟩
  · exact ⟨[], _, _, rfl, .inl rfl, .inr rfl⟩

theorem Layout.isNumberChar_of_mem_write {layout : Layout} {f : Format} {x : Finite} {c : Char}
    (h : c ∈ (layout.write f x).toList) : isNumberChar c := by
  obtain ⟨sign, body, d, heq, hsign, hbody⟩ := layout.toList_write f x
  rw [heq, List.mem_append] at h
  rcases h with h | h
  · rcases hsign with rfl | rfl
    · exact absurd h List.not_mem_nil
    · rw [List.mem_singleton.mp h]
      decide
  · rcases hbody with rfl | rfl
    · exact isNumberChar_of_mem_writePositional h
    · exact isNumberChar_of_mem_writeScientific h

theorem Layout.write_ne_empty (layout : Layout) (f : Format) (x : Finite) :
    layout.write f x ≠ "" := by
  intro h
  obtain ⟨sign, body, d, heq, -, hbody⟩ := layout.toList_write f x
  rw [h] at heq
  have hnil : body = [] := (List.append_eq_nil_iff.mp heq.symm).2
  rcases hbody with rfl | rfl
  · exact layout.writePositional_ne_nil d hnil
  · exact writeScientific_ne_nil d hnil

end Decimal

/-! ## Numbers -/

/-- **The text of a number holds nothing but characters of numbers.** -/
theorem Number.isNumberChar_of_mem_text {n : Number} {c : Char} (h : c ∈ n.text.toList) :
    isNumberChar c := by
  cases n with
  | real x | single x => exact Layout.isNumberChar_of_mem_write h
  | integer n =>
    cases n with
    | ofNat n =>
      have h : c ∈ n.repr.toList := h
      rw [Nat.toList_repr] at h
      exact isNumberChar_of_mem_toDigits h
    | negSucc n =>
      have h : c ∈ ("-" ++ (n + 1).repr).toList := h
      rw [String.toList_append, Nat.toList_repr, List.mem_append] at h
      rcases h with h | h
      · rw [List.mem_singleton.mp h]
        decide
      · exact isNumberChar_of_mem_toDigits h

theorem Number.text_ne_empty (n : Number) : n.text ≠ "" := by
  cases n with
  | real x | single x => exact Layout.write_ne_empty _ _ x
  | integer n =>
    intro h
    have h := congrArg String.toList h
    cases n with
    | ofNat n =>
      have h : n.repr.toList = [] := h
      rw [Nat.toList_repr] at h
      exact Nat.toDigits_ne_nil h
    | negSucc n =>
      have h : ("-" ++ (n + 1).repr).toList = [] := h
      rw [String.toList_append] at h
      exact List.cons_ne_nil _ _ h

end Draftsman
