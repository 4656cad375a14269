/-
What the search for a pattern finds.

A pattern may be found under a change of spelling, so an occurrence is a piece of the text
that is the pattern once it is respelled. Both searches, the one for what follows an
occurrence and the one for what precedes it, find the first occurrence of all
(`FirstOccurrence`), and find none only if there is none.
-/
import Draftsman.Text.Search
import Mathlib.Data.List.Infix

set_option autoImplicit false

namespace Draftsman.Text

variable {respell : Char → Char} {pattern : List Char}

/-! ## Occurrences -/

/-- The pattern occurs in `cs` after `u`, and `r` follows. -/
def OccursAt (respell : Char → Char) (pattern cs u r : List Char) : Prop :=
  ∃ m, m.map respell = pattern ∧ cs = u ++ (m ++ r)

/-- The pattern occurs in `cs` after `u` and nowhere before, and `r` follows. -/
structure FirstOccurrence (respell : Char → Char) (pattern cs u r : List Char) : Prop where
  occurs : OccursAt respell pattern cs u r
  least : ∀ u' r', OccursAt respell pattern cs u' r' → u.length ≤ u'.length

theorem occursAt_id_iff {cs u r : List Char} :
    OccursAt id pattern cs u r ↔ cs = u ++ (pattern ++ r) := by
  constructor
  · rintro ⟨m, hm, hcs⟩
    rw [List.map_id] at hm
    rw [← hm]
    exact hcs
  · intro hcs
    exact ⟨pattern, List.map_id pattern, hcs⟩

theorem OccursAt.cons {cs u r : List Char} (h : OccursAt respell pattern cs u r) (c : Char) :
    OccursAt respell pattern (c :: cs) (c :: u) r := by
  obtain ⟨m, hm, hcs⟩ := h
  exact ⟨m, hm, congrArg (c :: ·) hcs⟩

/-- An occurrence in a text begins with it or is one in what follows its first character. -/
theorem OccursAt.of_cons {c : Char} {cs u r : List Char}
    (h : OccursAt respell pattern (c :: cs) u r) :
    u = [] ∨ ∃ u', u = c :: u' ∧ OccursAt respell pattern cs u' r := by
  obtain ⟨m, hm, hcs⟩ := h
  cases u with
  | nil => exact .inl rfl
  | cons d u =>
    rw [List.cons_append] at hcs
    obtain ⟨hd, hcs⟩ := List.cons.inj hcs
    exact .inr ⟨u, hd ▸ rfl, m, hm, hcs⟩

/-! ## At one place -/

theorem dropPattern?_eq_some_iff {cs r : List Char} :
    dropPattern? respell pattern cs = some r ↔ OccursAt respell pattern cs [] r := by
  induction pattern generalizing cs with
  | nil =>
    rw [dropPattern?]
    constructor
    · intro h
      exact ⟨[], rfl, Option.some.inj h⟩
    · rintro ⟨m, hm, hcs⟩
      rw [List.map_eq_nil_iff.mp hm] at hcs
      exact congrArg some hcs
  | cons p pattern ih =>
    cases cs with
    | nil =>
      constructor
      · intro h
        exact absurd h (by simp [dropPattern?])
      · rintro ⟨m, hm, hcs⟩
        obtain ⟨c, m, rfl, -, -⟩ := List.map_eq_cons_iff.mp hm
        exact absurd hcs (by simp)
    | cons c cs =>
      rw [dropPattern?]
      constructor
      · intro h
        split at h
        · rename_i hc
          obtain ⟨m, hm, hcs⟩ := ih.mp h
          exact ⟨c :: m, by rw [List.map_cons, hc, hm], congrArg (c :: ·) hcs⟩
        · exact absurd h (by simp)
      · rintro ⟨m, hm, hcs⟩
        obtain ⟨d, m, rfl, hd, htail⟩ := List.map_eq_cons_iff.mp hm
        obtain ⟨rfl, hrest⟩ := List.cons.inj hcs
        rw [if_pos hd]
        exact ih.mpr ⟨m, htail, hrest⟩

/-- A pattern that does not begin a text first occurs where it first occurs in the rest. -/
theorem FirstOccurrence.cons {cs u r : List Char} {c : Char}
    (h : FirstOccurrence respell pattern cs u r)
    (hstart : ∀ r', ¬ OccursAt respell pattern (c :: cs) [] r') :
    FirstOccurrence respell pattern (c :: cs) (c :: u) r := by
  refine ⟨h.occurs.cons c, fun u' r' h' => ?_⟩
  rcases h'.of_cons with rfl | ⟨u'', rfl, h''⟩
  · exact absurd h' (hstart r')
  · exact Nat.succ_le_succ (h.least u'' r' h'')

/-! ## After the first occurrence -/

/-- **What is found follows the first occurrence.** -/
theorem firstOccurrence_of_afterFirst? {cs r : List Char}
    (h : afterFirst? respell pattern cs = some r) :
    ∃ u, FirstOccurrence respell pattern cs u r := by
  induction cs with
  | nil =>
    rw [afterFirst?] at h
    exact ⟨[], dropPattern?_eq_some_iff.mp h, fun _ _ _ => Nat.zero_le _⟩
  | cons c cs ih =>
    rw [afterFirst?] at h
    cases hstart : dropPattern? respell pattern (c :: cs) with
    | some r' =>
      rw [hstart, Option.some_or] at h
      rw [h] at hstart
      exact ⟨[], dropPattern?_eq_some_iff.mp hstart, fun _ _ _ => Nat.zero_le _⟩
    | none =>
      rw [hstart, Option.none_or] at h
      obtain ⟨u, hu⟩ := ih h
      refine ⟨c :: u, hu.cons fun r' hr' => ?_⟩
      rw [dropPattern?_eq_some_iff.mpr hr'] at hstart
      exact absurd hstart (by simp)

/-- **What occurs is found.** -/
theorem exists_afterFirst?_of_occursAt {cs u r : List Char}
    (h : OccursAt respell pattern cs u r) : ∃ r', afterFirst? respell pattern cs = some r' := by
  induction cs generalizing u with
  | nil =>
    obtain ⟨m, hm, hcs⟩ := h
    rw [List.nil_eq_append_iff, List.append_eq_nil_iff] at hcs
    exact ⟨[], dropPattern?_eq_some_iff.mpr ⟨m, hm, by rw [hcs.2.1]; rfl⟩⟩
  | cons c cs ih =>
    rw [afterFirst?]
    rcases h.of_cons with rfl | ⟨u', rfl, h'⟩
    · rw [dropPattern?_eq_some_iff.mpr h, Option.some_or]
      exact ⟨r, rfl⟩
    · obtain ⟨r', hr'⟩ := ih h'
      rw [hr']
      cases dropPattern? respell pattern (c :: cs) with
      | some r'' => exact ⟨r'', rfl⟩
      | none => exact ⟨r', rfl⟩

/-- **What follows the first occurrence is found**, for no other occurrence is the first. -/
theorem FirstOccurrence.afterFirst?_eq {cs u r : List Char}
    (h : FirstOccurrence respell pattern cs u r) : afterFirst? respell pattern cs = some r := by
  obtain ⟨r', hr'⟩ := exists_afterFirst?_of_occursAt h.occurs
  obtain ⟨u', h'⟩ := firstOccurrence_of_afterFirst? hr'
  have hlen : u.length = u'.length :=
    Nat.le_antisymm (h.least u' r' h'.occurs) (h'.least u r h.occurs)
  obtain ⟨m, hm, hcs⟩ := h.occurs
  obtain ⟨m', hm', hcs'⟩ := h'.occurs
  have hmlen : m.length = m'.length := by
    rw [← List.length_map respell, hm, ← hm', List.length_map]
  have hrest := (List.append_inj (hcs.symm.trans hcs') hlen).2
  rw [hr', (List.append_inj hrest hmlen).2]

theorem occurs_iff {cs : List Char} : occurs pattern cs = true ↔ pattern <:+: cs := by
  rw [occurs, Option.isSome_iff_exists]
  constructor
  · rintro ⟨r, hr⟩
    obtain ⟨u, hu⟩ := firstOccurrence_of_afterFirst? hr
    exact ⟨u, r, by rw [List.append_assoc, ← occursAt_id_iff.mp hu.occurs]⟩
  · rintro ⟨u, r, hcs⟩
    rw [List.append_assoc] at hcs
    exact exists_afterFirst?_of_occursAt (occursAt_id_iff.mpr hcs.symm)

/-! ## Before the first occurrence -/

/-- **What precedes the first occurrence is found.** -/
theorem FirstOccurrence.beforeFirst_eq {cs u r : List Char}
    (h : FirstOccurrence id pattern cs u r) : beforeFirst pattern cs = u := by
  induction cs generalizing u with
  | nil =>
    have hcs := occursAt_id_iff.mp h.occurs
    rw [List.nil_eq_append_iff] at hcs
    exact hcs.1.symm
  | cons c cs ih =>
    rw [beforeFirst]
    split
    · rename_i hstart
      obtain ⟨r', hr'⟩ := Option.isSome_iff_exists.mp hstart
      have hlen := h.least [] r' (dropPattern?_eq_some_iff.mp hr')
      exact (List.eq_nil_of_length_eq_zero (Nat.le_zero.mp hlen)).symm
    · rename_i hstart
      rcases h.occurs.of_cons with rfl | ⟨u', rfl, h'⟩
      · rw [dropPattern?_eq_some_iff.mpr h.occurs] at hstart
        exact absurd rfl hstart
      · have hrest : FirstOccurrence id pattern cs u' r :=
          ⟨h', fun u'' r'' h'' => Nat.le_of_succ_le_succ (h.least _ _ (h''.cons c))⟩
        rw [ih hrest]

theorem beforeFirst_eq_self {cs : List Char} (h : ¬ pattern <:+: cs) :
    beforeFirst pattern cs = cs := by
  induction cs with
  | nil => rfl
  | cons c cs ih =>
    rw [beforeFirst]
    split
    · rename_i hstart
      obtain ⟨r, hr⟩ := Option.isSome_iff_exists.mp hstart
      have hcs := occursAt_id_iff.mp (dropPattern?_eq_some_iff.mp hr)
      exact absurd ⟨[], r, by rw [hcs, List.append_assoc]⟩ h
    · rw [ih fun hcs => h (List.infix_cons hcs)]

/-- Either the pattern occurs, and what precedes its first occurrence is found, or the
whole text is. -/
theorem beforeFirst_cases (pattern cs : List Char) :
    (∃ u r, FirstOccurrence id pattern cs u r ∧ beforeFirst pattern cs = u) ∨
      (¬ pattern <:+: cs ∧ beforeFirst pattern cs = cs) := by
  by_cases h : pattern <:+: cs
  · obtain ⟨r, hr⟩ := Option.isSome_iff_exists.mp (occurs_iff.mpr h)
    obtain ⟨u, hu⟩ := firstOccurrence_of_afterFirst? hr
    exact .inl ⟨u, r, hu, hu.beforeFirst_eq⟩
  · exact .inr ⟨h, beforeFirst_eq_self h⟩

theorem beforeFirst_isPrefix (pattern cs : List Char) : beforeFirst pattern cs <+: cs := by
  rcases beforeFirst_cases pattern cs with ⟨u, r, hu, heq⟩ | ⟨-, heq⟩
  · exact ⟨pattern ++ r, by rw [heq, ← occursAt_id_iff.mp hu.occurs]⟩
  · rw [heq]

/-! ## Where a pattern can occur -/

/-- An occurrence does not reach over a character that the pattern does not have. -/
theorem OccursAt.of_append_cons {a b u r : List Char} {c : Char} (hne : pattern ≠ [])
    (hc : c ∉ pattern) (h : OccursAt id pattern (a ++ c :: b) u r) :
    (∃ r', OccursAt id pattern a u r' ∧ r = r' ++ c :: b) ∨
      ∃ u', u = a ++ c :: u' ∧ OccursAt id pattern b u' r := by
  rcases List.append_eq_append_iff.mp (occursAt_id_iff.mp h) with ⟨x, hu, hx⟩ | ⟨x, ha, hx⟩
  · -- the occurrence begins with `c` or later
    cases x with
    | nil =>
      obtain ⟨d, pattern', rfl⟩ := List.exists_cons_of_ne_nil hne
      exact absurd ((List.cons.inj hx).1 ▸ List.mem_cons_self) hc
    | cons d u' =>
      obtain ⟨rfl, hb⟩ := List.cons.inj hx
      exact .inr ⟨u', hu, occursAt_id_iff.mpr hb⟩
  · rcases List.append_eq_append_iff.mp hx with ⟨y, hxy, hr⟩ | ⟨y, hpattern, hcb⟩
    · exact .inl ⟨y, occursAt_id_iff.mpr (ha.trans (congrArg (u ++ ·) hxy)), hr⟩
    · -- the occurrence would have to reach `c`
      cases y with
      | nil =>
        rw [List.append_nil] at hpattern
        refine .inl ⟨[], occursAt_id_iff.mpr ?_, hcb.symm⟩
        rw [List.append_nil, hpattern]
        exact ha
      | cons d y =>
        obtain ⟨rfl, -⟩ := List.cons.inj hcb
        exact absurd (hpattern ▸ List.mem_append_right x List.mem_cons_self) hc

/-- Before a text without the pattern ends, no occurrence does. -/
theorem OccursAt.length_lt {a b u r : List Char} (ha : ¬ pattern <:+: a)
    (h : OccursAt id pattern (a ++ b) u r) : a.length < u.length + pattern.length := by
  by_contra hlen
  have hcs := occursAt_id_iff.mp h
  rw [← List.append_assoc] at hcs
  have hle : (u ++ pattern).length ≤ a.length := by
    rw [List.length_append]
    omega
  have hcut : u ++ pattern <+: a :=
    List.prefix_of_prefix_length_le ⟨r, hcs.symm⟩ (List.prefix_append a b) hle
  exact ha ((List.suffix_append u pattern).isInfix.trans hcut.isInfix)

end Draftsman.Text
