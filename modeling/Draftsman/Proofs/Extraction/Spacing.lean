/-
Texts that differ in their blanks.

The words of a sentence are the same however they are spaced, but quantifiers and names are searched
for in the sentence as it is written, and a name is searched for with single spaces between its
words. Two spacings of the same characters are therefore called alike (`SpacedAlike`) if they agree
in two things: which characters are written together, and between which neighbouring words of a name
there is a single space. Next to a plain mark neither matters, since comparison without case takes
no part of a word for a mark (`foldChar_ne_of_isMark`). The relation can be computed from the gaps
in front of the characters (`spacedAlike_iff`).
-/
import Draftsman.Proofs.Prose.Splitting
import Draftsman.Proofs.Text.Plain

set_option autoImplicit false

namespace Draftsman.Extraction

open Draftsman.Text Draftsman.Prose

/-! ## Comparison without case -/

/-- A plain character that is no part of a word and no blank. -/
def isMark (c : Char) : Bool := isPlain c && isBreak c && !isBlank c

/-- The images of the run are characters, and of the first 128 only small letters. -/
def avoidsMarks (run : CaseRun) : Bool :=
  let last := run.image + (run.last - run.first)
  (128 ≤ run.image || 97 ≤ run.image && last ≤ 122)
    && (last < 0xD800 || 0xE000 ≤ run.image && last < 0x110000)

/-- A common form that is not the character itself is no blank and no mark. -/
theorem foldChar_cases (c : Char) :
    foldChar c = c ∨ isBlank (foldChar c) = false ∧ isMark (foldChar c) = false := by
  have hletter {d : Char} (hd : 97 ≤ d.toNat ∧ d.toNat ≤ 122) :
      isBlank d = false ∧ isMark d = false := by
    have hplain : isPlain d = true := decide_eq_true (Nat.lt_of_le_of_lt hd.2 (by decide))
    have hcheck := forall_isPlain
      (P := fun d => !(97 ≤ d.toNat && d.toNat ≤ 122) || (!isBlank d && !isMark d)) (by decide)
      hplain
    simpa [hd.1, hd.2] using hcheck
  unfold foldChar
  split_ifs with hplain
  · exact (toLower_cases c).imp id hletter
  unfold applyRuns
  split
  · rename_i code hcode
    obtain ⟨run, hrun, happly⟩ := List.exists_of_findSome?_eq_some hcode
    have hruns : ∀ run ∈ foldingRuns, run.avoidsBlanks = true ∧ avoidsMarks run = true := by
      decide +kernel
    obtain ⟨hblanks, hmarks⟩ := hruns run hrun
    have hbounds := CaseRun.image_bounds happly
    simp only [avoidsMarks, Bool.and_eq_true, Bool.or_eq_true, decide_eq_true_eq] at hmarks
    have hvalid : code.isValidChar := by
      rcases hmarks.2 with hlow | hhigh
      · exact .inl (by omega)
      · exact .inr (by omega)
    have htoNat : (Char.ofNat code).toNat = code := by
      rw [Char.ofNat, dif_pos hvalid]
      rfl
    rcases hmarks.1 with hbeyond | hsmall
    · have hnot : isPlain (Char.ofNat code) = false := by
        rw [isPlain, htoNat]
        exact decide_eq_false (by omega)
      refine .inr ⟨not_isBlank_ofNat (CaseRun.not_mem_blankCodes hblanks happly), ?_⟩
      rw [isMark, hnot]
      rfl
    · exact .inr (hletter (by rw [htoNat]; omega))
  · exact .inl rfl

theorem foldChar_of_isBlank {b : Char} (hb : isBlank b = true) : foldChar b = b := by
  have hblanks := forall_isBlank (P := fun b => foldChar b == b) (by decide +kernel) hb
  exact eq_of_beq hblanks

theorem foldChar_of_isMark {d : Char} (hd : isMark d = true) : foldChar d = d := by
  have hplain : isPlain d = true := (Bool.and_eq_true_iff.mp (Bool.and_eq_true_iff.mp hd).1).1
  have hmarks := forall_isPlain (P := fun d => !isMark d || foldChar d == d) (by decide) hplain
  rw [hd] at hmarks
  simpa using hmarks

/-- No other character is compared as equal to a blank. -/
theorem foldChar_ne_of_isBlank {q b : Char} (hq : isBlank q = false) (hb : isBlank b = true) :
    foldChar q ≠ foldChar b := by
  rw [foldChar_of_isBlank hb]
  rcases foldChar_cases q with hsame | ⟨hblank, -⟩
  · rw [hsame]
    rintro rfl
    exact absurd hb (Bool.eq_false_iff.mp hq)
  · rintro rfl
    exact absurd hb (Bool.eq_false_iff.mp hblank)

/-- No part of a word is compared as equal to a mark. -/
theorem foldChar_ne_of_isMark {q d : Char} (hq : isBreak q = false) (hd : isMark d = true) :
    foldChar q ≠ foldChar d := by
  have hbreak : isBreak d = true := (Bool.and_eq_true_iff.mp (Bool.and_eq_true_iff.mp hd).1).2
  rw [foldChar_of_isMark hd]
  rcases foldChar_cases q with hsame | ⟨-, hmark⟩
  · rw [hsame]
    rintro rfl
    exact absurd hbreak (Bool.eq_false_iff.mp hq)
  · rintro rfl
    exact absurd hd (Bool.eq_false_iff.mp hmark)

theorem not_isBlank_of_not_isBreak {q : Char} (hq : isBreak q = false) : isBlank q = false := by
  by_contra hblank
  rw [isBreak_of_isBlank (Bool.of_not_eq_false hblank)] at hq
  exact Bool.false_ne_true hq.symm

theorem not_isWordMember_of_isBlank {b : Char} (hb : isBlank b = true) :
    isWordMember b = false := by
  by_contra hmember
  rw [not_isBlank_of_isWordMember (Bool.of_not_eq_false hmember)] at hb
  exact Bool.false_ne_true hb

theorem not_isWordMember_of_isMark {d : Char} (hd : isMark d = true) : isWordMember d = false := by
  have hplain : isPlain d = true := (Bool.and_eq_true_iff.mp (Bool.and_eq_true_iff.mp hd).1).1
  have hmarks := forall_isPlain (P := fun d => !isMark d || !isWordMember d) (by decide) hplain
  rw [hd] at hmarks
  simpa using hmarks

/-! ## Spacing -/

/-- The characters of a text that are not blank. -/
def visible (s : List Char) : List Char := s.filter fun c => !isBlank c

/-- The characters around a gap end, in front of it, with the first of two words and begin, behind
it, with the second one, case and other gaps aside. What is in front is given from its end. -/
def Between (pair : List Char × List Char) (before after : List Char) : Prop :=
  pair.1.reverse.map foldChar <+: before.map foldChar ∧ pair.2.map foldChar <+: after.map foldChar

instance (pair : List Char × List Char) (before after : List Char) :
    Decidable (Between pair before after) :=
  inferInstanceAs (Decidable (_ ∧ _))

/-- Two gaps at the same place. At either end of the text and next to a mark they may differ
as they like. Anywhere else both are empty or neither is, and between two words of one of the pairs
both are a single space or neither is. -/
def GapsAgree (pairs : List (List Char × List Char)) (before after gap gap' : List Char) : Prop :=
  before.head?.all isMark = true ∨ after.head?.all isMark = true ∨
    (gap = [] ↔ gap' = []) ∧
      ((∃ pair ∈ pairs, Between pair before after) → (gap = [' '] ↔ gap' = [' ']))

instance (pairs : List (List Char × List Char)) (before after gap gap' : List Char) :
    Decidable (GapsAgree pairs before after gap gap') :=
  inferInstanceAs (Decidable (_ ∨ _ ∨ _ ∧ (_ → _)))

/-- Two texts that hold the same characters behind those of `before` (given from their end), with
gaps that agree in front of each. -/
inductive SpacedAlike (pairs : List (List Char × List Char)) :
    List Char → List Char → List Char → Prop
  | blanks {before s s' : List Char} (hs : ∀ b ∈ s, isBlank b = true)
      (hs' : ∀ b ∈ s', isBlank b = true) : SpacedAlike pairs before s s'
  | char {before gap gap' s s' : List Char} {c : Char} (hgap : ∀ b ∈ gap, isBlank b = true)
      (hgap' : ∀ b ∈ gap', isBlank b = true) (hc : isBlank c = false)
      (hagree : GapsAgree pairs before (c :: visible s) gap gap')
      (h : SpacedAlike pairs (c :: before) s s') :
      SpacedAlike pairs before (gap ++ c :: s) (gap' ++ c :: s')

/-! ### Spacing, computed -/

/-- The characters that are not blank, each with the gap in front of it. -/
def spaced : List Char → List (List Char × Char)
  | [] => []
  | c :: s =>
    if isBlank c then (spaced s).modifyHead fun piece => (c :: piece.1, piece.2)
    else ([], c) :: spaced s

theorem spaced_of_blanks {s : List Char} (hs : ∀ b ∈ s, isBlank b = true) : spaced s = [] := by
  induction s with
  | nil => rfl
  | cons b s ih =>
    rw [spaced, if_pos (hs b List.mem_cons_self), ih fun d hd => hs d (List.mem_cons_of_mem b hd)]
    rfl

theorem spaced_append_cons {gap : List Char} (hgap : ∀ b ∈ gap, isBlank b = true) {c : Char}
    (hc : isBlank c = false) (s : List Char) : spaced (gap ++ c :: s) = (gap, c) :: spaced s := by
  induction gap with
  | nil => rw [List.nil_append, spaced, if_neg (Bool.eq_false_iff.mp hc)]
  | cons b gap ih =>
    rw [List.cons_append, spaced, if_pos (hgap b List.mem_cons_self),
      ih fun d hd => hgap d (List.mem_cons_of_mem b hd)]
    rfl

/-- A text is blank, or has a first character that is not, behind a gap. -/
theorem blanks_or_exists_gap (s : List Char) :
    (∀ b ∈ s, isBlank b = true) ∨ ∃ gap c rest, (∀ b ∈ gap, isBlank b = true) ∧
      isBlank c = false ∧ s = gap ++ c :: rest := by
  induction s with
  | nil => exact .inl fun b hb => absurd hb List.not_mem_nil
  | cons c s ih =>
    cases hc : isBlank c with
    | false => exact .inr ⟨[], c, s, fun b hb => absurd hb List.not_mem_nil, hc, rfl⟩
    | true =>
      rcases ih with hs | ⟨gap, d, rest, hgap, hd, rfl⟩
      · exact .inl fun b hb => (List.mem_cons.mp hb).elim (· ▸ hc) (hs b)
      · exact .inr ⟨c :: gap, d, rest, fun b hb => (List.mem_cons.mp hb).elim (· ▸ hc) (hgap b),
          hd, rfl⟩

/-- `SpacedAlike`, computed. -/
def spacedAlike (pairs : List (List Char × List Char)) (before : List Char) :
    List (List Char × Char) → List (List Char × Char) → Bool
  | [], [] => true
  | (gap, c) :: rest, (gap', c') :: rest' =>
    c == c' && decide (GapsAgree pairs before (c :: rest.map Prod.snd) gap gap')
      && spacedAlike pairs (c :: before) rest rest'
  | _, _ => false

theorem map_snd_spaced (s : List Char) : (spaced s).map Prod.snd = visible s := by
  induction s with
  | nil => rfl
  | cons c s ih =>
    rw [spaced, visible, List.filter_cons]
    split_ifs with hblank hvisible hvisible
    · rw [hblank] at hvisible
      exact absurd hvisible (by decide)
    · rw [← visible, ← ih]
      cases spaced s with
      | nil => rfl
      | cons piece rest => rfl
    · rw [List.map_cons, ih, visible]
    · rw [Bool.eq_false_iff.mpr hblank] at hvisible
      exact absurd rfl hvisible

theorem spacedAlike_iff {pairs : List (List Char × List Char)} {before s s' : List Char} :
    spacedAlike pairs before (spaced s) (spaced s') = true ↔ SpacedAlike pairs before s s' := by
  constructor
  · intro h
    induction hpieces : spaced s generalizing before s s' with
    | nil =>
      rcases blanks_or_exists_gap s with hs | ⟨gap, c, rest, hgap, hc, rfl⟩
      · rcases blanks_or_exists_gap s' with hs' | ⟨gap', c', rest', hgap', hc', rfl⟩
        · exact .blanks hs hs'
        · rw [hpieces, spaced_append_cons hgap' hc'] at h
          exact absurd h Bool.false_ne_true
      · rw [spaced_append_cons hgap hc] at hpieces
        exact absurd hpieces (List.cons_ne_nil _ _)
    | cons piece pieces ih =>
      rcases blanks_or_exists_gap s with hs | ⟨gap, c, rest, hgap, hc, rfl⟩
      · rw [spaced_of_blanks hs] at hpieces
        exact absurd hpieces.symm (List.cons_ne_nil _ _)
      rw [spaced_append_cons hgap hc] at h hpieces
      rcases blanks_or_exists_gap s' with hs' | ⟨gap', c', rest', hgap', hc', rfl⟩
      · rw [spaced_of_blanks hs'] at h
        exact absurd h Bool.false_ne_true
      · rw [spaced_append_cons hgap' hc', spacedAlike, Bool.and_eq_true, Bool.and_eq_true,
          beq_iff_eq, decide_eq_true_iff, map_snd_spaced] at h
        obtain ⟨⟨rfl, hagree⟩, hrest⟩ := h
        exact .char hgap hgap' hc hagree (ih hrest (List.cons.inj hpieces).2)
  · intro h
    induction h with
    | blanks hs hs' =>
      rw [spaced_of_blanks hs, spaced_of_blanks hs']
      rfl
    | char hgap hgap' hc hagree h ih =>
      rw [spaced_append_cons hgap hc, spaced_append_cons hgap' hc, spacedAlike, ih, map_snd_spaced,
        decide_eq_true hagree, beq_self_eq_true]
      rfl

instance (pairs : List (List Char × List Char)) (before s s' : List Char) :
    Decidable (SpacedAlike pairs before s s') :=
  decidable_of_iff _ spacedAlike_iff

end Draftsman.Extraction
