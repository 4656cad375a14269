/-
The words of a participant's name.

A name may join its words by capitals, by gaps, or by both in turn. The splitter reads it character
by character and remembers whether the last one was a small letter. A word of two or more small
letters leaves that flag set, whether it begins with a capital or not, so a capital behind it always
begins a new word and a small letter never does; and a gap ends the run, which forgets the flag.
So whatever comes behind one word, that word is split off and the rest is read as if it stood alone
(`nameWords_append_capital`, `nameWords_append_gap`), and a name gives back the words that it joins,
one by one. What the participant is drawn as follows from the words alone (`keyword_of_joins`).
-/
import Draftsman.Markup.SequenceDiagram
import Draftsman.Proofs.Text.Cutting
import Draftsman.Proofs.Text.Plain
import Mathlib.Tactic.SplitIfs

set_option autoImplicit false

namespace Draftsman.Markup

open Draftsman.Text

/-! ## Words and how they are joined -/

/-- A word of two or more small letters of the 26. -/
structure IsSmallWord (w : List Char) : Prop where
  two_le : 2 ≤ w.length
  small : ∀ c ∈ w, c.isLower = true

instance (w : List Char) : Decidable (IsSmallWord w) :=
  decidable_of_iff (2 ≤ w.length ∧ w.all Char.isLower = true)
    ⟨fun h => ⟨h.1, List.all_eq_true.mp h.2⟩, fun h => ⟨h.two_le, List.all_eq_true.mpr h.small⟩⟩

/-- The word with a capital. -/
def withCapital : List Char → List Char
  | [] => []
  | c :: cs => c.toUpper :: cs

/-- The word with a capital or without. -/
def IsSpelling (w spelling : List Char) : Prop := spelling = w ∨ spelling = withCapital w

/-- The characters that may stand between two words. -/
def gapMarks : List Char := [' ', '-', '_', '.']

/-- What follows a word of a name: each next word either has a capital and stands right behind the
word before it, or it stands, in either spelling, behind a gap. -/
inductive GoesOn : List (List Char) → List Char → Prop
  | done : GoesOn [] []
  | hump {w rest : List Char} {ws : List (List Char)} (hrest : GoesOn ws rest) :
      GoesOn (w :: ws) (withCapital w ++ rest)
  | gap {gap w spelling rest : List Char} {ws : List (List Char)} (hne : gap ≠ [])
      (hgap : ∀ c ∈ gap, c ∈ gapMarks) (hspelling : IsSpelling w spelling)
      (hrest : GoesOn ws rest) : GoesOn (w :: ws) (gap ++ (spelling ++ rest))

/-- A name that joins one or more words in their order. -/
inductive Joins : List (List Char) → List Char → Prop
  | intro {w spelling rest : List Char} {ws : List (List Char)} (hspelling : IsSpelling w spelling)
      (hrest : GoesOn ws rest) : Joins (w :: ws) (spelling ++ rest)

/-! ## Spellings of a word -/

section Spellings

variable {w spelling : List Char} (hw : IsSmallWord w) (hspelling : IsSpelling w spelling)
include hw

/-- A word is its first letter and at least one more. -/
theorem IsSmallWord.exists_cons :
    ∃ c cs, w = c :: cs ∧ cs ≠ [] ∧ c.isLower = true ∧ ∀ d ∈ cs, d.isLower = true := by
  have hlength := hw.two_le
  cases w with
  | nil =>
    simp only [List.length_nil] at hlength
    omega
  | cons c cs =>
    obtain ⟨hc, hcs⟩ := List.forall_mem_cons.mp hw.small
    refine ⟨c, cs, rfl, ?_, hc, hcs⟩
    rintro rfl
    simp only [List.length_cons, List.length_nil] at hlength
    omega

theorem IsSmallWord.withCapital_eq :
    ∃ c cs, withCapital w = c :: cs ∧ c.isUpper = true := by
  obtain ⟨c, cs, rfl, -, hc, -⟩ := hw.exists_cons
  exact ⟨c.toUpper, cs, rfl, isUpper_toUpper hc⟩

include hspelling

theorem IsSpelling.isAlphanum : ∀ c ∈ spelling, c.isAlphanum = true := by
  rcases hspelling with rfl | rfl
  · intro c hc
    exact isAlphanum_of_isLower (hw.small c hc)
  · obtain ⟨c, cs, rfl, -, hc, hcs⟩ := hw.exists_cons
    refine List.forall_mem_cons.mpr ⟨isAlphanum_of_isUpper (isUpper_toUpper hc), ?_⟩
    intro d hd
    exact isAlphanum_of_isLower (hcs d hd)

theorem IsSpelling.isAlphanumeric : ∀ c ∈ spelling, isAlphanumeric c = true := by
  intro c hc
  exact isAlphanumeric_of_isAlphanum (hspelling.isAlphanum hw c hc)

theorem IsSpelling.ne_nil : spelling ≠ [] := by
  obtain ⟨c, cs, rfl, -, -, -⟩ := hw.exists_cons
  rcases hspelling with rfl | rfl
  · exact List.cons_ne_nil c cs
  · exact List.cons_ne_nil c.toUpper cs

/-- In small letters either spelling is the word. -/
theorem IsSpelling.lowerChars_eq : lowerChars spelling = w := by
  have hplain : ∀ c ∈ spelling, isPlain c = true := by
    intro c hc
    exact isPlain_of_isAlphanum (hspelling.isAlphanum hw c hc)
  have hword := lowerChars_of_isLower hw.small
  rcases hspelling with rfl | rfl
  · exact hword
  · -- letter by letter, only the first one is changed, and changed back
    rw [lowerChars_of_isPlain fun c hc => isPlain_of_isLower (hw.small c hc)] at hword
    rw [lowerChars_of_isPlain hplain]
    obtain ⟨c, cs, rfl, -, hc, -⟩ := hw.exists_cons
    rw [withCapital, List.map_cons, toLower_toUpper hc, (List.cons.inj hword).2]

end Spellings

/-! ## Humps -/

theorem humps_ne_nil (afterLower : Bool) (cs : List Char) : humps afterLower cs ≠ [] := by
  cases cs with
  | nil => exact List.cons_ne_nil _ _
  | cons c cs =>
    rw [humps]
    split
    · exact List.cons_ne_nil _ _
    · split_ifs
      · exact List.cons_ne_nil _ _
      · exact List.cons_ne_nil _ _

/-- A character joins the hump behind it, and a capital behind a small letter begins one. -/
theorem humps_cons (afterLower : Bool) (c : Char) (cs : List Char) :
    humps afterLower (c :: cs) =
      (if isUppercase c && afterLower then [[]] else []) ++
        (humps (isLowercase c || isPlainDigit c) cs).modifyHead (c :: ·) := by
  rw [humps]
  split
  · rename_i hnone
    exact absurd hnone (humps_ne_nil _ cs)
  · rename_i hump rest hhumps
    rw [hhumps]
    split_ifs
    · rfl
    · rfl

/-- Small letters join the hump that they are in, and leave the flag set for what follows. -/
theorem humps_small {cs : List Char} (hne : cs ≠ []) (hcs : ∀ c ∈ cs, c.isLower = true)
    (afterLower : Bool) (rest : List Char) :
    humps afterLower (cs ++ rest) = (humps true rest).modifyHead (cs ++ ·) := by
  induction cs generalizing afterLower with
  | nil => exact absurd rfl hne
  | cons c cs ih =>
    obtain ⟨hc, htail⟩ := List.forall_mem_cons.mp hcs
    rw [List.cons_append, humps_cons, not_isUppercase_of_isLower hc, isLowercase_of_isLower hc,
      Bool.true_or, Bool.false_and, if_neg Bool.false_ne_true, List.nil_append]
    by_cases hlast : cs = []
    · rw [hlast, List.nil_append]
      rfl
    · rw [ih hlast htail, List.modifyHead_modifyHead]
      rfl

/-- **A word is a hump, or the beginning of one**, in either spelling, and leaves the flag set. -/
theorem humps_spelling {w spelling : List Char} (hw : IsSmallWord w)
    (hspelling : IsSpelling w spelling) (rest : List Char) :
    humps false (spelling ++ rest) = (humps true rest).modifyHead (spelling ++ ·) := by
  rcases hspelling with rfl | rfl
  · obtain ⟨c, cs, rfl, -, -, -⟩ := hw.exists_cons
    exact humps_small (List.cons_ne_nil c cs) hw.small false rest
  · -- the capital does not set the flag, but the letter behind it does
    obtain ⟨c, cs, rfl, hne, -, hcs⟩ := hw.exists_cons
    rw [withCapital, List.cons_append, humps_cons, Bool.and_false, if_neg Bool.false_ne_true,
      List.nil_append, humps_small hne hcs, List.modifyHead_modifyHead]
    rfl

/-- A capital behind a small letter begins a hump, which is read as if it stood alone. -/
theorem humps_capital {c : Char} (hc : c.isUpper = true) (cs : List Char) :
    humps true (c :: cs) = [] :: humps false (c :: cs) := by
  rw [humps_cons, humps_cons, isUppercase_of_isUpper hc]
  rfl

/-! ## Runs and gaps -/

/-- A run of letters and digits is cut into its humps only. -/
theorem nameWords_run {run : List Char} (hne : run ≠ [])
    (hrun : ∀ c ∈ run, isAlphanumeric c = true) :
    nameWords (String.ofList run) = (humps false run).map lowerChars := by
  have hpieces : run.splitOnP (fun c => !isAlphanumeric c) = [run] := by
    apply List.splitOnP_eq_singleton
    intro c hc
    rw [hrun c hc, Bool.not_true]
  have hkept : [run].filter (fun run => !run.isEmpty) = [run] := by simpa using hne
  rw [nameWords, String.toList_ofList, hpieces, hkept, List.flatMap_singleton]

/-- What is neither a letter nor a digit parts two names. -/
theorem nameWords_append_cons {c : Char} (hc : isAlphanumeric c = false) (a b : List Char) :
    nameWords (String.ofList (a ++ c :: b)) =
      nameWords (String.ofList a) ++ nameWords (String.ofList b) := by
  have hpieces := List.splitOnP_append_cons (p := fun c => !isAlphanumeric c) a b
    (by rw [hc, Bool.not_false])
  simp only [nameWords, String.toList_ofList]
  rw [hpieces, List.filter_append, List.flatMap_append]

theorem not_isAlphanumeric_of_mem_gapMarks {c : Char} (hc : c ∈ gapMarks) :
    isAlphanumeric c = false := by
  have hmarks : ∀ c ∈ gapMarks, isAlphanumeric c = false := forall_mem_of_all (by decide)
  exact hmarks c hc

theorem nameWords_gap_append {gap : List Char} (hgap : ∀ c ∈ gap, c ∈ gapMarks)
    (rest : List Char) :
    nameWords (String.ofList (gap ++ rest)) = nameWords (String.ofList rest) := by
  induction gap with
  | nil => rfl
  | cons c gap ih =>
    obtain ⟨hc, htail⟩ := List.forall_mem_cons.mp hgap
    have hnone : nameWords (String.ofList []) = [] := by decide
    rw [List.cons_append, ← List.nil_append (c :: (gap ++ rest)),
      nameWords_append_cons (not_isAlphanumeric_of_mem_gapMarks hc), hnone, List.nil_append]
    exact ih htail

/-! ## One word after the other -/

section Splitting

variable {w spelling : List Char} (hw : IsSmallWord w) (hspelling : IsSpelling w spelling)
include hw hspelling

theorem nameWords_spelling : nameWords (String.ofList spelling) = [w] := by
  have hhumps := humps_spelling hw hspelling []
  rw [List.append_nil] at hhumps
  rw [nameWords_run (hspelling.ne_nil hw) (hspelling.isAlphanumeric hw), hhumps]
  show [lowerChars (spelling ++ [])] = [w]
  rw [List.append_nil, hspelling.lowerChars_eq hw]

/-- **A capital behind a word begins the next one.** -/
theorem nameWords_append_capital {c : Char} (hc : c.isUpper = true) (cs : List Char) :
    nameWords (String.ofList (spelling ++ c :: cs)) = w :: nameWords (String.ofList (c :: cs)) := by
  -- the run that the capital is in, and what follows it
  obtain ⟨run, rest, hsplit, hrun, hrest⟩ := exists_cut isAlphanumeric (c :: cs)
  have hcapital : ∃ more, run = c :: more := by
    cases run with
    | nil =>
      rw [List.nil_append] at hsplit
      have hnot := hrest c (by rw [← hsplit]; rfl)
      rw [isAlphanumeric_of_isAlphanum (isAlphanum_of_isUpper hc)] at hnot
      exact absurd hnot.symm Bool.false_ne_true
    | cons d more => exact ⟨more, by rw [(List.cons.inj hsplit).1]⟩
  obtain ⟨more, rfl⟩ := hcapital
  have hwhole : ∀ d ∈ spelling ++ c :: more, isAlphanumeric d = true := by
    intro d hd
    rcases List.mem_append.mp hd with hd | hd
    · exact hspelling.isAlphanumeric hw d hd
    · exact hrun d hd
  have hword : nameWords (String.ofList (spelling ++ c :: more)) =
      w :: nameWords (String.ofList (c :: more)) := by
    rw [nameWords_run (List.append_ne_nil_of_right_ne_nil _ (List.cons_ne_nil c more)) hwhole,
      nameWords_run (List.cons_ne_nil c more) hrun, humps_spelling hw hspelling, humps_capital hc,
      List.modifyHead_cons, List.append_nil, List.map_cons, hspelling.lowerChars_eq hw]
  rw [hsplit]
  cases rest with
  | nil => rw [List.append_nil, hword]
  | cons d rest =>
    have hd : isAlphanumeric d = false := hrest d rfl
    rw [← List.append_assoc, nameWords_append_cons hd, nameWords_append_cons hd, hword]
    rfl

/-- **A gap behind a word ends it.** -/
theorem nameWords_append_gap {gap : List Char} (hne : gap ≠ []) (hgap : ∀ c ∈ gap, c ∈ gapMarks)
    (rest : List Char) :
    nameWords (String.ofList (spelling ++ (gap ++ rest))) = w :: nameWords (String.ofList rest) := by
  obtain ⟨c, gap, rfl⟩ := List.exists_cons_of_ne_nil hne
  obtain ⟨hc, htail⟩ := List.forall_mem_cons.mp hgap
  rw [List.cons_append, nameWords_append_cons (not_isAlphanumeric_of_mem_gapMarks hc),
    nameWords_spelling hw hspelling, nameWords_gap_append htail]
  rfl

end Splitting

/-- **The words behind a word are read one by one**, in whatever way they are joined. The induction
is on the words that are left; the word in front of them is any word in any spelling. -/
theorem GoesOn.nameWords_eq {ws : List (List Char)} {rest : List Char} (h : GoesOn ws rest)
    (hws : ∀ w ∈ ws, IsSmallWord w) {w spelling : List Char} (hw : IsSmallWord w)
    (hspelling : IsSpelling w spelling) :
    nameWords (String.ofList (spelling ++ rest)) = w :: ws := by
  induction h generalizing w spelling with
  | done => rw [List.append_nil, nameWords_spelling hw hspelling]
  | @hump next rest ws _ ih =>
    obtain ⟨hnext, hlater⟩ := List.forall_mem_cons.mp hws
    have htail := ih hlater hnext (.inr rfl)
    obtain ⟨c, cs, hcapital, hc⟩ := hnext.withCapital_eq
    rw [hcapital, List.cons_append] at htail ⊢
    rw [nameWords_append_capital hw hspelling hc, htail]
  | @gap gap next spelling' rest ws hne hgap hspelling' _ ih =>
    obtain ⟨hnext, hlater⟩ := List.forall_mem_cons.mp hws
    rw [nameWords_append_gap hw hspelling hne hgap, ih hlater hnext hspelling']

theorem Joins.nameWords_eq {ws : List (List Char)} {name : String} (h : Joins ws name.toList)
    (hws : ∀ w ∈ ws, IsSmallWord w) : nameWords name = ws := by
  rw [← String.ofList_toList (s := name)]
  generalize name.toList = cs at h ⊢
  cases h with
  | @intro w spelling rest ws hspelling hrest =>
    obtain ⟨hw, hlater⟩ := List.forall_mem_cons.mp hws
    exact hrest.nameWords_eq hlater hw hspelling

/-! ## Keywords -/

theorem anyIn_iff {vocabulary : List String} {ws : List (List Char)} :
    anyIn vocabulary ws = true ↔ ∃ w ∈ ws, String.ofList w ∈ vocabulary := by
  rw [anyIn, List.any_eq_true]
  simp only [List.contains_iff_mem]

/-- The keyword of a participant by the words of its name. -/
theorem keyword_role (name : String) :
    (role name).keyword =
      if ∃ w ∈ nameWords name, String.ofList w ∈ dataStores then "database"
      else if ∃ w ∈ nameWords name, String.ofList w ∈ people then "actor"
      else "participant" := by
  simp only [role, anyIn_iff]
  split_ifs
  · rfl
  · rfl
  · rfl

/-- A declaration begins with the keyword. -/
theorem keyword_prefix_line (name : String) :
    (role name).keyword.toList ++ [' '] <+: (participantStatement name).line := by
  rw [participantStatement]
  split_ifs
  · exact ⟨tidy name, by rw [SequenceStatement.line, List.append_assoc]; rfl⟩
  · exact ⟨enquote (tidy name) ++ " as ".toList ++ aliasOf name, by
      rw [SequenceStatement.line, List.append_assoc]; rfl⟩

/-- **A name gives back the words that it joins**, in whatever mix of capitals and gaps, and they
decide about its keyword: a participant is declared as a database if one of the words is a place
that keeps data, otherwise as an actor if one of them is a word for people, and otherwise as a
participant. -/
theorem keyword_of_joins {ws : List (List Char)} {name : String}
    (hwords : ∀ w ∈ ws, IsSmallWord w) (hjoins : Joins ws name.toList) :
    nameWords name = ws ∧
      (role name).keyword =
        (if ∃ w ∈ ws, String.ofList w ∈ dataStores then "database"
          else if ∃ w ∈ ws, String.ofList w ∈ people then "actor"
          else "participant") ∧
      (role name).keyword.toList ++ [' '] <+: (participantStatement name).line := by
  have hname := hjoins.nameWords_eq hwords
  refine ⟨hname, ?_, keyword_prefix_line name⟩
  rw [keyword_role, hname]

/-- A capital behind a word, and a gap of two marks in front of another capital. The place that
keeps data decides, although the first two words are for people. -/
theorem keyword_of_admin_user_repo :
    let ws := ["admin".toList, "user".toList, "repo".toList]
    (∀ w ∈ ws, IsSmallWord w) ∧ Joins ws "adminUser -Repo".toList ∧
      nameWords "adminUser -Repo" = ws ∧ (role "adminUser -Repo").keyword = "database" ∧
      "database ".toList <+: (participantStatement "adminUser -Repo").line := by
  intro ws
  have hwords : ∀ w ∈ ws, IsSmallWord w := by decide
  have hjoins : Joins ws ("admin".toList ++ (withCapital "user".toList ++
      ([' ', '-'] ++ (withCapital "repo".toList ++ [])))) :=
    .intro (.inl rfl) (.hump (.gap (by decide) (forall_mem_of_all (by decide)) (.inr rfl) .done))
  obtain ⟨hnames, hkeyword, hline⟩ := @keyword_of_joins ws "adminUser -Repo" hwords hjoins
  have hdatabase : (role "adminUser -Repo").keyword = "database" := hkeyword.trans (by decide)
  rw [hdatabase] at hline
  exact ⟨hwords, hjoins, hnames, hdatabase, hline⟩

end Draftsman.Markup
