/-
What makes a sentence state a multiplicity.

A pair of quantifiers is read from a sentence if four words stand in it in order: the first
quantifier, the first name, the second quantifier, the second name. That is said here by positions
(`Quantified`), with no search. The search takes the first place where a word stands and goes on
behind it, and never comes back. Nothing is lost by that: all occurrences of a word are equally
long, so the first to begin is the first to end, and what stands in order behind a later one stands
in order behind it as well (`InOrder.mono`, `occurInOrder_iff`).
-/
import Draftsman.Extraction.Multiplicity
import Mathlib.Data.List.Basic
import Mathlib.Tactic.SplitIfs

set_option autoImplicit false

namespace Draftsman.Extraction

open Draftsman.Text

/-! ## Words in a sentence -/

/-- A word boundary at a position: of the characters before and after it exactly one is a member
of a word. -/
def BoundaryAt (sentence : List Char) (i : Nat) : Prop :=
  (sentence.take i).getLast?.any isWordMember ≠ sentence[i]?.any isWordMember

/-- A word stands in a sentence at a position: its characters are found there, case ignored, and
both its ends are at word boundaries. No character of the word has a meaning of its own. -/
structure StandsAt (word sentence : List Char) (i : Nat) : Prop where
  within : i + word.length ≤ sentence.length
  spelled : ((sentence.drop i).take word.length).map foldChar = word.map foldChar
  opens : BoundaryAt sentence i
  closes : BoundaryAt sentence (i + word.length)

/-- Words that stand in a sentence one behind the other, from a position on. -/
def InOrder (sentence : List Char) : Nat → List (List Char) → Prop
  | _, [] => True
  | start, word :: words =>
    ∃ i, start ≤ i ∧ StandsAt word sentence i ∧ InOrder sentence (i + word.length) words

/-- What stands in order from a position on does so from any earlier one. -/
theorem InOrder.mono {sentence : List Char} {words : List (List Char)} {start start' : Nat}
    (hle : start' ≤ start) (h : InOrder sentence start words) : InOrder sentence start' words := by
  cases words with
  | nil => trivial
  | cons word words =>
    obtain ⟨i, hi, hword, hrest⟩ := h
    exact ⟨i, Nat.le_trans hle hi, hword, hrest⟩

/-! ## The search -/

/-- The place at a position of a sentence. -/
def placeAt (sentence : List Char) (i : Nat) : Place :=
  ⟨(sentence.take i).getLast?, sentence.drop i⟩

theorem isBoundary_placeAt {sentence : List Char} {i : Nat} :
    (placeAt sentence i).isBoundary = true ↔ BoundaryAt sentence i := by
  rw [Place.isBoundary, placeAt, atBoundary, List.head?_drop, bne_iff_ne, BoundaryAt]

theorem placeAt_succ {sentence : List Char} {i : Nat} (hi : i < sentence.length) :
    placeAt sentence (i + 1) = ⟨some sentence[i], sentence.drop (i + 1)⟩ := by
  rw [placeAt, List.take_succ_eq_append_getElem hi, List.getLast?_concat]

theorem placeAt_of_lt {sentence : List Char} {i : Nat} (hi : i < sentence.length) :
    (placeAt sentence i).after = sentence[i] :: sentence.drop (i + 1) :=
  List.drop_eq_getElem_cons hi

/-- Going past a word means that it is spelled there. -/
theorem skip?_eq_some_iff {word sentence : List Char} {i : Nat} (hi : i ≤ sentence.length)
    {p : Place} :
    Place.skip? (placeAt sentence i).before word (placeAt sentence i).after = some p ↔
      i + word.length ≤ sentence.length ∧
        ((sentence.drop i).take word.length).map foldChar = word.map foldChar ∧
        p = placeAt sentence (i + word.length) := by
  induction word generalizing i with
  | nil =>
    rw [Place.skip?, Option.some.injEq]
    exact ⟨fun h => ⟨hi, rfl, h.symm⟩, fun h => h.2.2.symm⟩
  | cons c word ih =>
    rcases Nat.lt_or_eq_of_le hi with hlt | rfl
    · have ih := ih (Nat.succ_le_of_lt hlt)
      rw [placeAt_succ hlt] at ih
      rw [placeAt_of_lt hlt, Place.skip?, List.drop_eq_getElem_cons hlt, List.length_cons,
        List.take_succ_cons, List.map_cons, List.map_cons, List.cons.injEq,
        show i + (word.length + 1) = i + 1 + word.length by omega]
      split_ifs with hfold
      · rw [ih, and_iff_right (eq_of_beq hfold).symm]
      · exact iff_of_false (by simp) fun h => hfold (beq_iff_eq.mpr h.2.1.1.symm)
    · -- the sentence is at its end
      rw [show (placeAt sentence sentence.length).after = [] from List.drop_length, Place.skip?]
      refine iff_of_false (by simp) fun h => absurd h.1 ?_
      rw [List.length_cons]
      omega

theorem word?_eq_some_iff {word sentence : List Char} {i : Nat} (hi : i ≤ sentence.length)
    {p : Place} :
    Place.word? word (placeAt sentence i) = some p ↔
      StandsAt word sentence i ∧ p = placeAt sentence (i + word.length) := by
  unfold Place.word?
  split_ifs with hopens
  · rw [Option.filter_eq_some_iff, skip?_eq_some_iff hi]
    constructor
    · rintro ⟨⟨hwithin, hspelled, rfl⟩, hcloses⟩
      exact ⟨⟨hwithin, hspelled, isBoundary_placeAt.mp hopens, isBoundary_placeAt.mp hcloses⟩, rfl⟩
    · rintro ⟨h, rfl⟩
      exact ⟨⟨h.within, h.spelled, rfl⟩, isBoundary_placeAt.mpr h.closes⟩
  · exact iff_of_false (by simp) fun h => hopens (isBoundary_placeAt.mpr h.1.opens)

theorem word?_eq_none_iff {word sentence : List Char} {i : Nat} (hi : i ≤ sentence.length) :
    Place.word? word (placeAt sentence i) = none ↔ ¬StandsAt word sentence i := by
  rw [Option.eq_none_iff_forall_ne_some]
  constructor
  · exact fun h hstands => h _ ((word?_eq_some_iff hi).mpr ⟨hstands, rfl⟩)
  · exact fun h p hp => h ((word?_eq_some_iff hi).mp hp).1

/-- **The search finds the first place where a word stands**, and goes on behind it; it finds none
only where there is none. -/
theorem firstWord?_cases (word : List Char) {sentence : List Char} {start : Nat}
    (hstart : start ≤ sentence.length) :
    (∃ i, start ≤ i ∧ StandsAt word sentence i ∧
        (∀ j, start ≤ j → StandsAt word sentence j → i ≤ j) ∧
        firstWord? word (placeAt sentence start).before (placeAt sentence start).after =
          some (placeAt sentence (i + word.length))) ∨
      (∀ i, start ≤ i → ¬StandsAt word sentence i) ∧
        firstWord? word (placeAt sentence start).before (placeAt sentence start).after = none := by
  -- the induction is on what is left of the sentence
  induction hleft : sentence.length - start generalizing start with
  | zero =>
    obtain rfl : start = sentence.length := by omega
    have hfirst : firstWord? word (placeAt sentence sentence.length).before
        (placeAt sentence sentence.length).after =
          Place.word? word (placeAt sentence sentence.length) := by
      simp only [placeAt, List.drop_length, firstWord?]
    rw [hfirst]
    cases hword : Place.word? word (placeAt sentence sentence.length) with
    | some p =>
      obtain ⟨hstands, rfl⟩ := (word?_eq_some_iff hstart).mp hword
      exact .inl ⟨sentence.length, hstart, hstands, fun j hj _ => hj, rfl⟩
    | none =>
      refine .inr ⟨fun i hi hstands => ?_, rfl⟩
      have hwithin := hstands.within
      obtain rfl : i = sentence.length := by omega
      exact (word?_eq_none_iff hstart).mp hword hstands
  | succ left ih =>
    have hlt : start < sentence.length := by omega
    have hstep : firstWord? word (placeAt sentence start).before (placeAt sentence start).after =
        (Place.word? word (placeAt sentence start) <|>
          firstWord? word (placeAt sentence (start + 1)).before
            (placeAt sentence (start + 1)).after) := by
      rw [placeAt_succ hlt, placeAt_of_lt hlt, firstWord?, ← placeAt_of_lt hlt]
    rw [hstep]
    cases hword : Place.word? word (placeAt sentence start) with
    | some p =>
      obtain ⟨hstands, rfl⟩ := (word?_eq_some_iff hstart).mp hword
      exact .inl ⟨start, Nat.le_refl _, hstands, fun j hj _ => hj, rfl⟩
    | none =>
      have hnone := (word?_eq_none_iff hstart).mp hword
      have hlater {j : Nat} (hj : start ≤ j) (hstands : StandsAt word sentence j) :
          start + 1 ≤ j := by
        rcases Nat.lt_or_eq_of_le hj with hj | rfl
        · exact hj
        · exact absurd hstands hnone
      rcases ih (Nat.succ_le_of_lt hlt) (by omega) with
        ⟨i, hi, hstands, hfirst, hsearch⟩ | ⟨h, hsearch⟩
      · exact .inl ⟨i, by omega, hstands, fun j hj hj' => hfirst j (hlater hj hj') hj', hsearch⟩
      · exact .inr ⟨fun i hi hstands => h i (hlater hi hstands) hstands, hsearch⟩

/-- **Words are found in order exactly if they stand in order.** -/
theorem occurInOrder_iff {words : List (List Char)} {sentence : List Char} {start : Nat}
    (hstart : start ≤ sentence.length) :
    occurInOrder words (placeAt sentence start) = true ↔ InOrder sentence start words := by
  induction words generalizing start with
  | nil => exact iff_of_true rfl trivial
  | cons word words ih =>
    rw [occurInOrder]
    rcases firstWord?_cases word hstart with ⟨i, hi, hstands, hfirst, hsearch⟩ | ⟨hnone, hsearch⟩
    · rw [hsearch]
      show occurInOrder words (placeAt sentence (i + word.length)) = true ↔ _
      rw [ih hstands.within]
      constructor
      · exact fun hrest => ⟨i, hi, hstands, hrest⟩
      · rintro ⟨j, hj, hstands', hrest⟩
        -- the first occurrence is the first to end
        exact hrest.mono (Nat.add_le_add_right (hfirst j hj hstands') _)
    · rw [hsearch]
      exact iff_of_false Bool.false_ne_true fun ⟨i, hi, hstands, _⟩ => hnone i hi hstands

/-! ## Quantifiers -/

/-- The sentence holds, one behind the other, the first quantifier, the name of the source, the
second quantifier and the name of the target. -/
def Quantified (first source second target sentence : List Char) : Prop :=
  ∃ i j k l, StandsAt first sentence i ∧ StandsAt source sentence j ∧
    StandsAt second sentence k ∧ StandsAt target sentence l ∧
    i + first.length ≤ j ∧ j + source.length ≤ k ∧ k + second.length ≤ l

theorem occurInOrder_iff_quantified {first source second target sentence : List Char} :
    occurInOrder [first, source, second, target] ⟨none, sentence⟩ = true ↔
      Quantified first source second target sentence := by
  have hfront : (⟨none, sentence⟩ : Place) = placeAt sentence 0 := rfl
  rw [hfront, occurInOrder_iff (Nat.zero_le _)]
  constructor
  · rintro ⟨i, -, hi, j, hij, hj, k, hjk, hk, l, hkl, hl, -⟩
    exact ⟨i, j, k, l, hi, hj, hk, hl, hij, hjk, hkl⟩
  · rintro ⟨i, j, k, l, hi, hj, hk, hl, hij, hjk, hkl⟩
    exact ⟨i, Nat.zero_le i, hi, j, hij, hj, k, hjk, hk, l, hkl, hl, trivial⟩

/-- The pairs of quantifiers, in the order in which they are tried. -/
def quantifiers : List (String × String) :=
  [("one", "many"), ("many", "one"), ("many", "many"), ("each", "multiple"), ("single", "multiple")]

/-- What a pair of quantifiers says. -/
def statedKind : String × String → RelationshipKind
  | ("many", "one") => .manyToOne
  | ("many", "many") => .manyToMany
  | _ => .oneToMany

theorem quantifierPairs_eq :
    quantifierPairs = quantifiers.map fun pair => (pair.1, pair.2, statedKind pair) := by
  decide

theorem multiplicity?_eq_findSome? (sentence source target : List Char) :
    multiplicity? sentence source target = quantifiers.findSome? fun pair =>
      if occurInOrder [pair.1.toList, source, pair.2.toList, target] ⟨none, sentence⟩ then
        some (statedKind pair)
      else none := by
  rw [multiplicity?, quantifierPairs_eq, List.findSome?_map]
  rfl

/-- **The first pair of quantifiers that a sentence states decides the multiplicity.** A pair is
stated if its two words stand in the sentence around the names, in the order quantifier, source,
quantifier, target and without overlap, each at word boundaries and case ignored. There is no
multiplicity exactly if no pair is stated. -/
theorem multiplicity_of_first_stated_pair (sentence source target : List Char) :
    (∀ kind, multiplicity? sentence source target = some kind ↔
      ∃ before pair after, quantifiers = before ++ pair :: after ∧ kind = statedKind pair ∧
        Quantified pair.1.toList source pair.2.toList target sentence ∧
        ∀ other ∈ before, ¬Quantified other.1.toList source other.2.toList target sentence) ∧
      (multiplicity? sentence source target = none ↔
        ∀ pair ∈ quantifiers, ¬Quantified pair.1.toList source pair.2.toList target sentence) := by
  have hsome (pair : String × String) (kind : RelationshipKind) :
      (if occurInOrder [pair.1.toList, source, pair.2.toList, target] ⟨none, sentence⟩ = true then
        some (statedKind pair) else none) = some kind ↔
        kind = statedKind pair ∧ Quantified pair.1.toList source pair.2.toList target sentence := by
    rw [← occurInOrder_iff_quantified]
    split_ifs with h
    · rw [Option.some.injEq, eq_comm, and_iff_left h]
    · exact iff_of_false (by simp) fun hpair => h hpair.2
  have hnone (pair : String × String) :
      (if occurInOrder [pair.1.toList, source, pair.2.toList, target] ⟨none, sentence⟩ = true then
        some (statedKind pair) else none) = none ↔
        ¬Quantified pair.1.toList source pair.2.toList target sentence := by
    rw [← occurInOrder_iff_quantified]
    split_ifs with h
    · exact iff_of_false (by simp) (not_not_intro h)
    · exact iff_of_true rfl h
  rw [multiplicity?_eq_findSome?]
  constructor
  · intro kind
    rw [List.findSome?_eq_some_iff]
    simp only [hsome, hnone, and_assoc]
  · simp only [List.findSome?_eq_none_iff, hnone]

/-- Two pairs are stated, and the one that is tried first is found behind a quantifier, a name in
capitals and a plural that do not count. -/
example : multiplicity? "Many many-sided ORDERS, one Order or other, hold many Line Items".toList
    "Order".toList "Line Items".toList = some .oneToMany := by
  decide +kernel

end Draftsman.Extraction
