/-
The search for quantifiers in texts that are spaced alike.

The two searches go side by side. A pattern begins with a part of a word, so neither search stops in
a gap; and at a character that both have reached both go on or both fail (`skip?_word`,
`skip?_words`). Where they stop, the same characters are behind them and texts that are spaced alike
are in front of them, which is what the next pattern needs: `SameOutcome` is the invariant of the
search for one pattern (`firstWord?_phrase`) and of the search for all of them (`occurInOrder_eq`).
-/
import Draftsman.Extraction.Multiplicity
import Draftsman.Proofs.Extraction.Spacing

set_option autoImplicit false

namespace Draftsman.Extraction

open Draftsman.Text Draftsman.Prose

/-! ## Where the search goes on -/

/-- A word of a name or a quantifier: not empty, and without a break. -/
structure OneWord (w : List Char) : Prop where
  ne_nil : w ≠ []
  not_isBreak : ∀ c ∈ w, isBreak c = false

theorem skip?_cons_of_eq {q c : Char} (h : foldChar q = foldChar c) (e : Option Char)
    (pattern s : List Char) :
    Place.skip? e (q :: pattern) (c :: s) = Place.skip? (some c) pattern s := by
  rw [Place.skip?, if_pos (beq_iff_eq.mpr h)]

theorem skip?_cons_of_ne {q c : Char} (h : foldChar q ≠ foldChar c) (e : Option Char)
    (pattern s : List Char) : Place.skip? e (q :: pattern) (c :: s) = none := by
  rw [Place.skip?, if_neg (by simpa using h)]

theorem skip?_append (e : Option Char) (front back s : List Char) :
    Place.skip? e (front ++ back) s =
      (Place.skip? e front s).bind fun p => Place.skip? p.before back p.after := by
  induction front generalizing e s with
  | nil => rfl
  | cons q front ih =>
    cases s with
    | nil => rfl
    | cons c s =>
      rw [List.cons_append, Place.skip?, Place.skip?]
      split_ifs
      · exact ih (some c) s
      · rfl

section Blanks

variable {q : Char} (hq : isBlank q = false)
include hq

theorem skip?_blanks {s : List Char} (hs : ∀ b ∈ s, isBlank b = true) (e : Option Char)
    (pattern : List Char) : Place.skip? e (q :: pattern) s = none := by
  cases s with
  | nil => rfl
  | cons b s => exact skip?_cons_of_ne (foldChar_ne_of_isBlank hq (hs b List.mem_cons_self)) ..

theorem skip?_gap {gap : List Char} (hgap : ∀ b ∈ gap, isBlank b = true) (e : Option Char)
    (pattern s : List Char) :
    Place.skip? e (q :: pattern) (gap ++ s) =
      if gap = [] then Place.skip? e (q :: pattern) s else none := by
  cases gap with
  | nil => rfl
  | cons b gap => exact skip?_cons_of_ne (foldChar_ne_of_isBlank hq (hgap b List.mem_cons_self)) ..

/-- A space in a pattern, and no further one behind it, is found in a gap of one space only. -/
theorem skip?_space {gap : List Char} (hgap : ∀ b ∈ gap, isBlank b = true) (e : Option Char)
    (pattern : List Char) {c : Char} (hc : isBlank c = false) (s : List Char) :
    Place.skip? e (' ' :: q :: pattern) (gap ++ c :: s) =
      if gap = [' '] then Place.skip? (some ' ') (q :: pattern) (c :: s) else none := by
  cases gap with
  | nil =>
    rw [List.nil_append, skip?_cons_of_ne (foldChar_ne_of_isBlank hc (by decide)).symm,
      if_neg (by simp)]
  | cons b gap =>
    have hb := hgap b List.mem_cons_self
    have hrest : ∀ d ∈ gap, isBlank d = true := fun d hd => hgap d (List.mem_cons_of_mem b hd)
    have hspace : foldChar ' ' = ' ' := foldChar_of_isBlank (by decide)
    rw [List.cons_append, Place.skip?, hspace, foldChar_of_isBlank hb, skip?_gap hq hrest]
    by_cases hsame : ' ' = b
    · subst hsame
      simp
    · rw [if_neg (by simpa using hsame), if_neg (by simpa using fun h _ => hsame h.symm)]

theorem skip?_space_blanks {s : List Char} (hs : ∀ b ∈ s, isBlank b = true) (e : Option Char)
    (pattern : List Char) : Place.skip? e (' ' :: q :: pattern) s = none := by
  cases s with
  | nil => rfl
  | cons b s =>
    rw [Place.skip?, skip?_blanks hq fun d hd => hs d (List.mem_cons_of_mem b hd)]
    exact ite_self none

end Blanks

/-- What is gone past is in front of the text, if blanks are left aside. -/
theorem prefix_of_skip? {e : Option Char} {w s : List Char} {p : Place}
    (hw : ∀ q ∈ w, isBreak q = false) (h : Place.skip? e w s = some p) :
    w.map foldChar <+: (visible s).map foldChar := by
  induction w generalizing e s with
  | nil => exact List.nil_prefix
  | cons q w ih =>
    cases s with
    | nil => exact absurd h (by simp [Place.skip?])
    | cons c s =>
      rw [Place.skip?] at h
      split_ifs at h with hfold
      have hc : isBlank c = false := by
        by_contra hblank
        exact foldChar_ne_of_isBlank (not_isBlank_of_not_isBreak (hw q List.mem_cons_self))
          (Bool.of_not_eq_false hblank) (eq_of_beq hfold)
      rw [visible, List.filter_cons, if_pos (by rw [hc]; rfl), List.map_cons, List.map_cons,
        eq_of_beq hfold, List.prefix_cons_inj]
      exact ih (fun d hd => hw d (List.mem_cons_of_mem q hd)) h

/-! ## Two searches side by side -/

section Search

variable {pairs : List (List Char × List Char)}

/-- Two searches both fail, or stop behind the same characters and in front of texts that are spaced
alike. Of the characters behind `P` holds, and the last of them is no mark. -/
inductive SameOutcome (pairs : List (List Char × List Char)) (P : List Char → Prop) :
    Option Place → Option Place → Prop
  | fail : SameOutcome pairs P none none
  | stop {before s s' : List Char} (hP : P before) (hlast : before.head?.all isMark = false)
      (h : SpacedAlike pairs before s s') :
      SameOutcome pairs P (some ⟨before.head?, s⟩) (some ⟨before.head?, s'⟩)

theorem SameOutcome.bind {P Q : List Char → Prop} {o o' : Option Place}
    (h : SameOutcome pairs P o o') {f : Place → Option Place}
    (hf : ∀ {before s s' : List Char}, P before → before.head?.all isMark = false →
      SpacedAlike pairs before s s' →
      SameOutcome pairs Q (f ⟨before.head?, s⟩) (f ⟨before.head?, s'⟩)) :
    SameOutcome pairs Q (o.bind f) (o'.bind f) := by
  cases h with
  | fail => exact .fail
  | stop hP hlast h => exact hf hP hlast h

theorem SameOutcome.isSome_eq {P : List Char → Prop} {o o' : Option Place}
    (h : SameOutcome pairs P o o') : o.isSome = o'.isSome := by
  cases h with
  | fail => rfl
  | stop hP hlast h => rfl

theorem SameOutcome.orElse {P : List Char → Prop} {o o' p p' : Option Place}
    (h : SameOutcome pairs P o o') (hp : SameOutcome pairs P p p') :
    SameOutcome pairs P (o <|> p) (o' <|> p') := by
  cases h with
  | fail => exact hp
  | stop hP hlast h => exact .stop hP hlast h

/-- Two searches go on together through gaps of which both or neither satisfy a condition. -/
theorem SameOutcome.ite {P : List Char → Prop} {o o' : Option Place} {p p' : Prop} [Decidable p]
    [Decidable p'] (hp : p ↔ p') (h : SameOutcome pairs P o o') :
    SameOutcome pairs P (if p then o else none) (if p' then o' else none) := by
  by_cases hcase : p
  · rw [if_pos hcase, if_pos (hp.mp hcase)]
    exact h
  · rw [if_neg hcase, if_neg (mt hp.mpr hcase)]
    exact .fail

theorem not_isMark_of_foldChar_eq {q c : Char} (hq : isBreak q = false)
    (h : foldChar q = foldChar c) : isMark c = false := by
  by_contra hmark
  exact foldChar_ne_of_isMark hq (Bool.of_not_eq_false hmark) h

theorem GapsAgree.of_not_isMark {before after gap gap' : List Char}
    (h : GapsAgree pairs before after gap gap') (hbefore : before.head?.all isMark = false)
    (hafter : after.head?.all isMark = false) :
    (gap = [] ↔ gap' = []) ∧
      ((∃ pair ∈ pairs, Between pair before after) → (gap = [' '] ↔ gap' = [' '])) := by
  rcases h with h | h | h
  · exact absurd h (Bool.eq_false_iff.mp hbefore)
  · exact absurd h (Bool.eq_false_iff.mp hafter)
  · exact h

/-- A word goes on in one text just in case it goes on in the other. -/
theorem skip?_word {w : List Char} (hw : ∀ q ∈ w, isBreak q = false) {before s s' : List Char}
    (h : SpacedAlike pairs before s s') (hlast : before.head?.all isMark = false) :
    SameOutcome pairs (fun b => b.map foldChar = w.reverse.map foldChar ++ before.map foldChar)
      (Place.skip? before.head? w s) (Place.skip? before.head? w s') := by
  induction w generalizing before s s' with
  | nil => exact .stop rfl hlast h
  | cons q w ih =>
    have hq := hw q List.mem_cons_self
    have hblank := not_isBlank_of_not_isBreak hq
    cases h with
    | blanks hs hs' =>
      rw [skip?_blanks hblank hs, skip?_blanks hblank hs']
      exact .fail
    | @char _ gap gap' s s' c hgap hgap' hc hagree h =>
      rw [skip?_gap hblank hgap, skip?_gap hblank hgap']
      by_cases hfold : foldChar q = foldChar c
      · have hmark := not_isMark_of_foldChar_eq hq hfold
        have hbehind (b : List Char) :
            b.map foldChar = (q :: w).reverse.map foldChar ++ before.map foldChar ↔
              b.map foldChar = w.reverse.map foldChar ++ (c :: before).map foldChar := by
          simp [hfold]
        simp only [skip?_cons_of_eq hfold, hbehind]
        exact .ite (hagree.of_not_isMark hlast hmark).1
          (ih (fun d hd => hw d (List.mem_cons_of_mem q hd)) h hmark)
      · rw [skip?_cons_of_ne hfold, skip?_cons_of_ne hfold, ite_self, ite_self]
        exact .fail

/-- So do words behind a word that both searches have gone past: in front of each there has to be a
single space, and where the word is to be found behind the gap both gaps are one or neither is. -/
theorem skip?_words {u : List Char} {ws : List (List Char)} (hws : ∀ w ∈ ws, OneWord w)
    (hpairs : ∀ pair ∈ (u :: ws).zip ws, pair ∈ pairs) {before s s' : List Char}
    (h : SpacedAlike pairs before s s') (hlast : before.head?.all isMark = false)
    (hu : u.reverse.map foldChar <+: before.map foldChar) :
    SameOutcome pairs (fun _ => True) (Place.skip? before.head? (ws.flatMap (' ' :: ·)) s)
      (Place.skip? before.head? (ws.flatMap (' ' :: ·)) s') := by
  induction ws generalizing u before s s' with
  | nil => exact .stop trivial hlast h
  | cons w ws ih =>
    obtain ⟨hne, hw⟩ := hws w List.mem_cons_self
    obtain ⟨q, tail, rfl⟩ := List.exists_cons_of_ne_nil hne
    have hq := hw q List.mem_cons_self
    have htail : ∀ d ∈ tail, isBreak d = false := fun d hd => hw d (List.mem_cons_of_mem q hd)
    have hblank := not_isBlank_of_not_isBreak hq
    rw [List.flatMap_cons, List.cons_append, List.cons_append]
    cases h with
    | blanks hs hs' =>
      rw [skip?_space_blanks hblank hs, skip?_space_blanks hblank hs']
      exact .fail
    | @char _ gap gap' s s' c hgap hgap' hc hagree h =>
      rw [skip?_space hblank hgap _ _ hc, skip?_space hblank hgap' _ _ hc]
      by_cases hfold : foldChar q = foldChar c
      · have hmark := not_isMark_of_foldChar_eq hq hfold
        have hword := skip?_word htail h hmark
        have hrest := hword.bind
          (f := fun p => Place.skip? p.before (ws.flatMap (' ' :: ·)) p.after) fun hbehind hlast' h' =>
            ih (fun v hv => hws v (List.mem_cons_of_mem _ hv))
              (fun pair hpair => hpairs pair (List.mem_cons_of_mem _ hpair)) h' hlast'
              ⟨before.map foldChar, by rw [hbehind]; simp [hfold]⟩
        rw [skip?_cons_of_eq hfold, skip?_cons_of_eq hfold, skip?_append, skip?_append]
        cases hfound : Place.skip? (some c) tail s with
        | none =>
          have hfound' := hword.isSome_eq
          rw [List.head?_cons, hfound, Option.isSome_none] at hfound'
          rw [Option.isSome_eq_false_iff.mp hfound'.symm |> Option.isNone_iff_eq_none.mp,
            Option.bind_none, ite_self, ite_self]
          exact .fail
        | some p =>
          -- the two words stand around the gap
          have hbehind : (q :: tail).map foldChar <+: (c :: visible s).map foldChar := by
            rw [List.map_cons, List.map_cons, hfold, List.prefix_cons_inj]
            exact prefix_of_skip? htail hfound
          rw [← hfound]
          refine .ite ((hagree.of_not_isMark hlast hmark).2 ?_) hrest
          exact ⟨(u, q :: tail), hpairs _ List.mem_cons_self, hu, hbehind⟩
      · rw [skip?_cons_of_ne hfold, skip?_cons_of_ne hfold, ite_self, ite_self]
        exact .fail

/-! ### Boundaries -/

theorem head?_of_blanks {s : List Char} (hs : ∀ b ∈ s, isBlank b = true) :
    s.head?.any isWordMember = false := by
  cases s with
  | nil => rfl
  | cons b s => exact not_isWordMember_of_isBlank (hs b List.mem_cons_self)

theorem head?_gap {gap : List Char} (hgap : ∀ b ∈ gap, isBlank b = true) (c : Char)
    (s : List Char) :
    (gap ++ c :: s).head?.any isWordMember = (decide (gap = []) && isWordMember c) := by
  cases gap with
  | nil => simp
  | cons b gap => simpa using not_isWordMember_of_isBlank (hgap b List.mem_cons_self)

/-- Behind a character that is no mark, the next ones are both members of a word or neither is. -/
theorem SpacedAlike.head?_eq {before s s' : List Char} (h : SpacedAlike pairs before s s')
    (hlast : before.head?.all isMark = false) :
    s.head?.any isWordMember = s'.head?.any isWordMember := by
  cases h with
  | blanks hs hs' => rw [head?_of_blanks hs, head?_of_blanks hs']
  | @char _ gap gap' s s' c hgap hgap' hc hagree h =>
    rw [head?_gap hgap, head?_gap hgap']
    cases hmark : isMark c with
    | true => rw [not_isWordMember_of_isMark hmark, Bool.and_false, Bool.and_false]
    | false =>
      have hboth := (hagree.of_not_isMark hlast hmark).1
      rw [decide_eq_decide.mpr hboth]

theorem SameOutcome.boundary {P : List Char → Prop} {o o' : Option Place}
    (h : SameOutcome pairs P o o') :
    SameOutcome pairs P (o.filter Place.isBoundary) (o'.filter Place.isBoundary) := by
  cases h with
  | fail => exact .fail
  | @stop before s s' hP hlast h =>
    have hboundary : Place.isBoundary ⟨before.head?, s⟩ = Place.isBoundary ⟨before.head?, s'⟩ := by
      rw [Place.isBoundary, Place.isBoundary, atBoundary, atBoundary, h.head?_eq hlast]
    rw [Option.filter_some, Option.filter_some, hboundary]
    exact .ite Iff.rfl (.stop hP hlast h)

/-- The last character of a gap, or else what is in front of it. -/
def behindGap (e : Option Char) (gap : List Char) : Option Char := gap.getLast?.or e

/-- In front of a character that is no mark, both gaps leave the same behind them, as far as the
boundaries of words go. -/
theorem GapsAgree.behindGap_eq {before after gap gap' : List Char}
    (hgap : ∀ b ∈ gap, isBlank b = true) (hgap' : ∀ b ∈ gap', isBlank b = true)
    (h : GapsAgree pairs before after gap gap') (hafter : after.head?.all isMark = false) :
    (behindGap before.head? gap).any isWordMember =
      (behindGap before.head? gap').any isWordMember := by
  have hlast {gap : List Char} (hgap : ∀ b ∈ gap, isBlank b = true) :
      (behindGap before.head? gap).any isWordMember =
        (decide (gap = []) && before.head?.any isWordMember) := by
    rcases List.eq_nil_or_concat gap with rfl | ⟨front, b, rfl⟩
    · rfl
    · rw [List.concat_eq_append] at hgap ⊢
      rw [behindGap, List.getLast?_concat]
      have hb := not_isWordMember_of_isBlank (hgap b (by simp))
      simpa using hb
  rw [hlast hgap, hlast hgap']
  cases hbefore : before.head?.all isMark with
  | true =>
    have hnone : before.head?.any isWordMember = false := by
      cases hhead : before.head? with
      | none => rfl
      | some d =>
        rw [hhead] at hbefore
        exact not_isWordMember_of_isMark hbefore
    rw [hnone, Bool.and_false, Bool.and_false]
  | false => rw [decide_eq_decide.mpr (h.of_not_isMark hbefore hafter).1]

/-! ### Phrases -/

/-- A quantifier or a name: words with single spaces between them, each with the next among the
pairs. -/
structure IsPhrase (pairs : List (List Char × List Char)) (pattern : List Char) : Prop where
  exists_words : ∃ w ws, pattern = [' '].intercalate (w :: ws) ∧ (∀ v ∈ w :: ws, OneWord v) ∧
    ∀ pair ∈ (w :: ws).zip ws, pair ∈ pairs

theorem intercalate_cons (w : List Char) (ws : List (List Char)) :
    [' '].intercalate (w :: ws) = w ++ ws.flatMap (' ' :: ·) := by
  induction ws generalizing w with
  | nil => rw [List.intercalate_singleton, List.flatMap_nil, List.append_nil]
  | cons v ws ih =>
    rw [List.intercalate_cons_cons, ih, List.flatMap_cons, List.append_assoc]
    rfl

section Phrase

variable {pattern : List Char} (hpattern : IsPhrase pairs pattern)
include hpattern

/-- A phrase begins with a character of a word. -/
theorem IsPhrase.exists_cons : ∃ q rest, pattern = q :: rest ∧ isBreak q = false := by
  obtain ⟨w, ws, rfl, hws, -⟩ := hpattern.exists_words
  obtain ⟨hne, hw⟩ := hws w List.mem_cons_self
  obtain ⟨q, tail, rfl⟩ := List.exists_cons_of_ne_nil hne
  exact ⟨q, tail ++ ws.flatMap (' ' :: ·), by rw [intercalate_cons]; rfl,
    hw q List.mem_cons_self⟩

/-- At the same character behind a gap, a phrase is gone past in both texts or in neither. -/
theorem skip?_phrase {c : Char} {before s s' : List Char}
    (h : SpacedAlike pairs (c :: before) s s') (e e' : Option Char) :
    SameOutcome pairs (fun _ => True) (Place.skip? e pattern (c :: s))
      (Place.skip? e' pattern (c :: s')) := by
  obtain ⟨w, ws, rfl, hws, hpairs⟩ := hpattern.exists_words
  obtain ⟨hne, hw⟩ := hws w List.mem_cons_self
  obtain ⟨q, tail, rfl⟩ := List.exists_cons_of_ne_nil hne
  have htail : ∀ d ∈ tail, isBreak d = false := fun d hd => hw d (List.mem_cons_of_mem q hd)
  rw [intercalate_cons, List.cons_append]
  by_cases hfold : foldChar q = foldChar c
  · have hmark := not_isMark_of_foldChar_eq (hw q List.mem_cons_self) hfold
    rw [skip?_cons_of_eq hfold, skip?_cons_of_eq hfold, skip?_append, skip?_append]
    exact (skip?_word htail h hmark).bind
      (f := fun p => Place.skip? p.before (ws.flatMap (' ' :: ·)) p.after)
      fun hbehind hlast h' =>
        skip?_words (fun v hv => hws v (List.mem_cons_of_mem _ hv)) hpairs h' hlast
          ⟨before.map foldChar, by rw [hbehind]; simp [hfold]⟩
  · rw [skip?_cons_of_ne hfold, skip?_cons_of_ne hfold]
    exact .fail

theorem word?_phrase {c : Char} {before s s' : List Char}
    (h : SpacedAlike pairs (c :: before) s s') {e e' : Option Char}
    (hopens : isMark c = false → e.any isWordMember = e'.any isWordMember) :
    SameOutcome pairs (fun _ => True) (Place.word? pattern ⟨e, c :: s⟩)
      (Place.word? pattern ⟨e', c :: s'⟩) := by
  have hrest := (skip?_phrase hpattern h e e').boundary
  unfold Place.word?
  cases hmark : isMark c with
  | true =>
    -- no phrase begins with a mark
    obtain ⟨q, rest, rfl, hq⟩ := hpattern.exists_cons
    rw [skip?_cons_of_ne (foldChar_ne_of_isMark hq hmark),
      skip?_cons_of_ne (foldChar_ne_of_isMark hq hmark), Option.filter_none, ite_self, ite_self]
    exact .fail
  | false =>
    refine .ite ?_ hrest
    rw [Place.isBoundary, Place.isBoundary, atBoundary, atBoundary, hopens hmark]
    rfl

/-! ### First occurrences -/

theorem firstWord?_gap {gap : List Char} (hgap : ∀ b ∈ gap, isBlank b = true) (e : Option Char)
    (s : List Char) : firstWord? pattern e (gap ++ s) = firstWord? pattern (behindGap e gap) s := by
  obtain ⟨q, rest, rfl, hq⟩ := hpattern.exists_cons
  induction gap generalizing e with
  | nil => rfl
  | cons b gap ih =>
    have hblank :=
      foldChar_ne_of_isBlank (not_isBlank_of_not_isBreak hq) (hgap b List.mem_cons_self)
    have hnone : Place.word? (q :: rest) ⟨e, b :: (gap ++ s)⟩ = none := by
      rw [Place.word?, skip?_cons_of_ne hblank, Option.filter_none, ite_self]
    have hlast : behindGap e (b :: gap) = behindGap (some b) gap := by
      rw [behindGap, behindGap, List.getLast?_cons]
      cases gap.getLast? with
      | none => rfl
      | some d => rfl
    rw [List.cons_append, firstWord?, hnone, hlast]
    exact ih (fun d hd => hgap d (List.mem_cons_of_mem b hd)) (some b)

theorem firstWord?_blanks {s : List Char} (hs : ∀ b ∈ s, isBlank b = true) (e : Option Char) :
    firstWord? pattern e s = none := by
  have hgap := firstWord?_gap hpattern hs e []
  rw [List.append_nil] at hgap
  obtain ⟨q, rest, rfl, -⟩ := hpattern.exists_cons
  rw [hgap, firstWord?, Place.word?, Place.skip?, Option.filter_none, ite_self]

/-- **The first occurrences of a phrase in two texts that are spaced alike are the same.** -/
theorem firstWord?_phrase {before s s' : List Char} (h : SpacedAlike pairs before s s') :
    SameOutcome pairs (fun _ => True) (firstWord? pattern before.head? s)
      (firstWord? pattern before.head? s') := by
  induction h with
  | blanks hs hs' =>
    rw [firstWord?_blanks hpattern hs, firstWord?_blanks hpattern hs']
    exact .fail
  | @char before gap gap' s s' c hgap hgap' hc hagree h ih =>
    rw [firstWord?_gap hpattern hgap, firstWord?_gap hpattern hgap', firstWord?, firstWord?]
    exact (word?_phrase hpattern h (hagree.behindGap_eq hgap hgap')).orElse ih

end Phrase

/-- **Whether phrases occur in order is the same for texts that are spaced alike.** -/
theorem occurInOrder_eq {patterns : List (List Char)}
    (hpatterns : ∀ pattern ∈ patterns, IsPhrase pairs pattern) {before s s' : List Char}
    (h : SpacedAlike pairs before s s') :
    occurInOrder patterns ⟨before.head?, s⟩ = occurInOrder patterns ⟨before.head?, s'⟩ := by
  induction patterns generalizing before s s' with
  | nil => rfl
  | cons pattern patterns ih =>
    have hfirst := firstWord?_phrase (hpatterns pattern List.mem_cons_self) h
    have ih {before s s' : List Char} (h : SpacedAlike pairs before s s') :=
      ih (fun p hp => hpatterns p (List.mem_cons_of_mem pattern hp)) h
    rw [occurInOrder, occurInOrder]
    generalize firstWord? pattern before.head? s = o at hfirst
    generalize firstWord? pattern before.head? s' = o' at hfirst
    cases hfirst with
    | fail => rfl
    | stop hP hlast h => exact ih h

theorem isPhrase_quantifier (pairs : List (List Char × List Char)) :
    ∀ entry ∈ quantifierPairs,
      IsPhrase pairs entry.1.toList ∧ IsPhrase pairs entry.2.1.toList := by
  have hword {w : List Char} (hw : w ≠ [] ∧ w.all (isBreak · = false)) : IsPhrase pairs w := by
    refine ⟨w, [], List.intercalate_singleton.symm, fun v hv => ?_, fun _ h => absurd h ?_⟩
    · exact List.mem_singleton.mp hv ▸ ⟨hw.1, forall_mem_of_all hw.2⟩
    · exact List.not_mem_nil
  have hquantifiers : ∀ entry ∈ quantifierPairs,
      (entry.1.toList ≠ [] ∧ entry.1.toList.all (isBreak · = false)) ∧
        entry.2.1.toList ≠ [] ∧ entry.2.1.toList.all (isBreak · = false) := by
    decide +kernel
  intro entry hentry
  obtain ⟨hfirst, hsecond⟩ := hquantifiers entry hentry
  exact ⟨hword hfirst, hword hsecond⟩

/-- **Texts that are spaced alike state the same multiplicities.** -/
theorem multiplicity?_eq {source target : List Char} (hsource : IsPhrase pairs source)
    (htarget : IsPhrase pairs target) {s s' : List Char} (h : SpacedAlike pairs [] s s') :
    multiplicity? s source target = multiplicity? s' source target := by
  rw [multiplicity?, multiplicity?, ← List.head?_filterMap, ← List.head?_filterMap]
  refine congrArg List.head? (List.filterMap_congr fun entry hentry => ?_)
  obtain ⟨hfirst, hsecond⟩ := isPhrase_quantifier pairs entry hentry
  have hpatterns : ∀ pattern ∈ [entry.1.toList, source, entry.2.1.toList, target],
      IsPhrase pairs pattern := by
    simp only [List.forall_mem_cons]
    exact ⟨hfirst, hsource, hsecond, htarget, fun _ h => absurd h List.not_mem_nil⟩
  have horder := occurInOrder_eq hpatterns h
  rw [List.head?_nil] at horder
  simp only [horder]

end Search

end Draftsman.Extraction
