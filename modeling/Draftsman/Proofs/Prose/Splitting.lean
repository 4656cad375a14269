/-
Cutting a text loses white space and nothing else, and what is cut out stays in one piece.

A sentence ends at a mark that is a word of its own, so it makes no difference to the words of a
text whether it is cut into sentences first (`flatMap_tokenize_sentences`), and the words of a text
are its characters without the blanks (`flatten_tokenize`). Both scanners look one character ahead.
What a sentence or a word would look at beyond its end is a blank or nothing, and neither makes the
scanner go on: so a sentence is cut no further when it stands alone (`sentences_of_mem`), and a word
is collected again in front of any blank (`isWhole_of_mem_tokenize`).
-/
import Draftsman.Proofs.Prose.Tokens

set_option autoImplicit false

namespace Draftsman.Prose

open Draftsman.Text

/-! ## Breaks -/

/-- A character that ends every word in front of it. -/
def isBreak (c : Char) : Bool := !isAlphanumeric c && !isJoiner c

/-- What a break leaves among the words: itself, unless it is blank. -/
def marksOf (c : Char) : List (List Char) := if isBlank c then [] else [[c]]

section Breaks

variable {c : Char} (hc : isBreak c = true)
include hc

theorem scanWords_break (current rest : List Char) :
    scanWords current (c :: rest) = finishWord current ++ (marksOf c ++ tokenize rest) := by
  obtain ⟨halphanumeric, hjoiner⟩ := (Bool.and_eq_true _ _).mp hc
  rw [Bool.not_eq_true'] at halphanumeric hjoiner
  rw [scanWords, halphanumeric, hjoiner, Bool.false_and, Bool.false_and, Bool.or_false,
    if_neg Bool.false_ne_true, List.append_assoc]
  rfl

theorem tokenize_break (rest : List Char) : tokenize (c :: rest) = marksOf c ++ tokenize rest :=
  scanWords_break hc [] rest

end Breaks

theorem isBreak_of_isBlank {c : Char} (h : isBlank c = true) : isBreak c = true := by
  have halphanumeric : isAlphanumeric c = false := by
    by_contra halphanumeric
    rw [not_isBlank_of_isAlphanumeric (Bool.of_not_eq_false halphanumeric)] at h
    exact Bool.false_ne_true h
  have hjoiner : isJoiner c = false := by
    by_contra hjoiner
    rw [not_isBlank_of_isJoiner (Bool.of_not_eq_false hjoiner)] at h
    exact Bool.false_ne_true h
  rw [isBreak, halphanumeric, hjoiner]
  rfl

theorem isBreak_of_endsSentence {c : Char} {next : Option Char} (h : endsSentence c next = true) :
    isBreak c = true := by
  obtain ⟨hmark, -⟩ := (Bool.and_eq_true _ _).mp h
  simp only [Bool.or_eq_true, beq_iff_eq] at hmark
  rcases hmark with (rfl | rfl) | rfl <;> decide

/-! ## Nothing but blanks is lost -/

theorem flatten_finishWord (current : List Char) :
    (finishWord current).flatten = current.reverse := by
  unfold finishWord
  split_ifs with hempty
  · rw [List.isEmpty_iff.mp hempty]
    rfl
  · exact List.flatten_singleton

/-- Scanning gives back the word collected so far and then all that is not blank. -/
theorem flatten_scanWords (current cs : List Char) :
    (scanWords current cs).flatten = current.reverse ++ cs.filter fun c => !isBlank c := by
  induction cs generalizing current with
  | nil => rw [scanWords, flatten_finishWord, List.filter_nil, List.append_nil]
  | cons c cs ih =>
    rw [scanWords]
    split_ifs with hpart hblank
    · have hc : (!isBlank c) = true := by
        simp only [Bool.or_eq_true, Bool.and_eq_true] at hpart
        rcases hpart with hpart | ⟨⟨hpart, -⟩, -⟩
        · rw [not_isBlank_of_isAlphanumeric hpart, Bool.not_false]
        · rw [not_isBlank_of_isJoiner hpart, Bool.not_false]
      rw [ih, List.filter_cons, if_pos hc, List.reverse_cons, List.append_assoc]
      rfl
    · rw [List.append_nil, List.flatten_append, flatten_finishWord, ih, List.filter_cons,
        if_neg (by simp [hblank])]
      rfl
    · rw [List.flatten_append, List.flatten_append, flatten_finishWord, ih, List.filter_cons,
        if_pos (by simpa using hblank), List.append_assoc]
      rfl

/-- **The words of a text are its characters without the blanks.** -/
theorem flatten_tokenize (text : List Char) :
    (tokenize text).flatten = text.filter fun c => !isBlank c :=
  flatten_scanWords [] text

/-! ## Words and the blanks around a text -/

theorem scanWords_of_blank {rest : List Char} (h : rest.head?.all isBlank = true)
    (current : List Char) : scanWords current rest = finishWord current ++ tokenize rest := by
  cases rest with
  | nil => exact (List.append_nil _).symm
  | cons c rest =>
    have hbreak : isBreak c = true := isBreak_of_isBlank h
    rw [scanWords_break hbreak, tokenize_break hbreak]

theorem tokenize_of_forall_isBlank {w : List Char} (hw : ∀ c ∈ w, isBlank c = true) :
    tokenize w = [] := by
  induction w with
  | nil => rfl
  | cons c w ih =>
    have hc := hw c List.mem_cons_self
    rw [tokenize_break (isBreak_of_isBlank hc), marksOf, if_pos hc,
      ih fun d hd => hw d (List.mem_cons_of_mem c hd)]
    rfl

theorem tokenize_blanks_append {w : List Char} (hw : ∀ c ∈ w, isBlank c = true)
    (cs : List Char) : tokenize (w ++ cs) = tokenize cs := by
  induction w with
  | nil => rfl
  | cons c w ih =>
    have hc := hw c List.mem_cons_self
    rw [List.cons_append, tokenize_break (isBreak_of_isBlank hc), marksOf, if_pos hc,
      List.nil_append, ih fun d hd => hw d (List.mem_cons_of_mem c hd)]

theorem head?_all_of_forall {w : List Char} (hw : ∀ c ∈ w, isBlank c = true) :
    w.head?.all isBlank = true := by
  cases w with
  | nil => rfl
  | cons c w => exact hw c List.mem_cons_self

/-- A blank makes no word go on. -/
theorem any_isAlphanumeric_of_blank {next : Option Char} (h : next.all isBlank = true) :
    next.any isAlphanumeric = false := by
  cases next with
  | none => rfl
  | some c =>
    have hbreak := isBreak_of_isBlank (show isBlank c = true from h)
    rw [isBreak, Bool.and_eq_true, Bool.not_eq_true'] at hbreak
    exact hbreak.1

theorem scanWords_append_blanks {w : List Char} (hw : ∀ c ∈ w, isBlank c = true)
    (current cs : List Char) : scanWords current (cs ++ w) = scanWords current cs := by
  induction cs generalizing current with
  | nil =>
    rw [List.nil_append, scanWords_of_blank (head?_all_of_forall hw), tokenize_of_forall_isBlank hw,
      List.append_nil]
    rfl
  | cons c cs ih =>
    have hnext : (cs ++ w).head?.any isAlphanumeric = cs.head?.any isAlphanumeric := by
      cases cs with
      | nil => exact any_isAlphanumeric_of_blank (head?_all_of_forall hw)
      | cons d cs => rfl
    rw [List.cons_append, scanWords, scanWords, hnext, ih, ih]

/-- Trimming takes no word away. -/
theorem tokenize_trimChars (cs : List Char) : tokenize (trimChars cs) = tokenize cs := by
  obtain ⟨w, w', hw, hw', hcs⟩ := exists_eq_append_trimChars cs
  conv => rhs; rw [hcs, tokenize_blanks_append hw, tokenize, scanWords_append_blanks hw']
  rfl

/-! ## Breaks and words -/

/-- The word that is being collected holds no break: that is the invariant of the scan. What is not
collected is a mark that stands alone. -/
theorem not_isBreak_or_of_mem_scanWords {current cs w : List Char}
    (hcurrent : ∀ c ∈ current, isBreak c = false) (h : w ∈ scanWords current cs) :
    (∀ c ∈ w, isBreak c = false) ∨ w.any isAlphanumeric = false := by
  have hfinish {current : List Char} (hcurrent : ∀ c ∈ current, isBreak c = false)
      (h : w ∈ finishWord current) : ∀ c ∈ w, isBreak c = false := by
    unfold finishWord at h
    split_ifs at h
    · exact absurd h List.not_mem_nil
    · rw [List.mem_singleton.mp h]
      exact fun c hc => hcurrent c (List.mem_reverse.mp hc)
  have hnil : ∀ c ∈ ([] : List Char), isBreak c = false := fun c hc => absurd hc List.not_mem_nil
  induction cs generalizing current with
  | nil => exact .inl (hfinish hcurrent h)
  | cons c cs ih =>
    rw [scanWords] at h
    split_ifs at h with hpart
    · refine ih (fun d hd => ?_) h
      rcases List.mem_cons.mp hd with rfl | hd
      · simp only [Bool.or_eq_true, Bool.and_eq_true] at hpart
        rcases hpart with hpart | ⟨⟨hpart, -⟩, -⟩
        · rw [isBreak, hpart, Bool.not_true, Bool.false_and]
        · rw [isBreak, hpart, Bool.not_true, Bool.and_false]
      · exact hcurrent d hd
    all_goals
      rw [Bool.or_eq_true, not_or] at hpart
      rw [List.append_assoc] at h
      rcases List.mem_append.mp h with h | h
      · exact .inl (hfinish hcurrent h)
      rcases List.mem_append.mp h with h | h
    · exact absurd h List.not_mem_nil
    · exact ih hnil h
    · rw [List.mem_singleton.mp h, List.any_cons, Bool.eq_false_iff.mpr hpart.1]
      exact .inr rfl
    · exact ih hnil h

theorem not_isBreak_or_of_mem_tokenize {text w : List Char} (h : w ∈ tokenize text) :
    (∀ c ∈ w, isBreak c = false) ∨ w.any isAlphanumeric = false :=
  not_isBreak_or_of_mem_scanWords (fun _ hc => absurd hc List.not_mem_nil) h

/-! ## Sentences and words -/

theorem exists_cutSentences (text : List Char) :
    ∃ first more, cutSentences text = first :: more ∧ first.head? = text.head? := by
  induction text with
  | nil => exact ⟨[], [], rfl, rfl⟩
  | cons c rest ih =>
    obtain ⟨first, more, hcut, -⟩ := ih
    rw [cutSentences]
    split_ifs
    · exact ⟨[c], cutSentences rest, rfl, rfl⟩
    · exact ⟨c :: first, more, by rw [hcut]; rfl, rfl⟩

/-- Words are collected piece by piece: a cut falls behind a mark that no word goes across. -/
theorem scanWords_cutSentences {text first : List Char} {more : List (List Char)}
    (h : cutSentences text = first :: more) (current : List Char) :
    scanWords current text = scanWords current first ++ more.flatMap tokenize := by
  induction text generalizing current first more with
  | nil =>
    obtain ⟨rfl, rfl⟩ := List.cons.inj h
    exact (List.append_nil _).symm
  | cons c rest ih =>
    obtain ⟨next, others, hcut, hhead⟩ := exists_cutSentences rest
    rw [cutSentences, hcut] at h
    split_ifs at h with hends
    · obtain ⟨rfl, rfl⟩ := List.cons.inj h
      have hbreak := isBreak_of_endsSentence hends
      rw [scanWords_break hbreak, scanWords_break hbreak, tokenize, ih hcut [], List.flatMap_cons,
        List.append_assoc, List.append_assoc]
      rfl
    · obtain ⟨rfl, rfl⟩ := List.cons.inj h
      rw [scanWords, scanWords, hhead, ih hcut (c :: current), ih hcut []]
      split_ifs
      · rfl
      · simp only [List.append_assoc]
      · simp only [List.append_assoc]

/-- **The sentences of a text hold its words**, in order and each once. -/
theorem flatMap_tokenize_sentences (text : List Char) :
    (sentences text).flatMap tokenize = tokenize text := by
  have hpieces : ∀ pieces : List (List Char),
      ((pieces.map trimChars).filter fun s => !s.isEmpty).flatMap tokenize =
        pieces.flatMap tokenize := by
    intro pieces
    induction pieces with
    | nil => rfl
    | cons piece pieces ih =>
      rw [List.map_cons, List.filter_cons, List.flatMap_cons, ← ih, ← tokenize_trimChars piece]
      split_ifs with hempty
      · rw [List.flatMap_cons]
      · rw [show trimChars piece = [] by simpa using hempty]
        rfl
  obtain ⟨first, more, hcut, -⟩ := exists_cutSentences text
  rw [sentences, hpieces, hcut, List.flatMap_cons]
  exact (scanWords_cutSentences hcut []).symm

/-! ## Sentences are not cut again -/

/-- A text in which no sentence ends before its last character. -/
def Uncut (s : List Char) : Prop :=
  ∀ before c rest, s = before ++ c :: rest → endsSentence c rest.head? = true → rest = []

theorem Uncut.of_cons {c : Char} {s : List Char} (h : Uncut (c :: s)) : Uncut s :=
  fun before d rest hs hends => h (c :: before) d rest (by rw [hs, List.cons_append]) hends

/-- What stands around a part makes it no easier to cut: a mark in the middle of the part has the
same neighbours there. -/
theorem Uncut.of_append {w s w' : List Char} (h : Uncut (w ++ (s ++ w'))) : Uncut s := by
  intro before c rest hs hends
  by_contra hne
  have hhead : (rest ++ w').head? = rest.head? := List.head?_append_of_ne_nil _ hne
  have hnil := h (w ++ before) c (rest ++ w') (by simp [hs]) (hhead ▸ hends)
  exact hne (List.append_eq_nil_iff.mp hnil).1

theorem uncut_of_mem_cutSentences {text piece : List Char} (h : piece ∈ cutSentences text) :
    Uncut piece := by
  induction text generalizing piece with
  | nil =>
    rw [List.mem_singleton.mp h]
    exact fun before c rest hs _ => absurd hs.symm (by simp)
  | cons c rest ih =>
    obtain ⟨first, more, hcut, hhead⟩ := exists_cutSentences rest
    rw [cutSentences] at h
    split_ifs at h with hends
    · rcases List.mem_cons.mp h with rfl | h
      · intro before d after hs _
        cases before with
        | nil => exact (List.cons.inj hs).2.symm
        | cons e before => exact absurd (List.cons.inj hs).2.symm (by simp)
      · exact ih h
    · rw [hcut, List.modifyHead_cons] at h
      rcases List.mem_cons.mp h with rfl | h
      · intro before d after hs hd
        cases before with
        | nil =>
          -- the first piece of the rest begins as the rest does, and there was no cut in front of it
          obtain ⟨rfl, rfl⟩ := List.cons.inj hs
          exact absurd (hhead ▸ hd) hends
        | cons e before =>
          have hfirst : Uncut first := ih (hcut ▸ List.mem_cons_self)
          exact hfirst before d after (List.cons.inj hs).2 hd
      · exact ih (hcut ▸ List.mem_cons_of_mem first h)

theorem Uncut.cutSentences_eq {s : List Char} (h : Uncut s) :
    cutSentences s = [s] ∨ cutSentences s = [s, []] := by
  induction s with
  | nil => exact .inl rfl
  | cons c rest ih =>
    rw [cutSentences]
    split_ifs with hends
    · -- the mark is the last character
      rw [h [] c rest rfl hends]
      exact .inr rfl
    · rcases ih h.of_cons with hrest | hrest
      · exact .inl (by rw [hrest]; rfl)
      · exact .inr (by rw [hrest]; rfl)

/-- **A sentence is one sentence.** -/
theorem sentences_of_mem {text s : List Char} (h : s ∈ sentences text) :
    s ≠ [] ∧ Trimmed s ∧ sentences s = [s] := by
  obtain ⟨hpiece, hne⟩ := List.mem_filter.mp h
  obtain ⟨piece, hcut, rfl⟩ := List.mem_map.mp hpiece
  obtain ⟨w, w', -, -, heq⟩ := exists_eq_append_trimChars piece
  have huncut : Uncut (trimChars piece) := (heq ▸ uncut_of_mem_cutSentences hcut).of_append
  have htrimmed := trimmed_trimChars piece
  refine ⟨by simpa using hne, htrimmed, ?_⟩
  rcases huncut.cutSentences_eq with heq | heq
  · rw [sentences, heq, List.map_singleton, htrimmed.trimChars_eq, List.filter_cons, if_pos hne]
    rfl
  · rw [sentences, heq, List.map_cons, List.map_singleton, htrimmed.trimChars_eq,
      List.filter_cons, if_pos hne]
    rfl

/-! ## Words are collected again -/

/-- A word that is read as one word wherever a blank or nothing follows it. -/
def IsWhole (w : List Char) : Prop :=
  ∀ rest : List Char, rest.head?.all isBlank = true → tokenize (w ++ rest) = w :: tokenize rest

/-- What has been collected is collected from the beginning too, if what follows goes on with a
letter or number just in case `next` does. -/
def Collected (current : List Char) (next : Option Char) : Prop :=
  ∀ rest : List Char, rest.head?.any isAlphanumeric = next.any isAlphanumeric →
    tokenize (current.reverse ++ rest) = scanWords current rest

theorem collected_nil (next : Option Char) : Collected [] next := fun _ _ => rfl

/-- A character that goes on with the word does so again. -/
theorem Collected.cons {current rest : List Char} {c : Char} (h : Collected current (some c))
    (hpart : isAlphanumeric c ||
      (isJoiner c && !current.isEmpty && rest.head?.any isAlphanumeric)) :
    Collected (c :: current) rest.head? := by
  intro more hmore
  rw [List.reverse_cons, List.append_assoc, List.singleton_append, h (c :: more) rfl, scanWords,
    hmore, if_pos hpart]

/-- A word that has ended is whole. -/
theorem Collected.isWhole {current w : List Char} {next : Option Char}
    (h : Collected current next) (hnext : next.any isAlphanumeric = false)
    (hw : w ∈ finishWord current) : IsWhole w := by
  unfold finishWord at hw
  split_ifs at hw with hempty
  · exact absurd hw List.not_mem_nil
  · rw [List.mem_singleton.mp hw]
    intro rest hrest
    rw [h rest ((any_isAlphanumeric_of_blank hrest).trans hnext.symm), scanWords_of_blank hrest,
      finishWord, if_neg hempty, List.singleton_append]

/-- A mark is whole: no word has begun in front of it that it could join. -/
theorem isWhole_singleton {c : Char} (hc : isAlphanumeric c = false) (hblank : isBlank c = false) :
    IsWhole [c] := by
  intro rest _
  rw [List.singleton_append, tokenize, scanWords, hc, List.isEmpty_nil, Bool.not_true,
    Bool.and_false, Bool.false_and, Bool.false_or, if_neg Bool.false_ne_true, hblank]
  rfl

theorem isWhole_of_mem_scanWords {current cs w : List Char} (hcurrent : Collected current cs.head?)
    (h : w ∈ scanWords current cs) : IsWhole w := by
  induction cs generalizing current with
  | nil => exact hcurrent.isWhole rfl h
  | cons c cs ih =>
    rw [scanWords] at h
    split_ifs at h with hpart hblank
    · exact ih (hcurrent.cons hpart) h
    all_goals
      -- the word ends in front of the character, which is no letter and no number
      have hc : isAlphanumeric c = false := by
        rw [Bool.or_eq_true, not_or] at hpart
        exact Bool.eq_false_iff.mpr hpart.1
      rw [List.append_assoc] at h
      rcases List.mem_append.mp h with h | h
      · exact hcurrent.isWhole hc h
    · exact ih (collected_nil _) h
    · rcases List.mem_append.mp h with h | h
      · rw [List.mem_singleton.mp h]
        exact isWhole_singleton hc (Bool.eq_false_iff.mpr hblank)
      · exact ih (collected_nil _) h

/-- **The words of a text are whole.** -/
theorem isWhole_of_mem_tokenize {s w : List Char} (h : w ∈ tokenize s) : IsWhole w :=
  isWhole_of_mem_scanWords (collected_nil _) h

/-- Whole words with spaces between them are read one by one. -/
theorem tokenize_intercalate {ws : List (List Char)} (h : ∀ w ∈ ws, IsWhole w) :
    tokenize ([' '].intercalate ws) = ws := by
  induction ws with
  | nil => rfl
  | cons w ws ih =>
    have hw := h w List.mem_cons_self
    have ih := ih fun v hv => h v (List.mem_cons_of_mem w hv)
    cases ws with
    | nil =>
      have hlast := hw [] rfl
      rw [List.append_nil] at hlast
      rw [List.intercalate_singleton, hlast]
      rfl
    | cons v ws =>
      rw [List.intercalate_cons_cons, List.append_assoc, hw _ rfl, List.singleton_append,
        tokenize_break (by decide), ih]
      rfl

/-! ## Sentences and words of a text -/

/-- **Cutting a text loses its white space only, and no piece is cut again.** The words of all
sentences, one after the other, are the text without its blanks. A sentence is neither empty nor
untrimmed, and stands for one sentence when it stands alone. A word is not empty and holds no blank,
and words with single spaces between them are read as the same words again. -/
theorem splitting_keeps_text_and_pieces (text : List Char) :
    ((sentences text).flatMap tokenize).flatten = (text.filter fun c => !isBlank c) ∧
      (∀ s ∈ sentences text, s ≠ [] ∧ trimChars s = s ∧ sentences s = [s]) ∧
      ∀ s, (∀ w ∈ tokenize s, w ≠ [] ∧ ∀ c ∈ w, isBlank c = false) ∧
        tokenize ([' '].intercalate (tokenize s)) = tokenize s := by
  refine ⟨?_, fun s hs => ?_, fun s => ⟨fun w hw => ?_, ?_⟩⟩
  · rw [flatMap_tokenize_sentences, flatten_tokenize]
  · obtain ⟨hne, htrimmed, hsingle⟩ := sentences_of_mem hs
    exact ⟨hne, htrimmed.trimChars_eq, hsingle⟩
  · exact ⟨(solid_of_mem_tokenize hw).ne_nil, (solid_of_mem_tokenize hw).not_isBlank⟩
  · exact tokenize_intercalate fun w hw => isWhole_of_mem_tokenize hw

/-- Marks that end a sentence in one place and stand inside a word or between words in another. -/
example : (sentences "It is v1.5_-b, e.g. O'Neil's.  Is-it?".toList).map tokenize =
    [["It", "is", "v1", ".", "5", "_", "-", "b", ",", "e", ".", "g", "."].map String.toList,
      ["O'Neil's", "."].map String.toList, ["Is-it", "?"].map String.toList] := by
  decide

end Draftsman.Prose
