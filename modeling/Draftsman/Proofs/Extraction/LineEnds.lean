/-
What ends a line makes no difference.

A line may keep a blank at its end, as the last line of a text keeps a carriage return. The
blank goes through every reading of the line to the end of what is read last, a sentence or
an item of a list, and is trimmed there. So the line says the same with it and without it
(`lineFindings_concat`), and a text that goes on after a line feed says what it said before
and then what is new (`findings_append`).
-/
import Draftsman.Extraction.Finding
import Draftsman.Proofs.Text.Cutting
import Draftsman.Proofs.Text.Solid
import Draftsman.Proofs.Text.Trimming

set_option autoImplicit false

namespace Draftsman

open Draftsman.Text

section Blank

variable {c : Char} (hc : isBlank c = true)
include hc

/-! ## Sentences -/

namespace Prose

theorem endsSentence_concat (d : Char) (rest : List Char) :
    endsSentence d (rest ++ [c]).head? = endsSentence d rest.head? := by
  cases rest with
  | nil => simp [endsSentence, hc]
  | cons e rest => rfl

theorem endsSentence_eq_false (next : Option Char) : endsSentence c next = false := by
  have hmark := forall_isBlank (P := fun d => !(d == '.' || d == '!' || d == '?')) (by decide) hc
  rw [endsSentence, Bool.not_eq_eq_eq_not.mp hmark, Bool.not_true, Bool.false_and]

theorem exists_cutSentences_concat (cs : List Char) :
    ∃ pieces last, cutSentences cs = pieces ++ [last] ∧
      cutSentences (cs ++ [c]) = pieces ++ [last ++ [c]] := by
  -- no cut moves: a blank ends no sentence, and a mark in front of it ended one before
  induction cs with
  | nil =>
    refine ⟨[], [], rfl, ?_⟩
    rw [List.nil_append, cutSentences, endsSentence_eq_false hc]
    rfl
  | cons d cs ih =>
    obtain ⟨pieces, last, hpieces, hconcat⟩ := ih
    rw [List.cons_append, cutSentences, cutSentences, endsSentence_concat hc, hpieces, hconcat]
    split_ifs
    · exact ⟨[d] :: pieces, last, rfl, rfl⟩
    · cases pieces with
      | nil => exact ⟨[], d :: last, rfl, rfl⟩
      | cons first pieces => exact ⟨(d :: first) :: pieces, last, rfl, rfl⟩

theorem sentences_concat (cs : List Char) : sentences (cs ++ [c]) = sentences cs := by
  obtain ⟨pieces, last, hpieces, hconcat⟩ := exists_cutSentences_concat hc cs
  rw [sentences, sentences, hpieces, hconcat]
  simp only [List.map_append, List.map_cons, List.map_nil, trimChars_concat hc]

end Prose

/-! ## Labels -/

namespace Extraction

omit hc in
theorem startsBlank_concat {cs : List Char} (h : cs ≠ []) :
    startsBlank (cs ++ [c]) = startsBlank cs := by
  rw [startsBlank, List.head?_append_of_ne_nil _ h, startsBlank]

omit hc in
theorem ne_nil_of_startsCapital {cs : List Char} (h : startsCapital cs = true) : cs ≠ [] := by
  rintro rfl
  exact Bool.false_ne_true h

/-- Blanks and then a capital are there or not, whatever blank comes after the text. -/
theorem startsBlank_and_startsCapital_concat (cs : List Char) :
    (startsBlank (cs ++ [c]) && startsCapital (trimStart (cs ++ [c]))) =
      (startsBlank cs && startsCapital (trimStart cs)) := by
  by_cases hcs : trimStart cs = []
  · rw [trimStart_concat_of_eq_nil hc hcs, hcs]
    simp [startsCapital]
  · rw [trimStart_concat_of_ne_nil hcs, startsBlank_concat (ne_nil_of_trimStart_ne_nil hcs),
      startsCapital, List.head?_append_of_ne_nil _ hcs, startsCapital]

theorem afterArticle?_concat (article : String) (cs : List Char) :
    afterArticle? article (cs ++ [c]) = (afterArticle? article cs).map (· ++ [c]) := by
  unfold afterArticle?
  dsimp only
  by_cases hlength : article.length ≤ cs.length
  · rw [List.take_append_of_le_length hlength, List.drop_append_of_le_length hlength,
      Bool.and_assoc, Bool.and_assoc, startsBlank_and_startsCapital_concat hc]
    split_ifs with hcond
    · simp only [Bool.and_eq_true] at hcond
      rw [trimStart_concat_of_ne_nil (ne_nil_of_startsCapital hcond.2.2)]
      rfl
    · rfl
  · -- the text is no longer than the article, and nothing follows
    have hnone : ∀ ds : List Char, ds.length ≤ article.length →
        startsBlank (ds.drop article.length) = false := by
      intro ds hds
      rw [List.drop_eq_nil_of_le hds]
      rfl
    have hconcat : (cs ++ [c]).length ≤ article.length := by
      rw [List.length_append, List.length_singleton]
      omega
    rw [hnone _ hconcat, hnone cs (by omega)]
    simp

theorem dropArticle_concat (cs : List Char) : dropArticle (cs ++ [c]) = dropArticle cs ++ [c] := by
  unfold dropArticle
  simp only [afterArticle?_concat hc]
  rw [show (fun article => (afterArticle? article cs).map (· ++ [c])) =
    Option.map (· ++ [c]) ∘ fun article => afterArticle? article cs from rfl,
    ← List.map_findSome?, Option.getD_map]

theorem not_isUpper : ¬c.isUpper = true := by
  have h := forall_isBlank (P := fun d => !d.isUpper) (by decide) hc
  simpa using h

theorem isWordMember_eq_false : isWordMember c = false := by
  by_contra h
  rw [not_isBlank_of_isWordMember (Bool.not_eq_false _ ▸ h)] at hc
  exact Bool.false_ne_true hc

theorem capitalWords_concat (cs : List Char) :
    capitalWords (cs ++ [c]) = ((capitalWords cs).1, (capitalWords cs).2 ++ [c]) := by
  have hmember := isWordMember_eq_false hc
  induction cs using capitalWords.induct with
  | case1 =>
    rw [List.nil_append, capitalWords.eq_def [c], capitalWords.eq_def []]
    exact if_neg (not_isUpper hc)
  | case2 d tail hd rest hmore ih =>
    -- the words go on: the blank comes after a later one
    have htrim : trimStart rest ≠ [] :=
      ne_nil_of_startsCapital (Bool.and_eq_true_iff.mp hmore).2
    rw [List.cons_append, capitalWords, if_pos hd, capitalWords, if_pos hd]
    dsimp only
    rw [takeWhile_concat hmember, dropWhile_concat hmember,
      startsBlank_and_startsCapital_concat hc, if_pos hmore, if_pos hmore,
      trimStart_concat_of_ne_nil htrim, ih]
  | case3 d tail hd rest hmore =>
    rw [List.cons_append, capitalWords, if_pos hd, capitalWords, if_pos hd]
    dsimp only
    rw [takeWhile_concat hmember, dropWhile_concat hmember,
      startsBlank_and_startsCapital_concat hc, if_neg hmore, if_neg hmore]
  | case4 d tail hd =>
    rw [List.cons_append, capitalWords, if_neg hd, capitalWords, if_neg hd]
    rfl

omit hc in
theorem dropArticle_singleton (d : Char) : dropArticle [d] = [d] := by
  simp [dropArticle, afterArticle?, startsBlank]

/-- A bullet and the blanks behind it are dropped alike, unless nothing but blanks follows it.
Then no label follows either. -/
theorem dropBullet_concat (cs : List Char) (hcs : cs ≠ []) :
    dropBullet (cs ++ [c]) = dropBullet cs ++ [c] ∨
      (capitalWords (dropArticle (dropBullet cs))).1 = [] ∧
        (capitalWords (dropArticle (dropBullet (cs ++ [c])))).1 = [] := by
  have hempty : (capitalWords (dropArticle [])).1 = [] := by
    rw [show dropArticle [] = [] from rfl, capitalWords]
  cases cs with
  | nil => exact absurd rfl hcs
  | cons d rest =>
    rw [List.cons_append]
    unfold dropBullet
    dsimp only
    by_cases hbullet : (d == '-' || d == '*' || d == '•') = true
    · rw [hbullet, Bool.true_and, Bool.true_and]
      cases rest with
      | nil =>
        -- alone a bullet is no bullet, and with the blank nothing is left of the line
        refine .inr ⟨?_, ?_⟩
        · have hcases : (d = '-' ∨ d = '*') ∨ d = '•' := by simpa using hbullet
          have hupper : ¬d.isUpper = true := by
            rcases hcases with (rfl | rfl) | rfl <;> decide
          rw [if_neg (by simp [startsBlank]), dropArticle_singleton, capitalWords, if_neg hupper]
        · rw [List.nil_append, if_pos (by simp [startsBlank, hc]),
            show [c] = [] ++ [c] from rfl, trimStart_concat_of_eq_nil hc rfl]
          exact hempty
      | cons e rest =>
        rw [startsBlank_concat (List.cons_ne_nil e rest)]
        split_ifs
        · by_cases htrim : trimStart (e :: rest) = []
          · rw [trimStart_concat_of_eq_nil hc htrim, htrim]
            exact .inr ⟨hempty, hempty⟩
          · exact .inl (trimStart_concat_of_ne_nil htrim)
        · exact .inl rfl
    · rw [Bool.not_eq_true] at hbullet
      rw [hbullet, Bool.false_and, Bool.false_and]
      exact .inl rfl

/-! ## What follows a label -/

omit hc in
theorem afterSeparator?_of_ne_colon {cs rest : List Char} {d : Char}
    (hcs : trimStart cs = d :: rest) (hd : d ≠ ':') :
    afterSeparator? cs =
      if (d == '-' || d == '–') && startsBlank cs && startsBlank rest then some (trimStart rest)
      else none := by
  rw [afterSeparator?, hcs]
  split
  · rename_i h
    exact absurd (List.cons.inj h).1 hd
  · rename_i h
    obtain ⟨rfl, rfl⟩ := List.cons.inj h
    rfl
  · rename_i h
    exact absurd h (List.cons_ne_nil d rest)

/-- What follows a separator, if it is not empty. -/
theorem filter_afterSeparator?_concat (cs : List Char) :
    (afterSeparator? (cs ++ [c])).filter (!·.isEmpty) =
      ((afterSeparator? cs).filter (!·.isEmpty)).map (· ++ [c]) := by
  have hbody (rest : List Char) :
      (some (trimStart (rest ++ [c]))).filter (!·.isEmpty) =
        ((some (trimStart rest)).filter (!·.isEmpty)).map (· ++ [c]) := by
    by_cases htrim : trimStart rest = []
    · rw [trimStart_concat_of_eq_nil hc htrim, htrim]
      rfl
    · rw [trimStart_concat_of_ne_nil htrim]
      simp [Option.filter, htrim]
  cases htrim : trimStart cs with
  | nil =>
    rw [afterSeparator?, afterSeparator?, trimStart_concat_of_eq_nil hc htrim, htrim]
    rfl
  | cons d rest =>
    have hne : trimStart cs ≠ [] := by
      rw [htrim]
      exact List.cons_ne_nil d rest
    have hconcat : trimStart (cs ++ [c]) = d :: (rest ++ [c]) := by
      rw [trimStart_concat_of_ne_nil hne, htrim, List.cons_append]
    by_cases hcolon : d = ':'
    · subst hcolon
      rw [afterSeparator?, afterSeparator?, hconcat, htrim]
      exact hbody rest
    · rw [afterSeparator?_of_ne_colon hconcat hcolon, afterSeparator?_of_ne_colon htrim hcolon]
      rw [startsBlank_concat (ne_nil_of_trimStart_ne_nil hne)]
      cases hdash : (d == '-' || d == '–') && startsBlank cs with
      | false => rfl
      | true =>
        rw [Bool.true_and, Bool.true_and]
        cases rest with
        | nil =>
          -- the dash ends the line, and only the blank behind it makes it a separator
          rw [List.nil_append, if_pos (by simp [startsBlank, hc]), if_neg (by simp [startsBlank])]
          exact hbody []
        | cons e rest =>
          rw [startsBlank_concat (List.cons_ne_nil e rest)]
          split_ifs
          · exact hbody (e :: rest)
          · rfl

omit hc in
/-- A label is what stands in front of a separator, if something follows the separator. -/
theorem labelled?_eq (line : List Char) :
    labelled? line =
      let label := capitalWords (dropArticle (dropBullet (trimStart line)))
      if label.1 = [] then none
      else ((afterSeparator? label.2).filter (!·.isEmpty)).map fun body => (label.1, body) := by
  unfold labelled?
  dsimp only
  split
  · rename_i heq
    rw [heq]
    rfl
  · rename_i name rest hname heq
    rw [heq, if_neg hname]
    split
    · rename_i body hbody
      rw [hbody]
      rfl
    · rename_i hbody
      cases hafter : afterSeparator? rest with
      | none => rfl
      | some body =>
        cases body with
        | nil => rfl
        | cons d body => exact absurd hafter (hbody d body)

theorem labelled?_concat (line : List Char) :
    labelled? (line ++ [c]) = (labelled? line).map fun (name, body) => (name, body ++ [c]) := by
  by_cases htrim : trimStart line = []
  · rw [labelled?, labelled?, trimStart_concat_of_eq_nil hc htrim, htrim,
      show dropArticle (dropBullet []) = [] from rfl, capitalWords]
    rfl
  rw [labelled?_eq, labelled?_eq, trimStart_concat_of_ne_nil htrim]
  dsimp only
  rcases dropBullet_concat hc (trimStart line) htrim with hfront | ⟨hnone, hnone'⟩
  · rw [hfront, dropArticle_concat hc, capitalWords_concat hc]
    dsimp only
    split_ifs
    · rfl
    · rw [filter_afterSeparator?_concat hc, Option.map_map, Option.map_map]
      rfl
  · rw [if_pos hnone, if_pos hnone']
    rfl

theorem cleanItem_concat (item : List Char) : cleanItem (item ++ [c]) = cleanItem item := by
  rw [cleanItem, cleanItem, trimChars_concat hc]

theorem listItems_concat (list : List Char) : listItems (list ++ [c]) = listItems list := by
  have hmark := forall_isBlank (P := fun d => !(d == ',' || d == ';')) (by decide) hc
  have hcut : (c == ',' || c == ';') = false := by simpa using hmark
  obtain ⟨pieces, last, hpieces, hconcat⟩ :=
    exists_splitOnP_concat (p := fun d => d == ',' || d == ';') hcut list
  rw [listItems, listItems, hpieces, hconcat]
  simp only [List.map_append, List.map_cons, List.map_nil, cleanItem_concat hc]

/-! ## Lines -/

omit hc in
theorem ne_nil_of_labelled? {line body : List Char} {name : List (List Char)}
    (h : labelled? line = some (name, body)) : body ≠ [] := by
  rw [labelled?_eq] at h
  dsimp only at h
  split_ifs at h
  obtain ⟨body', hbody, heq⟩ := Option.map_eq_some_iff.mp h
  obtain ⟨-, rfl⟩ := Prod.mk.inj heq
  have hne := (Option.filter_eq_some_iff.mp hbody).2
  simpa using hne

/-- A line is of one kind with and without a blank at its end, and only prose keeps it. -/
theorem classify_concat (line : List Char) :
    classify (line ++ [c]) =
      match classify line with
      | .attributes name items => .attributes name items
      | .prose text => .prose (text ++ [c]) := by
  unfold classify
  rw [labelled?_concat hc]
  cases hlabel : labelled? line with
  | none => rfl
  | some label =>
    obtain ⟨name, body⟩ := label
    -- the body is not empty, so whether it begins with a capital does not change either
    have hhead : (body ++ [c]).head? = body.head? :=
      List.head?_append_of_ne_nil _ (ne_nil_of_labelled? hlabel)
    rw [Option.map_some]
    dsimp only
    rw [listItems_concat hc, hhead]
    split_ifs
    · rfl
    · rfl
    · rfl

/-- **A blank at the end of a line changes nothing that the line says.** -/
theorem lineFindings_concat (line : List Char) :
    lineFindings (line ++ [c]) = lineFindings line := by
  unfold lineFindings
  rw [classify_concat hc]
  cases classify line with
  | attributes name items => rfl
  | prose text => exact congrArg (List.flatMap sentenceFindings) (Prose.sentences_concat hc text)

end Extraction

end Blank

/-! ## Texts -/

namespace Extraction

theorem lineFindings_nil : lineFindings [] = [] := by
  have hprose : classify [] = .prose [] := by
    rw [classify, labelled?_eq, show dropArticle (dropBullet (trimStart [])) = [] from rfl,
      capitalWords]
    rfl
  rw [lineFindings, hprose]
  rfl

/-- **A text that goes on after a line feed says what it said before and then what is new.** -/
theorem findings_append (a b : String) :
    findings (a ++ "\n" ++ b) = findings a ++ findings b := by
  rw [findings, String.toList_append, String.toList_append, List.append_assoc]
  exact flatMap_lines_append lineFindings_nil (lineFindings_concat (by decide)) a.toList b.toList

end Extraction

end Draftsman
