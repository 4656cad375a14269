/-
Every name that a sentence mentions is a run of its proper nouns.

Subjects and objects are cut out of a sentence by other means than its names are: a subject
is read backwards from its verb, objects are read item by item. Both cuts end where no
proper noun stands, though, so a subject, and an object that consists of proper nouns, is a
maximal run of them, and one of the names of the sentence (`mem_nameRuns_of_subject?`,
`mem_nameRuns_of_mem_objectItems`).
-/
import Draftsman.Proofs.Extraction.Coordination
import Draftsman.Proofs.Prose.Tokens

set_option autoImplicit false

namespace Draftsman.Extraction

open Draftsman.Prose

/-! ## Classes that exclude proper nouns -/

theorem not_isProperNoun_of_isTransparent {t : Token} (h : isTransparent t = true) :
    t.isProperNoun = false := by
  have htag : t.tag ≠ .properNoun := by
    intro hproper
    simp [isTransparent, Token.isAuxiliary, hproper] at h
  simpa [Token.isProperNoun] using htag

theorem not_isProperNoun_of_isModifier {t : Token} (h : isModifier t = true) :
    t.isProperNoun = false := by
  have htag : t.tag ≠ .properNoun := by
    intro hproper
    simp [isModifier, hproper] at h
  simpa [Token.isProperNoun] using htag

theorem not_isProperNoun_of_isSeparator {t : Token} (h : t.isSeparator = true) :
    t.isProperNoun = false := by
  have htag : t.tag ≠ .properNoun := by
    intro hproper
    simp [Token.isSeparator, Token.isMark, hproper] at h
  simpa [Token.isProperNoun] using htag

theorem not_isProperNoun_of_tag {t : Token} {tag : Tag} (h : t.tag = tag)
    (hne : tag ≠ .properNoun) : t.isProperNoun = false := by
  simpa [Token.isProperNoun, h] using hne

theorem not_isProperNoun_of_not_isNoun {t : Token} (h : t.isNoun = false) :
    t.isProperNoun = false :=
  (Bool.or_eq_false_iff.mp h).2

/-! ## Stretches that no proper noun touches -/

/-- The words do not end in a proper noun. -/
def EndsApart (tokens : List Token) : Prop := ∀ t ∈ tokens.getLast?, t.isProperNoun = false

/-- The words do not begin with a proper noun. -/
def BeginsApart (tokens : List Token) : Prop := ∀ t ∈ tokens.head?, t.isProperNoun = false

/-- A stretch of a sentence that no proper noun touches from outside. -/
def StandsApart (run tokens : List Token) : Prop :=
  ∃ before after, tokens = before ++ (run ++ after) ∧ EndsApart before ∧ BeginsApart after

theorem endsApart_concat {tokens : List Token} {t : Token} (h : t.isProperNoun = false) :
    EndsApart (tokens ++ [t]) := by
  intro u hu
  rw [List.getLast?_concat, Option.mem_some_iff] at hu
  exact hu ▸ h

theorem EndsApart.append {a b : List Token} (ha : EndsApart a) (hb : EndsApart b) :
    EndsApart (a ++ b) := by
  rcases List.eq_nil_or_concat b with rfl | ⟨b, t, rfl⟩
  · rwa [List.append_nil]
  · rw [List.concat_eq_append, ← List.append_assoc]
    refine endsApart_concat (hb t ?_)
    rw [List.concat_eq_append, List.getLast?_concat, Option.mem_some_iff]

theorem endsApart_of_forall {tokens : List Token} (h : ∀ t ∈ tokens, t.isProperNoun = false) :
    EndsApart tokens :=
  fun t ht => h t (List.mem_of_getLast? ht)

theorem beginsApart_append_of_forall {a b : List Token} (ha : ∀ t ∈ a, t.isProperNoun = false)
    (hb : BeginsApart b) : BeginsApart (a ++ b) := by
  cases a with
  | nil => exact hb
  | cons t a =>
    intro u hu
    rw [List.cons_append, List.head?_cons, Option.mem_some_iff] at hu
    exact hu ▸ ha t List.mem_cons_self

/-- What is left when a run of words of some class is taken away, if the class holds all
proper nouns. -/
theorem beginsApart_dropWhile {p : Token → Bool}
    (hp : ∀ t, p t = false → t.isProperNoun = false) (tokens : List Token) :
    BeginsApart (tokens.dropWhile p) := by
  intro t ht
  have h := List.head?_dropWhile_not p tokens
  rw [Option.mem_def.mp ht] at h
  exact hp t (by simpa using h)

theorem StandsApart.append_left {run tokens before : List Token} (h : StandsApart run tokens)
    (hbefore : EndsApart before) : StandsApart run (before ++ tokens) := by
  obtain ⟨a, b, rfl, ha, hb⟩ := h
  exact ⟨before ++ a, b, (List.append_assoc ..).symm, hbefore.append ha, hb⟩

theorem StandsApart.subset {run tokens : List Token} (h : StandsApart run tokens) :
    run ⊆ tokens := by
  obtain ⟨a, b, rfl, -, -⟩ := h
  exact fun t ht => List.mem_append_right a (List.mem_append_left b ht)

/-! ## The names of a sentence -/

/-- The cut at every word that is no proper noun finds a run of proper nouns that stands
apart. -/
theorem mem_nameRuns {run tokens : List Token} (h : StandsApart run tokens) (hne : run ≠ [])
    (hrun : isName run = true) : run ∈ nameRuns tokens := by
  obtain ⟨before, after, rfl, hbefore, hafter⟩ := h
  have hrun' : ∀ t ∈ run, (!t.isProperNoun) = false := by
    intro t ht
    rw [List.all_eq_true.mp hrun t ht, Bool.not_true]
  refine List.mem_filter.mpr ⟨?_, by simpa using hne⟩
  -- the run ends where the words after it begin, for the first of them is a cut
  have hcut : run ∈ (run ++ after).splitOnP (fun t => !t.isProperNoun) := by
    cases after with
    | nil =>
      rw [List.append_nil, List.splitOnP_eq_singleton hrun']
      exact List.mem_singleton_self run
    | cons t after =>
      have ht : t.isProperNoun = false := hafter t rfl
      rw [List.splitOnP_append_cons_of_forall_mem hrun' t (by rw [ht, Bool.not_false])]
      exact List.mem_cons_self
  -- and the last word before it is a cut too, so no piece reaches over from there
  rcases List.eq_nil_or_concat before with rfl | ⟨before, t, rfl⟩
  · exact hcut
  · have ht : t.isProperNoun = false := hbefore t (by simp)
    rw [List.concat_eq_append, List.append_assoc, List.singleton_append,
      List.splitOnP_append_cons _ _ (by rw [ht, Bool.not_false])]
    exact List.mem_append_right _ hcut

theorem ne_nil_of_mem_nameRuns {run tokens : List Token} (h : run ∈ nameRuns tokens) :
    run ≠ [] := by
  simpa using (List.mem_filter.mp h).2

theorem forall_mem_nameRuns {run tokens : List Token} (h : run ∈ nameRuns tokens) :
    ∀ t ∈ run, t ∈ tokens ∧ t.isProperNoun = true := by
  intro t ht
  have hpiece := Text.forall_mem_splitOnP (List.mem_filter.mp h).1 t ht
  exact ⟨hpiece.1, by simpa using hpiece.2⟩

/-! ## Subjects -/

/-- A subject is a maximal run of proper nouns: the words between it and its verb are none,
and neither is the one before it. -/
theorem standsApart_subject {before after subject : List Token}
    (h : subject? before = some subject) (hafter : BeginsApart after) :
    StandsApart subject (before.reverse ++ after) ∧ subject ≠ [] ∧ isName subject = true := by
  unfold subject? at h
  split at h
  · exact absurd h (by simp)
  · rename_i run hne
    have hrun := Option.some.inj h
    -- `before` runs from the verb backwards: transparent words, the subject, the rest
    set body := before.dropWhile isTransparent with hbody
    have hsplit : before = before.takeWhile isTransparent
        ++ (body.takeWhile Token.isProperNoun ++ body.dropWhile Token.isProperNoun) := by
      rw [List.takeWhile_append_dropWhile, hbody, List.takeWhile_append_dropWhile]
    refine ⟨⟨(body.dropWhile Token.isProperNoun).reverse,
      (before.takeWhile isTransparent).reverse ++ after, ?_, ?_, ?_⟩, ?_, ?_⟩
    · rw [← hrun]
      conv => lhs; rw [hsplit]
      simp only [List.reverse_append, List.append_assoc]
    · intro t ht
      rw [List.getLast?_reverse] at ht
      exact beginsApart_dropWhile (fun _ h => h) body t ht
    · refine beginsApart_append_of_forall (fun t ht => ?_) hafter
      exact not_isProperNoun_of_isTransparent (List.mem_takeWhile_imp (List.mem_reverse.mp ht))
    · rw [← hrun]
      exact fun hnil => hne (List.reverse_eq_nil_iff.mp hnil)
    · rw [← hrun]
      refine List.all_eq_true.mpr fun t ht => ?_
      exact List.mem_takeWhile_imp (List.mem_reverse.mp ht)

/-- **The subject of a verb is a name of the sentence.** -/
theorem mem_nameRuns_of_subject? {before after subject : List Token}
    (h : subject? before = some subject) (hafter : BeginsApart after) :
    subject ∈ nameRuns (before.reverse ++ after) := by
  obtain ⟨hapart, hne, hname⟩ := standsApart_subject h hafter
  exact mem_nameRuns hapart hne hname

/-! ## Objects -/

theorem IsLink.not_isProperNoun {link rest : List Token} (h : IsLink link rest) :
    ∀ t ∈ link, t.isProperNoun = false := by
  obtain ⟨separator, more, rfl, hseparator, -, hmore⟩ := h.exists_cons
  intro t ht
  rcases List.mem_cons.mp ht with rfl | ht
  · exact not_isProperNoun_of_isSeparator hseparator
  · exact not_isProperNoun_of_tag (hmore t ht) (by decide)

theorem IsLink.beginsApart {link rest : List Token} (h : IsLink link rest) :
    BeginsApart (link ++ rest) := by
  obtain ⟨separator, more, rfl, -⟩ := h.exists_cons
  intro t ht
  rw [List.cons_append, List.head?_cons, Option.mem_some_iff] at ht
  exact ht ▸ h.not_isProperNoun separator List.mem_cons_self

theorem IsLink.endsApart {link rest : List Token} (h : IsLink link rest) (before : List Token) :
    EndsApart (before ++ link) := by
  have hnone := h.not_isProperNoun
  obtain ⟨separator, more, rfl, -⟩ := h.exists_cons
  rw [← List.singleton_append, ← List.append_assoc]
  refine (endsApart_concat (hnone separator List.mem_cons_self)).append (endsApart_of_forall ?_)
  exact fun t ht => hnone t (List.mem_cons_of_mem separator ht)

/-- The items of a list stand apart, and none is empty: in front of an item are modifiers or a link,
and behind it is no noun. -/
theorem Coordinated.standsApart {tokens left : List Token} {items : List (List Token)}
    (h : Coordinated tokens items left) :
    ∀ item ∈ items, StandsApart item tokens ∧ item ≠ [] := by
  have hbefore {modifiers : List Token} (hmodifiers : ∀ t ∈ modifiers, isModifier t = true) :
      EndsApart modifiers :=
    endsApart_of_forall fun t ht => not_isProperNoun_of_isModifier (hmodifiers t ht)
  induction h with
  | stop => exact fun item hitem => absurd hitem List.not_mem_nil
  | @last modifiers item left hmodifiers hne hnouns hleft =>
    intro other hother
    rw [List.mem_singleton.mp hother]
    refine ⟨⟨modifiers, left, rfl, hbefore hmodifiers, fun t ht => ?_⟩, hne⟩
    exact not_isProperNoun_of_not_isNoun (hleft t ht).1
  | @more modifiers item link rest left items hmodifiers hne hnouns hlink hrest ih =>
    intro other hother
    rcases List.mem_cons.mp hother with rfl | hother
    · exact ⟨⟨modifiers, link ++ rest, rfl, hbefore hmodifiers, hlink.beginsApart⟩, hne⟩
    · -- the link stands in front of all later items
      have hlater := (ih other hother).1.append_left (hlink.endsApart (modifiers ++ item))
      rw [List.append_assoc, List.append_assoc] at hlater
      exact ⟨hlater, (ih other hother).2⟩

theorem standsApart_of_mem_objectItems {tokens item : List Token}
    (h : item ∈ objectItems tokens) : StandsApart item tokens ∧ item ≠ [] := by
  obtain ⟨left, hlist⟩ := exists_coordinated tokens
  exact hlist.standsApart item h

/-- **An object that consists of proper nouns is a name of the sentence**, if the words in
front of the list do not end in one. -/
theorem mem_nameRuns_of_mem_objectItems {before tokens item : List Token}
    (h : item ∈ objectItems tokens) (hname : isName item = true) (hbefore : EndsApart before) :
    item ∈ nameRuns (before ++ tokens) := by
  obtain ⟨hapart, hne⟩ := standsApart_of_mem_objectItems h
  exact mem_nameRuns (hapart.append_left hbefore) hne hname

theorem subset_of_mem_objectItems {tokens item : List Token} (h : item ∈ objectItems tokens) :
    item ⊆ tokens :=
  (standsApart_of_mem_objectItems h).1.subset

/-! ## Verbs that a modal governs -/

theorem mem_of_mem_coordinatedVerbs {armed : Bool} {tokens : List Token} {t : Token}
    (h : t ∈ coordinatedVerbs armed tokens) : t ∈ tokens := by
  induction tokens generalizing armed with
  | nil => exact h
  | cons first rest ih =>
    rw [coordinatedVerbs] at h
    split_ifs at h
    · exact absurd h List.not_mem_nil
    · exact List.mem_cons_of_mem first (ih h)
    · rcases List.mem_cons.mp h with rfl | h
      · exact List.mem_cons_self
      · exact List.mem_cons_of_mem first (ih h)
    · exact List.mem_cons_of_mem first (ih h)

theorem mem_of_mem_governedVerbs {after : List Token} {t : Token} (h : t ∈ governedVerbs after) :
    t ∈ after := by
  unfold governedVerbs at h
  split at h
  · rename_i first rest hrest
    split_ifs at h
    · refine (List.dropWhile_suffix (fun t : Token => decide (t.tag = .adverb))).subset ?_
      rw [hrest]
      rcases List.mem_cons.mp h with rfl | h
      · exact List.mem_cons_self
      · exact List.mem_cons_of_mem first (mem_of_mem_coordinatedVerbs h)
    · exact absurd h List.not_mem_nil
  · exact absurd h List.not_mem_nil

/-! ## Words in their places -/

theorem eq_of_mem_viewsAfter {before tokens : List Token} {v : View}
    (h : v ∈ viewsAfter before tokens) :
    v.before.reverse ++ v.token :: v.after = before.reverse ++ tokens := by
  induction tokens generalizing before with
  | nil => exact absurd h List.not_mem_nil
  | cons t rest ih =>
    rw [viewsAfter] at h
    rcases List.mem_cons.mp h with rfl | h
    · rfl
    · rw [ih h, List.reverse_cons, List.append_assoc, List.singleton_append]

/-- A word in its place is the whole sentence again. -/
theorem eq_of_mem_views {tokens : List Token} {v : View} (h : v ∈ views tokens) :
    v.before.reverse ++ v.token :: v.after = tokens :=
  eq_of_mem_viewsAfter h

theorem mem_of_mem_after {tokens : List Token} {v : View} (hv : v ∈ views tokens) {t : Token}
    (h : t ∈ v.after) : t ∈ tokens := by
  rw [← eq_of_mem_views hv]
  exact List.mem_append_right _ (List.mem_cons_of_mem _ h)

theorem token_mem {tokens : List Token} {v : View} (hv : v ∈ views tokens) : v.token ∈ tokens := by
  rw [← eq_of_mem_views hv]
  exact List.mem_append_right _ List.mem_cons_self

/-- The subject of the word at a place is a name of the sentence, if the word is none
itself. -/
theorem subject_mem_nameRuns {tokens subject : List Token} {v : View} (hv : v ∈ views tokens)
    (htoken : v.token.isProperNoun = false) (h : subject? v.before = some subject) :
    subject ∈ nameRuns tokens := by
  rw [← eq_of_mem_views hv]
  refine mem_nameRuns_of_subject? h fun t ht => ?_
  rw [List.head?_cons, Option.mem_some_iff] at ht
  exact ht ▸ htoken

/-- The objects of a verb that are names are names of the sentence: only the verb and
prepositions stand before the list of them. -/
theorem object_mem_nameRuns {tokens object : List Token} {v : View} (hv : v ∈ views tokens)
    (htoken : v.token.isProperNoun = false)
    (h : object ∈ objectItems (v.after.dropWhile (fun t => t.tag = .preposition)))
    (hname : isName object = true) : object ∈ nameRuns tokens := by
  have hsplit : tokens = (v.before.reverse ++ [v.token]
      ++ v.after.takeWhile (fun t => t.tag = .preposition))
      ++ v.after.dropWhile (fun t => t.tag = .preposition) := by
    rw [List.append_assoc, List.takeWhile_append_dropWhile, List.append_assoc,
      List.singleton_append, eq_of_mem_views hv]
  rw [hsplit]
  refine mem_nameRuns_of_mem_objectItems h hname ?_
  refine (endsApart_concat htoken).append (endsApart_of_forall fun t ht => ?_)
  have htag : t.tag = .preposition := by simpa using List.mem_takeWhile_imp ht
  exact not_isProperNoun_of_tag htag (by decide)

/-! ## What a finding is made of

Whatever a sentence says, it says of its names: each finding has one of them as its subject, and
what it adds is taken from the sentence. -/

section Findings

variable {tokens : List Token} {v : View} (hv : v ∈ views tokens) {f : Finding}
include hv

/-- An attribute is an item of a list after a verb. -/
theorem exists_of_mem_attributeFindings (hf : f ∈ attributeFindings v) :
    ∃ subject ∈ nameRuns tokens, ∃ item, item ≠ [] ∧ item ⊆ tokens ∧
      f = .attribute (nameText subject) (nameText item) := by
  unfold attributeFindings at hf
  split_ifs at hf with hverb
  · split at hf
    · exact absurd hf List.not_mem_nil
    · rename_i subject hsubject
      obtain ⟨item, hitem, rfl⟩ := List.mem_map.mp hf
      have hobject := (List.mem_filter.mp hitem).1
      simp only [Bool.and_eq_true, decide_eq_true_eq] at hverb
      have htoken := not_isProperNoun_of_tag hverb.1 (by decide)
      refine ⟨subject, subject_mem_nameRuns hv htoken hsubject, item, ?_, ?_, rfl⟩
      · exact (standsApart_of_mem_objectItems hobject).2
      · exact fun t ht => mem_of_mem_after hv (subset_of_mem_objectItems hobject ht)
  · exact absurd hf List.not_mem_nil

/-- A method is the base form of a verb. -/
theorem exists_of_mem_methodFindings (hf : f ∈ methodFindings v) :
    ∃ subject ∈ nameRuns tokens, ∃ verb ∈ tokens,
      f = .method (nameText subject) (String.ofList verb.base ++ "()") := by
  unfold methodFindings at hf
  split_ifs at hf with hmodal
  · split at hf
    · exact absurd hf List.not_mem_nil
    · rename_i subject hsubject
      obtain ⟨verb, hverb, rfl⟩ := List.mem_map.mp hf
      -- a modal is no proper noun, so the subject is not cut short by it
      have htoken := not_isProperNoun_of_tag hmodal (by decide)
      exact ⟨subject, subject_mem_nameRuns hv htoken hsubject, verb,
        mem_of_mem_after hv (mem_of_mem_governedVerbs hverb), rfl⟩
  · exact absurd hf List.not_mem_nil

/-- A relationship leads from a name to a name. -/
theorem exists_of_mem_relationshipFindings {sentence : List Char}
    (hf : f ∈ relationshipFindings sentence v) :
    ∃ subject ∈ nameRuns tokens, ∃ object ∈ nameRuns tokens,
      f = .related (relationshipOf sentence v.token subject object) := by
  unfold relationshipFindings at hf
  split_ifs at hf with hverb
  · split at hf
    · exact absurd hf List.not_mem_nil
    · rename_i subject hsubject
      obtain ⟨object, hobject, rfl⟩ := List.mem_map.mp hf
      obtain ⟨hobject, hname⟩ := List.mem_filter.mp hobject
      simp only [Bool.and_eq_true, decide_eq_true_eq] at hverb
      have htoken := not_isProperNoun_of_tag hverb.1 (by decide)
      exact ⟨subject, subject_mem_nameRuns hv htoken hsubject, object,
        object_mem_nameRuns hv htoken hobject hname, rfl⟩
  · exact absurd hf List.not_mem_nil

end Findings

end Draftsman.Extraction
