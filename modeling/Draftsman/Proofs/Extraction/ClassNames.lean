/-
Which classes a draft has, and in which order.

A line that lists attributes begins with a name, and every other line is read sentence by
sentence. The names of a sentence are its maximal runs of proper nouns, which are entered before
anything else is looked for. All that is found later belongs to names that were entered
(`Unnoticed`), so it neither adds a class nor moves one. Sentence after sentence and line after
line, the classes of a draft are therefore the names that the text mentions, each where it is
mentioned first (`class_names_are_first_mentions`).
-/
import Draftsman.Proofs.Extraction.Appending
import Mathlib.Data.List.Infix

set_option autoImplicit false

namespace Draftsman.Extraction

open Draftsman.Text Draftsman.Prose

/-! ## Maximal runs -/

/-- The maximal runs of proper nouns, from left to right: a run is followed by a word that is no
proper noun or by nothing, and what is in none of them is no proper noun. -/
inductive MaximalRuns : List Token → List (List Token) → Prop
  | nil : MaximalRuns [] []
  | skip {t : Token} {rest : List Token} {runs : List (List Token)}
      (ht : t.isProperNoun = false) (h : MaximalRuns rest runs) : MaximalRuns (t :: rest) runs
  | run {run rest : List Token} {runs : List (List Token)} (hne : run ≠ [])
      (hrun : ∀ t ∈ run, t.isProperNoun = true) (hrest : BeginsApart rest)
      (h : MaximalRuns rest runs) : MaximalRuns (run ++ rest) (run :: runs)

/-- **Every proper noun is in exactly one run**, in its place. -/
theorem MaximalRuns.flatten {tokens : List Token} {runs : List (List Token)}
    (h : MaximalRuns tokens runs) : runs.flatten = tokens.filter Token.isProperNoun := by
  induction h with
  | nil => rfl
  | skip ht h ih =>
    rw [List.filter_cons_of_neg (by simpa using ht)]
    exact ih
  | run hne hrun hrest h ih =>
    rw [List.flatten_cons, List.filter_append, List.filter_eq_self.mpr hrun, ih]

theorem nameRuns_nil : nameRuns [] = [] := rfl

theorem nameRuns_cons_of_not {t : Token} (ht : t.isProperNoun = false) (rest : List Token) :
    nameRuns (t :: rest) = nameRuns rest := by
  have hcut : (t :: rest).splitOnP (fun t => !t.isProperNoun) =
      [] :: rest.splitOnP fun t => !t.isProperNoun := by
    rw [List.splitOnP_cons_eq_if_modifyHead, if_pos (by simpa using ht)]
  rw [nameRuns, hcut, List.filter_cons_of_neg (by decide)]
  rfl

theorem nameRuns_append_of_forall {before : List Token}
    (hbefore : ∀ t ∈ before, t.isProperNoun = false) (rest : List Token) :
    nameRuns (before ++ rest) = nameRuns rest := by
  induction before with
  | nil => rfl
  | cons t before ih =>
    rw [List.cons_append, nameRuns_cons_of_not (hbefore t List.mem_cons_self),
      ih fun u hu => hbefore u (List.mem_cons_of_mem t hu)]

/-- No name reaches over a place where no proper noun follows. -/
theorem nameRuns_append_of_beginsApart (tokens : List Token) {rest : List Token}
    (hrest : BeginsApart rest) : nameRuns (tokens ++ rest) = nameRuns tokens ++ nameRuns rest := by
  cases rest with
  | nil => rw [nameRuns_nil, List.append_nil, List.append_nil]
  | cons t rest =>
    have ht : t.isProperNoun = false := hrest t rfl
    rw [nameRuns_cons_of_not ht, nameRuns, nameRuns, nameRuns,
      List.splitOnP_append_cons _ _ (by rw [ht, Bool.not_false]), List.filter_append]

theorem nameRuns_append {run rest : List Token} (hne : run ≠ [])
    (hrun : ∀ t ∈ run, t.isProperNoun = true) (hrest : BeginsApart rest) :
    nameRuns (run ++ rest) = run :: nameRuns rest := by
  have hnocut : ∀ t ∈ run, (!t.isProperNoun) = false := fun t ht => by rw [hrun t ht, Bool.not_true]
  have hkeep (more : List (List Token)) : (run :: more).filter (fun run => !run.isEmpty) =
      run :: more.filter (fun run => !run.isEmpty) :=
    List.filter_cons_of_pos (by simpa using hne)
  cases rest with
  | nil =>
    rw [List.append_nil, nameRuns, List.splitOnP_eq_singleton hnocut, hkeep]
    rfl
  | cons t rest =>
    have ht : t.isProperNoun = false := hrest t rfl
    rw [nameRuns_cons_of_not ht, nameRuns,
      List.splitOnP_append_cons_of_forall_mem hnocut t (by rw [ht, Bool.not_false]), hkeep]
    rfl

/-- **The names of a sentence are its maximal runs of proper nouns.** -/
theorem nameRuns_eq_iff {tokens : List Token} {runs : List (List Token)} :
    nameRuns tokens = runs ↔ MaximalRuns tokens runs := by
  constructor
  · rintro rfl
    induction hn : tokens.length using Nat.strong_induction_on generalizing tokens with
    | _ n ih =>
      cases tokens with
      | nil => exact .nil
      | cons t rest =>
        cases ht : t.isProperNoun with
        | false =>
          rw [nameRuns_cons_of_not ht]
          exact .skip ht (ih rest.length (by rw [← hn]; exact Nat.lt_succ_self _) rfl)
        | true =>
          -- the first run reaches as far as the proper nouns do
          have hne : (t :: rest).takeWhile Token.isProperNoun ≠ [] := by
            rw [List.takeWhile_cons_of_pos ht]
            exact List.cons_ne_nil _ _
          have hapart := beginsApart_dropWhile (fun _ h => h) (t :: rest)
          have hshort : ((t :: rest).dropWhile Token.isProperNoun).length < n := by
            rw [← hn, List.dropWhile_cons_of_pos ht]
            exact Nat.lt_succ_of_le (List.dropWhile_suffix _).length_le
          have hruns := MaximalRuns.run hne (fun t ht => List.mem_takeWhile_imp ht) hapart
            (ih _ hshort rfl)
          rwa [← nameRuns_append hne (fun t ht => List.mem_takeWhile_imp ht) hapart,
            List.takeWhile_append_dropWhile] at hruns
  · intro h
    induction h with
    | nil => exact nameRuns_nil
    | skip ht h ih => rw [nameRuns_cons_of_not ht, ih]
    | run hne hrun hrest h ih => rw [nameRuns_append hne hrun hrest, ih]

/-! ## Names that are entered -/

theorem names_foldl_record_eq (m : ClassModel) (fs : List Finding) :
    (fs.foldl record m).names = addAll id m.names (fs.flatMap Finding.owners) := by
  induction fs generalizing m with
  | nil => rfl
  | cons f fs ih => rw [List.foldl_cons, ih, names_record, List.flatMap_cons, addAll_append]

/-- Findings that make no difference to the classes, in whatever number and order, once others are
recorded. -/
def Unnoticed (named later : List Finding) : Prop :=
  ∀ (m : ClassModel) (fs : List Finding), fs ⊆ later →
    (fs.foldl record (named.foldl record m)).names = (named.foldl record m).names

theorem unnoticed_of_owners {named later : List Finding}
    (h : ∀ f ∈ later, ∀ name ∈ f.owners, .named name ∈ named) : Unnoticed named later := by
  intro m fs hfs
  rw [names_foldl_record_eq]
  refine addAll_eq_self fun name hname => ?_
  obtain ⟨f, hf, howner⟩ := List.mem_flatMap.mp hname
  rw [List.map_id]
  exact mem_names_foldl_record (h f (hfs hf) name howner) m

theorem Unnoticed.names_eq {named later : List Finding} (h : Unnoticed named later)
    (m : ClassModel) :
    ((named ++ later).foldl record m).names = addAll id m.names (named.flatMap Finding.owners) := by
  rw [List.foldl_append, h m later (List.Subset.refl later), names_foldl_record_eq]

/-- The findings that enter the names of a sentence. -/
def namedFindings (runs : List (List Token)) : List Finding :=
  runs.map fun run => .named (nameText run)

theorem owners_namedFindings (runs : List (List Token)) :
    (namedFindings runs).flatMap Finding.owners = runs.map nameText := by
  rw [namedFindings, List.flatMap_map]
  exact List.map_eq_flatMap.symm

/-! ## Sentences and lines -/

/-- **What a sentence says besides its names goes unnoticed**: its attributes and methods have names
of the sentence for their subjects, and a relationship enters no name at all. -/
theorem exists_unnoticed_sentence (sentence : List Char) :
    ∃ later, sentenceFindings sentence = namedFindings (nameRuns (tagSentence sentence)) ++ later ∧
      Unnoticed (namedFindings (nameRuns (tagSentence sentence))) later := by
  set tokens := tagSentence sentence
  refine ⟨(views tokens).flatMap attributeFindings ++ ((views tokens).flatMap methodFindings ++
    (views tokens).flatMap (relationshipFindings sentence)), ?_,
    unnoticed_of_owners fun f hf name hname => ?_⟩
  · rw [sentenceFindings, List.append_assoc, List.append_assoc]
    rfl
  · simp only [List.mem_append, List.mem_flatMap] at hf
    rcases hf with ⟨v, hv, hf⟩ | ⟨v, hv, hf⟩ | ⟨v, hv, hf⟩
    · obtain ⟨subject, hsubject, item, -, -, rfl⟩ := exists_of_mem_attributeFindings hv hf
      rw [List.mem_singleton.mp hname]
      exact List.mem_map_of_mem hsubject
    · obtain ⟨subject, hsubject, verb, -, rfl⟩ := exists_of_mem_methodFindings hv hf
      rw [List.mem_singleton.mp hname]
      exact List.mem_map_of_mem hsubject
    · obtain ⟨subject, -, object, -, rfl⟩ := exists_of_mem_relationshipFindings hv hf
      exact absurd hname List.not_mem_nil

/-- What a line lists besides its name goes unnoticed. -/
theorem unnoticed_attributes (name : String) (items : List (List Char)) :
    Unnoticed [.named name] (items.map fun item => .attribute name (String.ofList item)) := by
  refine unnoticed_of_owners fun f hf owner howner => ?_
  obtain ⟨item, -, rfl⟩ := List.mem_map.mp hf
  rw [List.mem_singleton.mp howner]
  exact List.mem_singleton_self _

/-- The names that a line mentions, in the order in which it does, for some reading of the runs of
a sentence. -/
def Line.mentions (runsOf : List Token → List (List Token)) : Line → List String
  | .attributes name _ => [String.ofList name]
  | .prose text => (sentences text).flatMap fun sentence =>
      (runsOf (tagSentence sentence)).map nameText

/-- The names that a text mentions, line by line. -/
def mentions (runsOf : List Token → List (List Token)) (text : String) : List String :=
  (lines text.toList).flatMap fun line => (classify line).mentions runsOf

/-- Pieces that each enter what they mention, one after the other. -/
theorem names_foldl_flatMap {α : Type} {found : α → List Finding} {mentioned : α → List String}
    (h : ∀ (m : ClassModel) (a : α),
      ((found a).foldl record m).names = addAll id m.names (mentioned a))
    (m : ClassModel) (pieces : List α) :
    ((pieces.flatMap found).foldl record m).names =
      addAll id m.names (pieces.flatMap mentioned) := by
  induction pieces generalizing m with
  | nil => rfl
  | cons piece pieces ih =>
    rw [List.flatMap_cons, List.foldl_append, ih, h, List.flatMap_cons, addAll_append]

/-- **A sentence enters its names and no other.** -/
theorem names_foldl_sentenceFindings (m : ClassModel) (sentence : List Char) :
    ((sentenceFindings sentence).foldl record m).names =
      addAll id m.names ((nameRuns (tagSentence sentence)).map nameText) := by
  obtain ⟨later, hsplit, hlater⟩ := exists_unnoticed_sentence sentence
  rw [hsplit, hlater.names_eq, owners_namedFindings]

/-- **A line enters what it mentions.** -/
theorem names_foldl_lineFindings (m : ClassModel) (line : List Char) :
    ((lineFindings line).foldl record m).names =
      addAll id m.names ((classify line).mentions nameRuns) := by
  unfold lineFindings
  cases classify line with
  | attributes name items => exact (unnoticed_attributes (String.ofList name) items).names_eq m
  | prose text => exact names_foldl_flatMap names_foldl_sentenceFindings m (sentences text)

/-! ## What a line is read as -/

theorem dropBullet_suffix (cs : List Char) : dropBullet cs <:+ cs := by
  unfold dropBullet
  split
  · rename_i c rest
    split_ifs
    · exact (List.dropWhile_suffix _).trans (List.suffix_cons c rest)
    · exact List.suffix_rfl
  · exact List.suffix_rfl

theorem dropArticle_suffix (cs : List Char) : dropArticle cs <:+ cs := by
  unfold dropArticle
  cases hfound : ["the", "an", "a"].findSome? (afterArticle? · cs) with
  | none => exact List.suffix_rfl
  | some rest =>
    obtain ⟨article, -, harticle⟩ := List.exists_of_findSome?_eq_some hfound
    unfold afterArticle? at harticle
    dsimp only at harticle
    split_ifs at harticle
    rw [← Option.some.inj harticle]
    exact (List.dropWhile_suffix _).trans (List.drop_suffix _ _)

theorem capitalWords_suffix (cs : List Char) : (capitalWords cs).2 <:+ cs := by
  induction cs using capitalWords.induct with
  | case1 =>
    rw [capitalWords]
  | case2 c tail hc rest hmore ih =>
    rw [capitalWords, if_pos hc]
    dsimp only
    rw [if_pos hmore]
    have hrest : rest <:+ c :: tail := (List.dropWhile_suffix _).trans (List.suffix_cons c tail)
    exact ih.trans ((List.dropWhile_suffix _).trans hrest)
  | case3 c tail hc rest hmore =>
    rw [capitalWords, if_pos hc]
    dsimp only
    rw [if_neg hmore]
    exact (List.dropWhile_suffix _).trans (List.suffix_cons c tail)
  | case4 c tail hc =>
    rw [capitalWords, if_neg hc]

theorem afterSeparator?_suffix {cs body : List Char} (h : afterSeparator? cs = some body) :
    body <:+ cs := by
  have htrim : trimStart cs <:+ cs := List.dropWhile_suffix _
  unfold afterSeparator? at h
  split at h
  · rename_i rest heq
    rw [← Option.some.inj h]
    exact (List.dropWhile_suffix _).trans ((List.suffix_cons ':' rest).trans (heq ▸ htrim))
  · rename_i c rest _ heq
    split_ifs at h
    rw [← Option.some.inj h]
    exact (List.dropWhile_suffix _).trans ((List.suffix_cons c rest).trans (heq ▸ htrim))
  · exact absurd h (by simp)

/-- What follows the words of a label ends the line. -/
theorem afterLabel_suffix (line : List Char) :
    (capitalWords (dropArticle (dropBullet (trimStart line)))).2 <:+ line :=
  (capitalWords_suffix _).trans
    ((dropArticle_suffix _).trans ((dropBullet_suffix _).trans (List.dropWhile_suffix _)))

theorem labelled?_suffix {line body : List Char} {label : List (List Char)}
    (h : labelled? line = some (label, body)) : body <:+ line := by
  rw [labelled?_eq] at h
  dsimp only at h
  split_ifs at h
  obtain ⟨body', hbody, heq⟩ := Option.map_eq_some_iff.mp h
  obtain ⟨-, rfl⟩ := Prod.mk.inj heq
  exact (afterSeparator?_suffix (Option.filter_eq_some_iff.mp hbody).1).trans
    (afterLabel_suffix line)

/-- A line is read as a list of attributes with its label for a name, its words one space apart, or
as prose, all of it or what follows its label. -/
inductive Line.ReadFrom (line : List Char) : Line → Prop
  | attributes {label : List (List Char)} {body : List Char} {items : List (List Char)}
      (h : labelled? line = some (label, body)) :
      ReadFrom line (.attributes ([' '].intercalate label) items)
  | whole : ReadFrom line (.prose line)
  | unlabelled {label : List (List Char)} {body : List Char}
      (h : labelled? line = some (label, body)) (hbody : body <:+ line) :
      ReadFrom line (.prose body)

theorem readFrom_classify (line : List Char) : (classify line).ReadFrom line := by
  unfold classify
  split
  · exact .whole
  · rename_i label body hlabel
    dsimp only
    split_ifs
    · exact .attributes hlabel
    · exact .unlabelled hlabel (labelled?_suffix hlabel)
    · exact .whole

/-! ## Texts -/

theorem eraseDups_eq_addAll (names : List String) : names.eraseDups = addAll id [] names := by
  rw [← eraseDupsBy_eq_addAll]
  rfl

/-- **The classes of a draft are the names that the text mentions, each where it is mentioned
first.** A line that lists attributes mentions its label, and any other line, sentence by sentence,
the maximal runs of proper nouns, so that each proper noun belongs to one of them. What a sentence
says besides goes unnoticed by the classes, and so do the attributes that a line lists. -/
theorem class_names_are_first_mentions (text : String) :
    ∃ runsOf : List Token → List (List Token),
      (∀ tokens, MaximalRuns tokens (runsOf tokens) ∧
        (runsOf tokens).flatten = tokens.filter Token.isProperNoun) ∧
      (extract text).classes.map ClassEntry.name = (mentions runsOf text).eraseDups ∧
      (∀ line, (classify line).ReadFrom line ∧
        match classify line with
        | .attributes name _ => ∃ later, lineFindings line = .named (String.ofList name) :: later ∧
            Unnoticed [.named (String.ofList name)] later
        | .prose text => lineFindings line = (sentences text).flatMap sentenceFindings) ∧
      ∀ sentence, ∃ later,
        sentenceFindings sentence = namedFindings (runsOf (tagSentence sentence)) ++ later ∧
        Unnoticed (namedFindings (runsOf (tagSentence sentence))) later := by
  refine ⟨nameRuns, fun tokens => ?_, ?_, fun line => ⟨readFrom_classify line, ?_⟩,
    exists_unnoticed_sentence⟩
  · have hruns := nameRuns_eq_iff.mp (Eq.refl (nameRuns tokens))
    exact ⟨hruns, hruns.flatten⟩
  · rw [eraseDups_eq_addAll]
    exact names_foldl_flatMap names_foldl_lineFindings .empty (lines text.toList)
  · unfold lineFindings
    cases classify line with
    | attributes name items => exact ⟨_, rfl, unnoticed_attributes (String.ofList name) items⟩
    | prose text => rfl

end Draftsman.Extraction
