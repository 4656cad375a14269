/-
In which order a modal grants its methods.

The scan for coordinated verbs is told apart here by places. It moves in two ways only: at a
separator with a verb next behind it, adverbs apart, it collects the verb and goes on behind it
(`coordinatedVerbs_take`); at any other word but a modal it goes one word on, as if it had just
begun (`coordinatedVerbs_pass`). A move of the first kind jumps over adverbs and one verb. None of
them is a separator or a modal, so no verb is missed, and the scan never turns back, so none is
collected twice. By induction on the words that are left, the places of the collected verbs
are in increasing order the places of all verbs that some separator joins to the first one
(`exists_collectedBehind`), and the methods of the subject grow by them in that order
(`modal_grants_in_order`).
-/
import Draftsman.Proofs.Extraction.GrantedMethods

set_option autoImplicit false

namespace Draftsman.Extraction

open Draftsman.Text Draftsman.Prose

/-! ## The two ways to move -/

theorem coordinatedVerbs_behind_separator {adverbs : List Token}
    (hadverbs : ∀ t ∈ adverbs, t.tag = .adverb) {verb : Token} (hverb : verb.tag = .verb)
    (rest : List Token) :
    coordinatedVerbs true (adverbs ++ verb :: rest) = verb :: coordinatedVerbs false rest := by
  induction adverbs with
  | nil =>
    rw [List.nil_append, coordinatedVerbs, hverb]
    rfl
  | cons t adverbs ih =>
    obtain ⟨ht, hrest⟩ := List.forall_mem_cons.mp hadverbs
    rw [List.cons_append, coordinatedVerbs, ht]
    exact ih hrest

/-- A separator takes the next verb along, over any adverbs between them, and the scan goes on
behind the verb as if it had just begun. -/
theorem coordinatedVerbs_take {separator : Token} (hseparator : separator.isSeparator = true)
    {adverbs : List Token} (hadverbs : ∀ t ∈ adverbs, t.tag = .adverb) {verb : Token}
    (hverb : verb.tag = .verb) (rest : List Token) :
    coordinatedVerbs false (separator :: (adverbs ++ verb :: rest)) =
      verb :: coordinatedVerbs false rest := by
  rw [coordinatedVerbs, if_neg (tag_ne_of_isSeparator hseparator).1, hseparator]
  exact coordinatedVerbs_behind_separator hadverbs hverb rest

/-- A separator with no verb next behind it is forgotten. -/
theorem coordinatedVerbs_of_not_comesNext {tokens : List Token}
    (h : ∀ verb, ¬ComesNext tokens verb) :
    coordinatedVerbs true tokens = coordinatedVerbs false tokens := by
  induction tokens with
  | nil => rfl
  | cons t rest ih =>
    rw [coordinatedVerbs, coordinatedVerbs]
    by_cases hadverb : t.tag = .adverb
    · have hseparator : t.isSeparator = false :=
        Bool.eq_false_iff.mpr fun hs => (tag_ne_of_isSeparator hs).2.1 hadverb
      have hrest := ih fun verb hverb => h verb (comesNext_cons.mpr (.inr ⟨hadverb, hverb⟩))
      simp [hadverb, hseparator, hrest]
    · have hverb : t.tag ≠ .verb := fun hverb => h t (comesNext_cons.mpr (.inl ⟨rfl, hverb⟩))
      simp [hadverb, hverb]

/-- A word that joins no verb is passed over, and the scan goes on as if it had just begun. -/
theorem coordinatedVerbs_pass {t : Token} (hmodal : t.tag ≠ .modal) {rest : List Token}
    (h : t.isSeparator = true → ∀ verb, ¬ComesNext rest verb) :
    coordinatedVerbs false (t :: rest) = coordinatedVerbs false rest := by
  rw [coordinatedVerbs, if_neg hmodal]
  by_cases hseparator : t.isSeparator = true
  · rw [hseparator]
    exact coordinatedVerbs_of_not_comesNext (h hseparator)
  · rw [Bool.eq_false_iff.mpr hseparator]
    rfl

/-! ## Places -/

/-- A word of the given class stands in the place. -/
def HasTagAt (tokens : List Token) (tag : Tag) (i : Nat) : Prop :=
  ∃ t, tokens[i]? = some t ∧ t.tag = tag

/-- A comma or a conjunction stands in the place. -/
def SeparatorAt (tokens : List Token) (i : Nat) : Prop :=
  ∃ t, tokens[i]? = some t ∧ t.isSeparator = true

/-- Nothing but adverbs stands between two places. -/
def AdverbsBetween (tokens : List Token) (a b : Nat) : Prop :=
  ∀ i, a < i → i < b → HasTagAt tokens .adverb i

/-- The separator in place `j` joins the verb in place `k` to what stands in place `f`: they come in
this order, with nothing but adverbs between the separator and the verb and no modal in front of
the separator. -/
structure JoinedBy (tokens : List Token) (f j k : Nat) : Prop where
  behind : f < j
  before : j < k
  separator : SeparatorAt tokens j
  adverbs : AdverbsBetween tokens j k
  verb : HasTagAt tokens .verb k
  no_modal : ∀ i, f < i → i < j → ¬HasTagAt tokens .modal i

section Places

variable {tokens : List Token}

theorem HasTagAt.tag_eq {tag tag' : Tag} {i : Nat} (h : HasTagAt tokens tag i)
    (h' : HasTagAt tokens tag' i) : tag = tag' := by
  obtain ⟨t, ht, rfl⟩ := h
  obtain ⟨u, hu, rfl⟩ := h'
  rw [Option.some.inj (ht.symm.trans hu)]

theorem SeparatorAt.not_hasTagAt {i : Nat} (h : SeparatorAt tokens i) :
    ¬HasTagAt tokens .modal i ∧ ¬HasTagAt tokens .adverb i ∧ ¬HasTagAt tokens .verb i := by
  obtain ⟨t, ht, hseparator⟩ := h
  have hne := tag_ne_of_isSeparator hseparator
  have htagged : ∀ {tag : Tag}, HasTagAt tokens tag i → t.tag = tag := by
    rintro tag ⟨u, hu, rfl⟩
    rw [Option.some.inj (ht.symm.trans hu)]
  exact ⟨fun h => hne.1 (htagged h), fun h => hne.2.1 (htagged h), fun h => hne.2.2 (htagged h)⟩

theorem lt_length_of_getElem? {i : Nat} {t : Token} (h : tokens[i]? = some t) :
    i < tokens.length := by
  obtain ⟨hi, -⟩ := List.getElem?_eq_some_iff.mp h
  exact hi

theorem drop_of_getElem? {i : Nat} {t : Token} (h : tokens[i]? = some t) :
    tokens.drop i = t :: tokens.drop (i + 1) := by
  obtain ⟨hi, rfl⟩ := List.getElem?_eq_some_iff.mp h
  exact List.drop_eq_getElem_cons hi

/-- Behind one separator at most one verb comes next. -/
theorem eq_of_adverbsBetween {j k k' : Nat} (hk : AdverbsBetween tokens j k)
    (hverb : HasTagAt tokens .verb k) (hj : j < k) (hk' : AdverbsBetween tokens j k')
    (hverb' : HasTagAt tokens .verb k') (hj' : j < k') : k = k' := by
  by_contra hne
  rcases Nat.lt_or_gt_of_ne hne with hlt | hlt
  · exact absurd ((hk' k hj hlt).tag_eq hverb) (by decide)
  · exact absurd ((hk k' hj' hlt).tag_eq hverb') (by decide)

/-- The words behind a place, if adverbs and then a word in a place of its own come next. -/
theorem exists_drop_eq {a b : Nat} (hab : a < b) (hadverbs : AdverbsBetween tokens a b) {t : Token}
    (ht : tokens[b]? = some t) :
    ∃ adverbs, tokens.drop (a + 1) = adverbs ++ t :: tokens.drop (b + 1) ∧
      ∀ u ∈ adverbs, u.tag = .adverb := by
  refine ⟨(tokens.drop (a + 1)).take (b - (a + 1)), ?_, ?_⟩
  · have hb : a + 1 + (b - (a + 1)) = b := by omega
    have hsplit := List.take_append_drop (b - (a + 1)) (tokens.drop (a + 1))
    rw [List.drop_drop, hb, drop_of_getElem? ht] at hsplit
    exact hsplit.symm
  · intro u hu
    obtain ⟨i, hi⟩ := List.getElem?_of_mem hu
    have hlt : i < b - (a + 1) := by
      have hlength := lt_length_of_getElem? hi
      rw [List.length_take] at hlength
      omega
    rw [List.getElem?_take_of_lt hlt, List.getElem?_drop] at hi
    obtain ⟨w, hw, hadverb⟩ := hadverbs (a + 1 + i) (by omega) (by omega)
    rw [Option.some.inj (hi.symm.trans hw)]
    exact hadverb

/-- A verb that comes next has a place, and nothing but adverbs stands in front of it. -/
theorem exists_place_of_comesNext {a : Nat} {verb : Token}
    (h : ComesNext (tokens.drop (a + 1)) verb) :
    ∃ k, a < k ∧ AdverbsBetween tokens a k ∧ HasTagAt tokens .verb k := by
  obtain ⟨adverbs, rest, hsplit, hadverbs, hverb⟩ := h
  have hplace : ∀ i, tokens[a + 1 + i]? = (adverbs ++ verb :: rest)[i]? := by
    intro i
    rw [← hsplit, List.getElem?_drop]
  refine ⟨a + 1 + adverbs.length, by omega, ?_, verb, ?_, hverb⟩
  · intro i hai hi
    obtain ⟨n, rfl⟩ : ∃ n, i = a + 1 + n := ⟨i - (a + 1), by omega⟩
    have hn : n < adverbs.length := by omega
    refine ⟨adverbs[n], ?_, hadverbs _ (List.getElem_mem hn)⟩
    rw [hplace, List.getElem?_append_left hn, List.getElem?_eq_getElem hn]
  · rw [hplace, List.getElem?_append_right (Nat.le_refl _), Nat.sub_self]
    rfl

/-! ## The scan by places -/

/-- What is joined behind a verb that a separator takes along, and that verb, are what is joined
behind the word in front of the separator. None of the words that are jumped over is a separator or
a modal. -/
theorem joinedBy_take_iff {f k : Nat} (hseparator : SeparatorAt tokens (f + 1)) (hk : f + 1 < k)
    (hadverbs : AdverbsBetween tokens (f + 1) k) (hverb : HasTagAt tokens .verb k) (k' : Nat) :
    (∃ j, JoinedBy tokens f j k') ↔ k' = k ∨ ∃ j, JoinedBy tokens k j k' := by
  constructor
  · rintro ⟨j, h⟩
    by_cases hfirst : j = f + 1
    · subst hfirst
      exact .inl (eq_of_adverbsBetween h.adverbs h.verb h.before hadverbs hverb hk)
    · have hbehind := h.behind
      have hlater : k < j := by
        by_contra hle
        by_cases heq : j = k
        · subst heq
          exact h.separator.not_hasTagAt.2.2 hverb
        · exact h.separator.not_hasTagAt.2.1 (hadverbs j (by omega) (by omega))
      refine .inr ⟨j, hlater, h.before, h.separator, h.adverbs, h.verb, ?_⟩
      intro i hi hij
      exact h.no_modal i (by omega) hij
  · rintro (rfl | ⟨j, h⟩)
    · refine ⟨f + 1, by omega, hk, hseparator, hadverbs, hverb, ?_⟩
      intro i hfi hi
      omega
    · have hbehind := h.behind
      refine ⟨j, by omega, h.before, h.separator, h.adverbs, h.verb, ?_⟩
      intro i hfi hij hmodal
      -- the separator, the adverbs, the verb, and what the scan still has in front of it
      by_cases hfirst : i = f + 1
      · subst hfirst
        exact hseparator.not_hasTagAt.1 hmodal
      by_cases hjumped : i < k
      · exact absurd ((hadverbs i (by omega) hjumped).tag_eq hmodal) (by decide)
      by_cases htaken : i = k
      · subst htaken
        exact absurd (hverb.tag_eq hmodal) (by decide)
      · exact h.no_modal i (by omega) hij hmodal

/-- What is joined behind a word that joins nothing is what is joined behind the word in front of
it. -/
theorem joinedBy_pass_iff {f : Nat} (hmodal : ¬HasTagAt tokens .modal (f + 1))
    (hnone : ∀ k, ¬JoinedBy tokens f (f + 1) k) (k : Nat) :
    (∃ j, JoinedBy tokens f j k) ↔ ∃ j, JoinedBy tokens (f + 1) j k := by
  constructor
  · rintro ⟨j, h⟩
    have hne : j ≠ f + 1 := by
      rintro rfl
      exact hnone k h
    have hbehind := h.behind
    refine ⟨j, by omega, h.before, h.separator, h.adverbs, h.verb, ?_⟩
    intro i hi hij
    exact h.no_modal i (by omega) hij
  · rintro ⟨j, h⟩
    have hbehind := h.behind
    refine ⟨j, by omega, h.before, h.separator, h.adverbs, h.verb, ?_⟩
    intro i hfi hij hi
    by_cases hfirst : i = f + 1
    · subst hfirst
      exact hmodal hi
    · exact h.no_modal i (by omega) hij hi

/-- The places of the verbs that the scan collects behind a place: they increase, a verb stands in
one of them exactly if it is joined to what stands in the place, and the scan gives these verbs. -/
structure CollectedBehind (tokens : List Token) (f : Nat) (places : List Nat) : Prop where
  increasing : places.Pairwise (· < ·)
  mem_iff : ∀ k, k ∈ places ↔ ∃ j, JoinedBy tokens f j k
  verbs : places.map (tokens[·]?) = (coordinatedVerbs false (tokens.drop (f + 1))).map some

theorem collectedBehind_nil {f : Nat} (hnone : ∀ j k, ¬JoinedBy tokens f j k)
    (hscan : coordinatedVerbs false (tokens.drop (f + 1)) = []) : CollectedBehind tokens f [] := by
  refine ⟨List.Pairwise.nil, ?_, by rw [hscan]; rfl⟩
  intro k
  exact iff_of_false List.not_mem_nil fun ⟨j, h⟩ => hnone j k h

/-- The scan ends where the words do. -/
theorem collectedBehind_end {f : Nat} (hend : tokens.length ≤ f + 1) :
    CollectedBehind tokens f [] := by
  apply collectedBehind_nil
  · intro j k h
    obtain ⟨t, ht, -⟩ := h.separator
    have hbehind := h.behind
    have hj := lt_length_of_getElem? ht
    omega
  · rw [List.drop_eq_nil_iff.mpr hend]
    rfl

/-- The scan ends at the next modal. -/
theorem collectedBehind_modal {f : Nat} (hmodal : HasTagAt tokens .modal (f + 1)) :
    CollectedBehind tokens f [] := by
  apply collectedBehind_nil
  · intro j k h
    have hbehind := h.behind
    by_cases hfirst : j = f + 1
    · subst hfirst
      exact h.separator.not_hasTagAt.1 hmodal
    · exact h.no_modal (f + 1) (by omega) (by omega) hmodal
  · obtain ⟨t, ht, htag⟩ := hmodal
    rw [drop_of_getElem? ht, coordinatedVerbs, if_pos htag]

/-- A verb that a separator takes along comes in front of all that are collected later. -/
theorem CollectedBehind.take {f k : Nat} (hk : JoinedBy tokens f (f + 1) k) {places : List Nat}
    (h : CollectedBehind tokens k places) : CollectedBehind tokens f (k :: places) := by
  refine ⟨?_, ?_, ?_⟩
  · refine List.pairwise_cons.mpr ⟨?_, h.increasing⟩
    intro k' hk'
    obtain ⟨j, hj⟩ := (h.mem_iff k').mp hk'
    exact Nat.lt_trans hj.behind hj.before
  · intro k'
    rw [List.mem_cons, h.mem_iff, joinedBy_take_iff hk.separator hk.before hk.adverbs hk.verb]
  · obtain ⟨separator, hplace, hseparator⟩ := hk.separator
    obtain ⟨verb, hplace', hverb⟩ := hk.verb
    obtain ⟨adverbs, hsplit, hadverbs⟩ := exists_drop_eq hk.before hk.adverbs hplace'
    rw [drop_of_getElem? hplace, hsplit, coordinatedVerbs_take hseparator hadverbs hverb,
      List.map_cons, List.map_cons, h.verbs, hplace']

/-- Where no verb is taken along, the scan goes one word on. -/
theorem CollectedBehind.pass {f : Nat} {t : Token} (ht : tokens[f + 1]? = some t)
    (hmodal : t.tag ≠ .modal) (hnone : ∀ k, ¬JoinedBy tokens f (f + 1) k) {places : List Nat}
    (h : CollectedBehind tokens (f + 1) places) : CollectedBehind tokens f places := by
  have htagged : ¬HasTagAt tokens .modal (f + 1) := by
    rintro ⟨u, hu, htag⟩
    rw [Option.some.inj (ht.symm.trans hu)] at hmodal
    exact hmodal htag
  have hnext : t.isSeparator = true → ∀ verb, ¬ComesNext (tokens.drop (f + 1 + 1)) verb := by
    intro hseparator verb hverb
    obtain ⟨k, hlt, hadverbs, hplace⟩ := exists_place_of_comesNext hverb
    refine hnone k ⟨by omega, hlt, ⟨t, ht, hseparator⟩, hadverbs, hplace, ?_⟩
    intro i hfi hi
    omega
  refine ⟨h.increasing, ?_, ?_⟩
  · intro k
    rw [h.mem_iff, joinedBy_pass_iff htagged hnone]
  · rw [h.verbs, drop_of_getElem? ht, coordinatedVerbs_pass hmodal hnext]

/-- **The verbs that the scan collects stand in increasing places, and these are the places of all
verbs that are joined.** The induction is on the number of words that are left: every move leaves
fewer. -/
theorem exists_collectedBehind (tokens : List Token) (f : Nat) :
    ∃ places, CollectedBehind tokens f places := by
  induction hleft : tokens.length - f using Nat.strongRecOn generalizing f with
  | _ n ih =>
    cases ht : tokens[f + 1]? with
    | none => exact ⟨[], collectedBehind_end (List.getElem?_eq_none_iff.mp ht)⟩
    | some t =>
      have hlength := lt_length_of_getElem? ht
      by_cases hmodal : t.tag = .modal
      · exact ⟨[], collectedBehind_modal ⟨t, ht, hmodal⟩⟩
      by_cases hjump : ∃ k, JoinedBy tokens f (f + 1) k
      · -- the scan jumps behind the verb
        obtain ⟨k, hk⟩ := hjump
        have hlt := hk.before
        obtain ⟨places, hplaces⟩ := ih (tokens.length - k) (by omega) k rfl
        exact ⟨k :: places, hplaces.take hk⟩
      · -- the scan goes one word on
        obtain ⟨places, hplaces⟩ := ih (tokens.length - (f + 1)) (by omega) (f + 1) rfl
        exact ⟨places, hplaces.pass ht hmodal fun k hk => hjump ⟨k, hk⟩⟩

end Places

/-! ## Methods in order -/

/-- A diagram that has grown by methods of the class of the given name: those that were new are put
behind the others in their order, and nothing else is changed. -/
structure GrownBy (m grown : ClassModel) (owner : String) (items : List String) : Prop where
  owner_entry : grown.entry owner =
    { m.entry owner with methods := addAll id (m.entry owner).methods items }
  other_entry : ∀ name, name ≠ owner → grown.entry name = m.entry name
  relationships : grown.relationships = m.relationships

/-- Methods are recorded one by one. -/
theorem grownBy_foldl_record (m : ClassModel) (owner : String) (items : List String) :
    GrownBy m ((items.map (Finding.method owner)).foldl record m) owner items := by
  have hattributes : ∀ name, (items.map (Finding.method owner)).flatMap
      (fun f => (f.part name).attributes) = [] := by
    intro name
    simp [List.flatMap_map, Finding.part]
  have hrelationships : (items.map (Finding.method owner)).flatMap Finding.relationships = [] := by
    simp [List.flatMap_map, Finding.relationships]
  refine ⟨?_, ?_, ?_⟩
  · have hmethods : (items.map (Finding.method owner)).flatMap
        (fun f => (f.part owner).methods) = items := by
      simp [List.flatMap_map, Finding.part]
    rw [entry_foldl_record_eq, hattributes, hmethods, addAll_nil]
  · intro name hname
    have hmethods : (items.map (Finding.method owner)).flatMap
        (fun f => (f.part name).methods) = [] := by
      simp [List.flatMap_map, Finding.part, Ne.symm hname]
    rw [entry_foldl_record_eq, hattributes, hmethods, addAll_nil, addAll_nil]
  · rw [relationships_foldl_record_eq, hrelationships, addAll_nil]

/-- What a modal grants its subject, method by method. -/
theorem methodFindings_eq {v : View} (hmodal : v.token.tag = .modal) {subject : List Token}
    (hsubject : subject? v.before = some subject) :
    methodFindings v = ((governedVerbs v.after).map fun verb =>
      String.ofList verb.base ++ "()").map (Finding.method (nameText subject)) := by
  rw [methodFindings, if_pos hmodal, hsubject, List.map_map]
  rfl

/-- The first verb behind the modal, and what the scan behind it collects. -/
theorem governedVerbs_eq {tokens : List Token} {m f : Nat} (hmf : m < f)
    (hadverbs : AdverbsBetween tokens m f) {first : Token} (hfirst : tokens[f]? = some first)
    (hverb : first.tag = .verb) (hown : first.isAuxiliary = false) :
    governedVerbs (tokens.drop (m + 1)) =
      first :: coordinatedVerbs false (tokens.drop (f + 1)) := by
  obtain ⟨adverbs, hsplit, hpassed⟩ := exists_drop_eq hmf hadverbs hfirst
  rw [hsplit, governedVerbs_append hpassed hverb hown]

/-- **A modal grants its verbs in their order.** Let a modal stand in place `m` behind a subject,
and let the first word behind it that is no adverb be a verb in place `f`, and no auxiliary. Then
the scan behind the modal collects the verbs in certain places, which increase. They are `f` and
every place of a verb in front of which a comma or a conjunction stands, with nothing but adverbs
in between, behind `f` and in front of the next modal. Whatever diagram the findings of the modal
are recorded in, the class of the subject then has the base forms of these verbs as methods, each
behind those of the verbs before it unless it was there already, and nothing else is changed. -/
theorem modal_grants_in_order {tokens : List Token} {m f : Nat} {modal first : Token}
    {subject : List Token} (hm : tokens[m]? = some modal) (hmodal : modal.tag = .modal)
    (hsubject : subject? (tokens.take m).reverse = some subject) (hmf : m < f)
    (hadverbs : AdverbsBetween tokens m f) (hfirst : tokens[f]? = some first)
    (hverb : first.tag = .verb) (hown : first.isAuxiliary = false) :
    let v : View := ⟨(tokens.take m).reverse, modal, tokens.drop (m + 1)⟩
    v ∈ views tokens ∧
      ∃ places : List Nat, places.Pairwise (· < ·) ∧
        (∀ k, k ∈ places ↔ k = f ∨ ∃ j, JoinedBy tokens f j k) ∧
        places.map (tokens[·]?) = (governedVerbs v.after).map some ∧
        ∀ d : ClassModel, GrownBy d ((methodFindings v).foldl record d) (nameText subject)
          ((governedVerbs v.after).map fun verb => String.ofList verb.base ++ "()") := by
  intro v
  have hview : v ∈ views tokens := by
    rw [mem_views_iff, List.reverse_reverse, ← drop_of_getElem? hm]
    exact List.take_append_drop m tokens
  obtain ⟨places, hplaces⟩ := exists_collectedBehind tokens f
  refine ⟨hview, f :: places, ?_, ?_, ?_, ?_⟩
  · refine List.pairwise_cons.mpr ⟨?_, hplaces.increasing⟩
    intro k hk
    obtain ⟨j, hj⟩ := (hplaces.mem_iff k).mp hk
    exact Nat.lt_trans hj.behind hj.before
  · intro k
    rw [List.mem_cons, hplaces.mem_iff]
  · rw [governedVerbs_eq hmf hadverbs hfirst hverb hown, List.map_cons, List.map_cons,
      hplaces.verbs, hfirst]
  · intro d
    rw [methodFindings_eq hmodal hsubject]
    exact grownBy_foldl_record d (nameText subject) _

/-- Three verbs, behind a comma with a conjunction and an adverb and behind a conjunction alone; the
conjunction in front of the next modal joins nothing. -/
theorem member_can_log_search_pay :
    let tokens := tagSentence
      "A Member can always log in, and then search or pay but must keep Books.".toList
    let member : Token := ⟨"Member".toList, "member".toList, "member".toList, .properNoun⟩
    let can : Token := ⟨"can".toList, "can".toList, "can".toList, .modal⟩
    let verb (text : String) : Token := ⟨text.toList, text.toList, text.toList, .verb⟩
    (tokens[2]? = some can ∧ can.tag = .modal ∧
      subject? (tokens.take 2).reverse = some [member] ∧ 2 < 4 ∧ AdverbsBetween tokens 2 4 ∧
      tokens[4]? = some (verb "log") ∧ (verb "log").tag = .verb ∧
      (verb "log").isAuxiliary = false) ∧
    ∃ places : List Nat, places.Pairwise (· < ·) ∧
      (∀ k, k ∈ places ↔ k = 4 ∨ ∃ j, JoinedBy tokens 4 j k) ∧
      places.map (tokens[·]?) = [verb "log", verb "search", verb "pay"].map some ∧
      ∀ d : ClassModel, GrownBy d
        ((methodFindings ⟨(tokens.take 2).reverse, can, tokens.drop 3⟩).foldl record d) "Member"
        ["log()", "search()", "pay()"] := by
  intro tokens member can verb
  have hm : tokens[2]? = some can := by decide +kernel
  have hsubject : subject? (tokens.take 2).reverse = some [member] := by decide +kernel
  have hadverbs : AdverbsBetween tokens 2 4 := by
    intro i hi hi'
    obtain rfl : i = 3 := by omega
    exact ⟨⟨"always".toList, "always".toList, "always".toList, .adverb⟩, by decide +kernel, rfl⟩
  have hfirst : tokens[4]? = some (verb "log") := by decide +kernel
  have hgoverned : governedVerbs (tokens.drop 3) = [verb "log", verb "search", verb "pay"] := by
    decide +kernel
  obtain ⟨-, places, hincreasing, hmem, hplaces, hgrown⟩ :=
    modal_grants_in_order hm rfl hsubject (by decide) hadverbs hfirst rfl (by decide)
  rw [hgoverned] at hplaces hgrown
  exact ⟨⟨hm, rfl, hsubject, by decide, hadverbs, hfirst, rfl, by decide⟩, places, hincreasing, hmem,
    hplaces, hgrown⟩

end Draftsman.Extraction
