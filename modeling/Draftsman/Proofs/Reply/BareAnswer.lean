/-
A model as a reply.

A completion service that answers with the text of a model, and nothing around it, is to be
understood as that model. Between braces stands the whole text, so only a fence could bring
forth something else, and the fences in the text are all in its string literals. Every such
literal ends its line, so that a place which begins in it is read as the empty object within
the literal or not at all. This is the one way in which the text of a model is misread
(`interpret_text_of_emptyFirstFence`).
-/
import Draftsman.Proofs.Diagram.MemberOrder
import Draftsman.Proofs.Json.Lines
import Draftsman.Proofs.Reply.Literals

set_option autoImplicit false

namespace Draftsman

/-! ## Models are written in lines -/

section Models

open Json

theorem tidy_texts (items : List String) : Tidy (.texts items) := by
  refine .array (fun v hv => ?_) fun _ _ v hv => ?_
  all_goals obtain ⟨s, -, rfl⟩ := List.mem_map.mp hv
  · exact .string s
  · exact ⟨s, rfl⟩

/-- Records that are tidy make a tidy array. -/
theorem tidy_array_map {α : Type} {write : α → Json} (h : ∀ a, Tidy (write a))
    (hwrite : ∀ a s, write a ≠ .string s) (as : List α) : Tidy (.array (as.map write)) := by
  refine .array (fun v hv => ?_) fun s hs => ?_
  · obtain ⟨a, -, rfl⟩ := List.mem_map.mp hv
    exact h a
  · obtain ⟨a, -, ha⟩ := List.mem_map.mp hs
    exact absurd ha (hwrite a s)

theorem ClassEntry.tidy_toJson (c : ClassEntry) : Tidy c.toJson :=
  .object (by simp; decide) (by simp [Tidy.string, tidy_texts])

theorem Relationship.tidy_toJson (r : Relationship) : Tidy r.toJson :=
  .object (by simp; decide) (by simp [Tidy.string])

theorem Participation.tidy_toJson (p : Participation) : Tidy p.toJson :=
  .object (by simp; decide) (by simp [Tidy.string])

theorem UseCaseLink.tidy_toJson (l : UseCaseLink) : Tidy l.toJson :=
  .object (by simp; decide) (by simp [Tidy.string])

theorem Message.tidy_toJson (m : Message) : Tidy m.toJson :=
  .object (by simp; decide) (by simp [Tidy.string])

theorem Activation.tidy_toJson (a : Activation) : Tidy a.toJson :=
  .object (by simp; decide) (by simp [Tidy.string, Tidy.bool])

theorem ClassModel.tidy_toJson (m : ClassModel) : Tidy m.toJson := by
  have hclasses := tidy_array_map ClassEntry.tidy_toJson (fun _ _ h => Json.noConfusion h) m.classes
  have hrelationships :=
    tidy_array_map Relationship.tidy_toJson (fun _ _ h => Json.noConfusion h) m.relationships
  exact .object (by simp; decide) (by simp [hclasses, hrelationships])

theorem UseCaseModel.tidy_toJson (m : UseCaseModel) : Tidy m.toJson := by
  have hassociations :=
    tidy_array_map Participation.tidy_toJson (fun _ _ h => Json.noConfusion h) m.associations
  have hlinks := tidy_array_map UseCaseLink.tidy_toJson (fun _ _ h => Json.noConfusion h)
  exact .object (by simp; decide) (by simp [tidy_texts, hassociations, hlinks])

theorem SequenceModel.tidy_toJson (m : SequenceModel) : Tidy m.toJson := by
  have hmessages := tidy_array_map Message.tidy_toJson (fun _ _ h => Json.noConfusion h) m.messages
  have hactivations :=
    tidy_array_map Activation.tidy_toJson (fun _ _ h => Json.noConfusion h) m.activations
  exact .object (by simp; decide) (by simp [tidy_texts, hmessages, hactivations])

/-- **The encoding of a model is tidy.** -/
theorem Model.tidy_toJson (m : Model) : Tidy m.toJson := by
  cases m with
  | classes m => exact ClassModel.tidy_toJson m
  | useCases m => exact UseCaseModel.tidy_toJson m
  | sequence m => exact SequenceModel.tidy_toJson m

end Models

namespace Reply

open Draftsman.Text Draftsman.Json Draftsman.Json.Grammar

/-! ## Fences in texts that are written in lines -/

/-- No literal closes behind the end of a line, since none goes on to the next one. -/
theorem not_closesLiteral_of_endsLine {cs : List Char} (h : EndsLine cs) : ¬ ClosesLiteral cs := by
  rintro ⟨body, rest, hbody, hsplit⟩
  obtain ⟨comma, w, c, rest', hcomma, -, -, rfl⟩ := h
  have hquote : '"' ∉ comma := by rcases hcomma with rfl | rfl <;> decide
  have hline := newline_not_mem_body hbody
  -- the first quote would have to come before the end of the line, where there is none, or behind
  -- it, which no literal goes past
  rcases List.append_eq_append_iff.mp hsplit with ⟨y, rfl, hy⟩ | ⟨y, rfl, hy⟩
  · cases y with
    | nil => exact absurd (List.cons.inj hy).1 (by decide)
    | cons d y =>
      rw [← (List.cons.inj hy).1] at hline
      exact hline (by simp)
  · cases y with
    | nil => exact absurd (List.cons.inj hy).1 (by decide)
    | cons d y =>
      rw [← (List.cons.inj hy).1] at hquote
      exact hquote (by simp)

/-- No object is read from where a line ends. -/
theorem payload?_below_eq_none {line below : List Char} (hline : '\n' ∉ line)
    (h : EndsLine (line ++ '\n' :: below)) : payload? (beforeFirst fence below) = none := by
  obtain ⟨comma, w, c, rest, hcomma, hw, hc, hsplit⟩ := h
  have hcomma : '\n' ∉ comma := by rcases hcomma with rfl | rfl <;> decide
  obtain ⟨-, hbelow⟩ := append_inj_of_cut (decide_ne_of_not_mem hline)
    (decide_ne_of_not_mem hcomma) (by simp) (by simp) hsplit
  rw [(List.cons.inj hbelow).2]
  -- what is below begins with a quote or a closing bracket, and so it is no object
  have hback : '`' ∉ w := fun hmem => absurd (hw _ hmem) (by decide)
  have hfirst : isBlank c = false ∧ c ≠ '{' ∧ c ≠ '`' := by
    simp only [List.mem_cons, List.not_mem_nil, or_false] at hc
    rcases hc with rfl | rfl | rfl <;> decide
  rw [beforeFirst_fence_append hback, beforeFirst_fence_cons hfirst.2.2]
  exact payload?_eq_none_of_first (isBlank_of_isSpaces hw) hfirst.1 hfirst.2.1 _

/-- **In a text that is written in lines, fences open within literals** that end their lines. -/
theorem fencesInLiterals_of_lined {cs : List Char} (h : Lined cs) : FencesInLiterals cs := by
  induction h with
  | nil => exact fun u r hsplit => absurd hsplit (by simp [fence])
  | @other c cs hc _ ih =>
    intro u r hsplit
    -- a fence does not begin here, for it begins with a backquote
    cases u with
    | nil => exact absurd (List.cons.inj hsplit).1 hc
    | cons d u => exact ih u r (List.cons.inj hsplit).2
  | @literal body cs hbody hend _ ih =>
    intro u r hsplit
    have hclose := not_closesLiteral_of_endsLine hend
    have hbelow : ∀ line below, '\n' ∉ line → cs = line ++ '\n' :: below →
        payload? (beforeFirst fence below) = none := by
      rintro line below hline rfl
      exact payload?_below_eq_none hline hend
    rcases endsLiteral_or_later hbody hclose hbelow hsplit with hends | ⟨u', hlater⟩
    · exact hends
    · exact ih u' r hlater

/-! ## Reading a model -/

section Text

variable (m : Model)

theorem exists_payload_text : ∃ t, Payload m.text.toList t m.toJson.sorted := by
  have hplain : Plain maxDepth m.toJson := m.plain_toJson (n := 123)
  have hparse : Json.parse m.text = .ok m.toJson.sorted := by
    simpa [Model.text] using parse_pretty hplain isSpaces_nil
  exact exists_payload hparse (by cases m <;> rfl)

/-- **Between the braces stands the whole text of a model**, and it is read as the model. -/
theorem payloadAt?_braceSpan_text :
    payloadAt? (braceSpan? m.text.toList) = some m.toJson.sorted := by
  obtain ⟨t, ht⟩ := exists_payload_text m
  have hspan := ht.braceSpan?_eq (p := []) (q := []) List.not_mem_nil List.not_mem_nil
  rw [List.nil_append, List.append_nil] at hspan
  refine payloadAt?_eq_some_iff.mpr ⟨t, hspan, payload?_eq_some_iff.mpr ?_⟩
  rw [ht.trimmed.trimChars_eq]
  exact ht.read

theorem fencesInLiterals_text : FencesInLiterals m.text.toList := by
  have hobject : ∀ s, m.toJson ≠ .string s := by
    intro s hs
    cases m <;> exact Json.noConfusion hs
  exact fencesInLiterals_of_lined (m.tidy_toJson.lined_pretty hobject)

theorem interpret_text_eq_ok_iff (v : Json) :
    interpret m.text = .ok v ↔
      [jsonFence? m.text.toList, anyFence? m.text.toList, braceSpan? m.text.toList].findSome?
        payloadAt? = some v := by
  obtain ⟨t, ht⟩ := exists_payload_text m
  exact interpret_eq_ok_iff (not_allBlank_of_mem rfl ht.mem_brace)

variable {m}

theorem interpret_text_of_emptyFirstFence (h : EmptyFirstFence m.text.toList) :
    interpret m.text = .ok (.object []) := by
  have hjson := readable_jsonFence_iff (fencesInLiterals_text m)
  have hany := readable_anyFence_iff (fencesInLiterals_text m)
  rw [interpret_text_eq_ok_iff]
  by_cases hfirst : EmptyFence lowerPlain jsonFenceMark m.text.toList
  · exact findSome?_cons_of_pos hjson hfirst
  · rw [findSome?_cons_of_neg hjson hfirst]
    exact findSome?_cons_of_pos hany (h.resolve_left hfirst)

theorem interpret_text_of_not (h : ¬ EmptyFirstFence m.text.toList) :
    interpret m.text = .ok m.toJson.sorted := by
  obtain ⟨hfirst, hsecond⟩ := not_or.mp h
  rw [interpret_text_eq_ok_iff,
    findSome?_cons_of_neg (readable_jsonFence_iff (fencesInLiterals_text m)) hfirst,
    findSome?_cons_of_neg (readable_anyFence_iff (fencesInLiterals_text m)) hsecond,
    List.findSome?_cons, payloadAt?_braceSpan_text]

/-- The encoding of a model has members. -/
theorem sorted_toJson_ne_empty : m.toJson.sorted ≠ .object [] := by
  have hne : ∀ key v, m.toJson.get? key = some v → m.toJson.sorted ≠ .object [] := by
    intro key v hv hnil
    have hget := get?_sorted (m.plain_toJson (n := 0)) key
    rw [hnil, hv] at hget
    exact absurd hget (by simp [Json.get?])
  cases m with
  | classes m => exact hne "classes" _ rfl
  | useCases m => exact hne "actors" _ rfl
  | sequence m => exact hne "participants" _ rfl

end Text

/-- **A bare answer is read as the model it is the text of**, whatever the model holds, with one
exception, which is read as the empty object: the first fence of JSON in the text, or the first
fence of all, holds just that. -/
theorem interpret_text_iff (m : Model) :
    (interpret m.text = .ok m.toJson.sorted ↔ ¬ EmptyFirstFence m.text.toList) ∧
      (interpret m.text = .ok (.object []) ↔ EmptyFirstFence m.text.toList) := by
  by_cases h : EmptyFirstFence m.text.toList
  · have hread := interpret_text_of_emptyFirstFence h
    refine ⟨iff_of_false (fun hmodel => ?_) (not_not_intro h), iff_of_true hread h⟩
    exact sorted_toJson_ne_empty (Except.ok.inj (hmodel.symm.trans hread))
  · have hread := interpret_text_of_not h
    refine ⟨iff_of_true hread h, iff_of_false (fun hempty => ?_) h⟩
    exact sorted_toJson_ne_empty (Except.ok.inj (hread.symm.trans hempty))

/-- A class may be named like an empty object in a fence, and its model is not read as it
stands. -/
theorem fenced_name_is_misread :
    interpret (Model.text (.classes ⟨[⟨"```\x7b\x7d```", [], []⟩], []⟩)) = .ok (.object []) ∧
      (Model.toJson (.classes ⟨[⟨"```\x7b\x7d```", [], []⟩], []⟩)).sorted ≠ .object [] := by
  refine ⟨interpret_text_of_emptyFirstFence (.inr ?_), sorted_toJson_ne_empty⟩
  have hobject : HoldsEmptyObject ['{', '}'] :=
    ⟨[], ['{', '}'], [], by simp, .plain isSpaces_nil, by simp, rfl⟩
  have hafter : ∃ r, afterFirst? id fence
      (Model.text (.classes ⟨[⟨"```\x7b\x7d```", [], []⟩], []⟩)).toList =
        some (['{', '}'] ++ (fence ++ r)) := by
    rw [Model.text, Json.pretty, String.toList_ofList]
    exact ⟨_, rfl⟩
  obtain ⟨r, hr⟩ := hafter
  obtain ⟨u, hu⟩ := firstOccurrence_of_afterFirst? hr
  exact ⟨u, _, hu, ['{', '}'], r, hobject, rfl⟩

end Reply

end Draftsman
