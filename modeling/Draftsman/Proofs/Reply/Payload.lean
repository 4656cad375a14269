/-
The payload of a reply is found, whatever stands around it.

Three places of a reply are candidates, and the first that can be read wins. Nothing has
to be said about their order: between braces stands exactly the payload, and no candidate
of a fence can be read as anything else (`Harmless`). There are few things a fence can
hold. It holds the payload itself; or a piece of it that was cut off by a fence within a
literal, and such a piece ends inside that literal; or a text that begins with what is left
of the fence's mark; or a text after the payload, where no brace closes an object.
-/
import Draftsman.Proofs.Reply.Candidates
import Draftsman.Proofs.Text.Occurrences
import Draftsman.Proofs.Text.Searching
import Draftsman.Proofs.Text.Solid
import Draftsman.Proofs.Text.Trimming

set_option autoImplicit false

namespace Draftsman.Reply

open Draftsman.Text Draftsman.Json Draftsman.Json.Grammar

/-! ## Reading a candidate -/

/-- What is read ends outside literals. -/
theorem after_of_readCandidate {c : List Char} {v : Json} (h : readCandidate c = .ok v) :
    Position.outside.after c = .outside := by
  have htext := isText_of_parseChars (readCandidate_eq_ok_iff.mp h).1
  rw [← Position.after_stripFrom]
  exact (settled_of_derives htext).ends

/-- A text ends outside literals if it does so without the blanks around it. -/
theorem after_of_trimChars {c : List Char} (h : Position.outside.after (trimChars c) = .outside) :
    Position.outside.after c = .outside := by
  obtain ⟨w, w', hw, hw', hc⟩ := exists_eq_append_trimChars c
  rw [hc, Position.after_append, (settled_of_blank hw).ends, Position.after_append, h,
    (settled_of_blank hw').ends]

/-! ## Candidates -/

/-- A candidate that is read as `v`, if it can be read at all. -/
def Harmless (v : Json) (c : List Char) : Prop :=
  ∀ v', readCandidate (trimChars c) = .ok v' → v' = v

theorem Harmless.payload?_cases {v : Json} {c : List Char} (h : Harmless v c) :
    payload? c = none ∨ payload? c = some v := by
  cases hc : payload? c with
  | none => exact .inl rfl
  | some v' =>
    rw [h v' (payload?_eq_some_iff.mp hc)]
    exact .inr rfl

/-- **The place between braces decides**, if the fences are harmless. -/
theorem interpret_eq_ok {reply : String} {v : Json} {span : List Char}
    (hjson : ∀ c, jsonFence? reply.toList = some c → Harmless v c)
    (hany : ∀ c, anyFence? reply.toList = some c → Harmless v c)
    (hspan : braceSpan? reply.toList = some span) (hread : readCandidate (trimChars span) = .ok v)
    (hbrace : '{' ∈ reply.toList) : interpret reply = .ok v := by
  have hfence : ∀ place : Option (List Char), (∀ c, place = some c → Harmless v c) →
      payloadAt? place = none ∨ payloadAt? place = some v := by
    intro place hplace
    cases place with
    | none => exact .inl rfl
    | some c => exact (hplace c rfl).payload?_cases
  have hlast : payloadAt? (braceSpan? reply.toList) = some v :=
    payloadAt?_eq_some_iff.mpr ⟨span, hspan, payload?_eq_some_iff.mpr hread⟩
  rw [interpret_eq_ok_iff (not_allBlank_of_mem rfl hbrace)]
  simp only [List.findSome?_cons]
  rcases hfence _ hjson with hjson | hjson <;> rcases hfence _ hany with hany | hany <;>
    simp [hjson, hany, hlast]

/-! ## Harmless candidates -/

/-- No object is read where none is closed. -/
theorem harmless_of_not_mem {v : Json} {c : List Char} (h : '}' ∉ c) : Harmless v c := by
  intro v' hread
  obtain ⟨w, body, w', -, -, hstrip⟩ := exists_object_of_readCandidate hread
  obtain ⟨x, x', -, -, hc⟩ := exists_eq_append_trimChars c
  have hmem : '}' ∈ stripTrailingCommas (trimChars c) := by
    rw [hstrip]
    simp
  have hmem : '}' ∈ trimChars c := (stripFrom_sublist _ _).subset hmem
  refine absurd ?_ h
  rw [hc]
  exact List.mem_append_right x (List.mem_append_left x' hmem)

/-- No object is read where something else begins. -/
theorem harmless_of_first {v : Json} {b : Char} {c : List Char} (hblank : isBlank b = false)
    (hbrace : b ≠ '{') : Harmless v (b :: c) := by
  intro v' hread
  have hnone := payload?_eq_none_of_first (w := []) (fun _ hc => absurd hc List.not_mem_nil) hblank
    hbrace c
  rw [List.nil_append, payload?_eq_some_iff.mpr hread] at hnone
  exact absurd hnone (by simp)

/-- No object is read where a valid text was cut off before a backquote, since a backquote
only stands in literals. -/
theorem harmless_of_cut {v : Json} {w u r : List Char} (hw : ∀ c ∈ w, isBlank c = true)
    (htext : IsText (u ++ '`' :: r)) : Harmless v (w ++ u) := by
  intro v' hread
  have hend := after_of_trimChars (after_of_readCandidate hread)
  rw [Position.after_append, (settled_of_blank hw).ends] at hend
  have hback := (settled_of_derives htext).noBackquote
  rw [outsideLiterals_append, hend] at hback
  exact absurd (List.mem_append_right _ List.mem_cons_self) hback

/-! ## The payload -/

/-- A text of an object with white space around it. -/
structure Payload (s t : List Char) (v : Json) : Prop where
  around : ∃ w w', IsSpaces w ∧ IsSpaces w' ∧ s = w ++ (t ++ w')
  derives : Derives .object t
  read : readCandidate t = .ok v

theorem exists_payload {s : List Char} {v : Json} (hs : parseChars s = .ok v)
    (hv : v.isObject = true) : ∃ t, Payload s t v := by
  obtain ⟨w, t, w', hw, hw', hsplit, -, hobject, hparse⟩ := exists_piece_of_parseChars hs
  have ht := hobject hv
  have htext : IsText t := isText_of_parseChars hparse
  refine ⟨t, ⟨w, w', hw, hw', hsplit⟩, ht, readCandidate_eq_ok_iff.mpr ⟨?_, hv⟩⟩
  rw [stripTrailingCommas_eq_self htext]
  exact hparse

namespace Payload

variable {s t : List Char} {v : Json}

theorem isText (h : Payload s t v) : IsText s := by
  obtain ⟨w, w', hw, hw', rfl⟩ := h.around
  exact .element hw (.ofObject h.derives) hw'

theorem trimmed (h : Payload s t v) : Trimmed t := by
  obtain ⟨body, rfl⟩ := h.derives.object_shape
  exact trimmed_of_braces body

theorem mem_brace (h : Payload s t v) : '{' ∈ s := by
  obtain ⟨w, w', -, -, rfl⟩ := h.around
  obtain ⟨body, rfl⟩ := h.derives.object_shape
  exact List.mem_append_right w (List.mem_append_left w' List.mem_cons_self)

/-- The payload is found again between blanks. -/
theorem trimChars_eq (h : Payload s t v) {x x' : List Char} (hx : ∀ c ∈ x, isBlank c = true)
    (hx' : ∀ c ∈ x', isBlank c = true) : trimChars (x ++ (s ++ x')) = t := by
  obtain ⟨w, w', hw, hw', rfl⟩ := h.around
  have hassoc : x ++ (w ++ (t ++ w') ++ x') = (x ++ w) ++ (t ++ (w' ++ x')) := by
    simp only [List.append_assoc]
  rw [hassoc]
  refine trimChars_append ?_ h.trimmed ?_
  · intro c hc
    exact (List.mem_append.mp hc).elim (hx c) fun hc => isBlank_of_isSpace (hw c hc)
  · intro c hc
    exact (List.mem_append.mp hc).elim (fun hc => isBlank_of_isSpace (hw' c hc)) (hx' c)

theorem harmless (h : Payload s t v) {x x' : List Char} (hx : ∀ c ∈ x, isBlank c = true)
    (hx' : ∀ c ∈ x', isBlank c = true) : Harmless v (x ++ (s ++ x')) := by
  intro v' hread
  rw [h.trimChars_eq hx hx', h.read] at hread
  exact (Except.ok.inj hread).symm

end Payload

/-! ## Between braces -/

theorem dropEndWhile_append_of_pos {p : Char → Bool} {a b : List Char} (hb : ∀ c ∈ b, p c = true) :
    dropEndWhile p (a ++ b) = dropEndWhile p a := by
  have hb' : ∀ c ∈ b.reverse, p c = true := fun c hc => hb c (List.mem_reverse.mp hc)
  rw [dropEndWhile, List.reverse_append, List.dropWhile_append_of_pos hb']
  rfl

theorem decide_ne_of_not_mem {b : Char} {cs : List Char} (h : b ∉ cs) :
    ∀ c ∈ cs, decide (c ≠ b) = true := by
  intro c hc
  refine decide_eq_true ?_
  rintro rfl
  exact h hc

theorem braceSpan?_of_braces {p body q : List Char} (hp : '{' ∉ p) (hq : '}' ∉ q) :
    braceSpan? (p ++ ('{' :: (body ++ ['}']) ++ q)) = some ('{' :: (body ++ ['}'])) := by
  have hopen : ('{' :: (body ++ ['}']) ++ q).dropWhile (· ≠ '{') = '{' :: (body ++ ['}']) ++ q :=
    rfl
  have hclose : dropEndWhile (· ≠ '}') ('{' :: (body ++ ['}'])) = '{' :: (body ++ ['}']) :=
    List.rdropWhile_concat_neg _ ('{' :: body) '}' (by decide)
  rw [braceSpan?, List.dropWhile_append_of_pos (decide_ne_of_not_mem hp), hopen,
    dropEndWhile_append_of_pos (decide_ne_of_not_mem hq), hclose]

/-- **The first opening brace and the last closing one are those of the payload**, if
there is none before it and none after it. -/
theorem Payload.braceSpan?_eq {s t p q : List Char} {v : Json} (h : Payload s t v)
    (hp : '{' ∉ p) (hq : '}' ∉ q) : braceSpan? (p ++ (s ++ q)) = some t := by
  obtain ⟨w, w', hw, hw', rfl⟩ := h.around
  obtain ⟨body, rfl⟩ := h.derives.object_shape
  have hassoc : p ++ (w ++ ('{' :: (body ++ ['}']) ++ w') ++ q) =
      (p ++ w) ++ ('{' :: (body ++ ['}']) ++ (w' ++ q)) := by
    simp only [List.append_assoc, List.cons_append]
  rw [hassoc]
  refine braceSpan?_of_braces ?_ ?_
  · rw [List.mem_append, not_or]
    exact ⟨hp, fun hc => absurd (hw _ hc) (by decide)⟩
  · rw [List.mem_append, not_or]
    exact ⟨fun hc => absurd (hw' _ hc) (by decide), hq⟩

/-! ## Fences -/

/-- The payload, the fence that closes after it, and what follows. -/
def closed (s q : List Char) : List Char := s ++ '\n' :: (fence ++ q)

/-- A payload in a fence, which is opened with a label on its line. -/
def fenced (p label s q : List Char) : List Char := p ++ (fence ++ (label ++ '\n' :: closed s q))

/-- What may stand after the mark of a fence: nothing that ends the line, another fence or
the search for an opening brace. -/
structure IsLabel (label : List Char) : Prop where
  noBackquote : '`' ∉ label
  noNewline : '\n' ∉ label
  noBrace : '{' ∉ label

theorem fence_ne_nil : fence ≠ [] := by decide

theorem fence_length : fence.length = 3 := rfl

theorem newline_not_mem_fence : '\n' ∉ fence := by decide

theorem beforeFirst_fence_cons {c : Char} (hc : c ≠ '`') (cs : List Char) :
    beforeFirst fence (c :: cs) = c :: beforeFirst fence cs := by
  have hstart : dropPattern? id fence (c :: cs) = none := by
    rw [show fence = '`' :: ['`', '`'] from rfl, dropPattern?]
    exact if_neg hc
  rw [beforeFirst, hstart]
  rfl

theorem beforeFirst_fence_append {a : List Char} (ha : '`' ∉ a) (cs : List Char) :
    beforeFirst fence (a ++ cs) = a ++ beforeFirst fence cs := by
  induction a with
  | nil => rfl
  | cons c a ih =>
    rw [List.mem_cons, not_or] at ha
    rw [List.cons_append, beforeFirst_fence_cons (Ne.symm ha.1), ih ha.2, List.cons_append]

/-- **What stands before the first closing fence is harmless**: either it is the payload, or
that fence is in a literal. -/
theorem Payload.harmless_beforeFirst {s t : List Char} {v : Json} (h : Payload s t v)
    {w : List Char} (hw : ∀ c ∈ w, isBlank c = true) (q : List Char) :
    Harmless v (w ++ beforeFirst fence (closed s q)) := by
  have hclosing : OccursAt id fence (closed s q) (s ++ ['\n']) q :=
    occursAt_id_iff.mpr (by simp only [closed, List.append_assoc, List.singleton_append])
  obtain ⟨r, hr⟩ := exists_afterFirst?_of_occursAt hclosing
  obtain ⟨u, hu⟩ := firstOccurrence_of_afterFirst? hr
  rw [hu.beforeFirst_eq]
  rcases hu.occurs.of_append_cons fence_ne_nil newline_not_mem_fence with
    ⟨r', hr', -⟩ | ⟨u', rfl, -⟩
  · -- the first fence is within the payload and cuts it off
    have htext := h.isText
    rw [occursAt_id_iff.mp hr'] at htext
    exact harmless_of_cut hw htext
  · -- the first fence is after the payload, so it is the one that closes
    have hlen := hu.least _ _ hclosing
    simp only [List.length_append, List.length_cons, List.length_nil] at hlen
    obtain rfl : u' = [] := List.eq_nil_of_length_eq_zero (by omega)
    exact h.harmless hw (List.all_eq_true.mp rfl)

/-- A fence that begins before another one, in a text without a fence before that one,
overlaps it by at least one backquote. -/
theorem exists_overlap {p u y x : List Char} (hp : ¬ fence <:+: p) (hle : u.length ≤ p.length)
    (h : p ++ y = u ++ (fence ++ x)) : ∃ p', p'.length ≤ 2 ∧ fence ++ x = p' ++ y := by
  have hlt := OccursAt.length_lt hp (occursAt_id_iff.mpr h)
  obtain ⟨p', rfl⟩ : u <+: p :=
    List.prefix_of_prefix_length_le ⟨fence ++ x, h.symm⟩ (List.prefix_append p y) hle
  rw [List.append_assoc] at h
  refine ⟨p', ?_, (List.append_cancel_left h).symm⟩
  rw [List.length_append, fence_length] at hlt
  omega

/-- What follows the first fence begins with at most two backquotes that were left over. -/
theorem exists_of_afterFirst?_fence {p y x : List Char} (hp : ¬ fence <:+: p)
    (h : afterFirst? id fence (p ++ (fence ++ y)) = some x) :
    ∃ k ≤ 2, x = List.replicate k '`' ++ y := by
  obtain ⟨u, hu⟩ := firstOccurrence_of_afterFirst? h
  have hle : u.length ≤ p.length := hu.least p y (occursAt_id_iff.mpr rfl)
  obtain ⟨p', hlen, hx⟩ := exists_overlap hp hle (occursAt_id_iff.mp hu.occurs)
  match p', hlen with
  | [], _ => exact ⟨0, by omega, List.append_cancel_left hx⟩
  | [a], _ => exact ⟨1, by omega, (List.cons.inj (List.cons.inj (List.cons.inj hx).2).2).2⟩
  | [a, b], _ => exact ⟨2, by omega, (List.cons.inj (List.cons.inj (List.cons.inj hx).2).2).2⟩
  | a :: b :: c :: _, hlen => exact absurd hlen (by simp)

/-- The opening line is skipped, unless the fence closes on it. -/
theorem skipInfo_append_newline {line : List Char} (hline : '\n' ∉ line) (below : List Char) :
    skipInfo (line ++ '\n' :: below) =
      if occurs fence line then line ++ '\n' :: below else below := by
  have hall := decide_ne_of_not_mem hline
  have hdrop : ('\n' :: below).dropWhile (· ≠ '\n') = '\n' :: below := rfl
  have htake : ('\n' :: below).takeWhile (· ≠ '\n') = [] := rfl
  rw [skipInfo, List.dropWhile_append_of_pos hall, hdrop, List.takeWhile_append_of_pos hall, htake,
    List.append_nil]

theorem skipInfo_eq_self {body : List Char} (hbody : '\n' ∉ body) : skipInfo body = body := by
  have hdrop : body.dropWhile (· ≠ '\n') = [] :=
    List.dropWhile_eq_nil_iff.mpr (decide_ne_of_not_mem hbody)
  rw [skipInfo, hdrop]

/-- The rest of the opening line is skipped, with the backquotes before it. -/
theorem skipInfo_label {label : List Char} (h : IsLabel label) {k : Nat} (hk : k ≤ 2)
    (y : List Char) : skipInfo (List.replicate k '`' ++ (label ++ '\n' :: y)) = y := by
  have hline : '\n' ∉ List.replicate k '`' ++ label := by
    rw [List.mem_append, not_or]
    exact ⟨fun hc => absurd (List.mem_replicate.mp hc).2 (by decide), h.noNewline⟩
  have hfence : occurs fence (List.replicate k '`' ++ label) = false := by
    refine Bool.eq_false_iff.mpr fun hoccurs => ?_
    -- a fence has three backquotes, and the line has fewer
    have hcount := (occurs_iff.mp hoccurs).sublist.count_le '`'
    rw [List.count_append, List.count_replicate_self,
      List.count_eq_zero_of_not_mem h.noBackquote] at hcount
    rw [show fence.count '`' = 3 from rfl] at hcount
    omega
  rw [← List.append_assoc, skipInfo_append_newline hline, hfence]
  rfl

/-- **The body of the first fence is harmless.** -/
theorem Payload.harmless_anyFence {p label s q t c : List Char} {v : Json} (h : Payload s t v)
    (hp : ¬ fence <:+: p) (hlabel : IsLabel label)
    (hc : anyFence? (fenced p label s q) = some c) : Harmless v c := by
  obtain ⟨x, hx, rfl⟩ := Option.map_eq_some_iff.mp hc
  obtain ⟨k, hk, rfl⟩ := exists_of_afterFirst?_fence hp hx
  rw [skipInfo_label hlabel hk]
  exact h.harmless_beforeFirst (fun _ hc => absurd hc List.not_mem_nil) q

/-! ## Fences that are marked -/

/-- Making letters small brings forth no backquote. -/
theorem eq_backquote_of_lowerPlain {c : Char} (h : lowerPlain c = '`') : c = '`' := by
  by_cases hupper : c.val ≥ 'A'.val ∧ c.val ≤ 'Z'.val
  · have hlow : 65 ≤ c.val.toNat := hupper.1
    have hhigh : c.val.toNat ≤ 90 := hupper.2
    have hsum : (c.val + ('a'.val - 'A'.val)).toNat = c.val.toNat + 32 := by
      rw [UInt32.toNat_add]
      exact Nat.mod_eq_of_lt (show c.val.toNat + 32 < 2 ^ 32 by omega)
    have hval : c.val + ('a'.val - 'A'.val) = '`'.val :=
      congrArg Char.val ((dif_pos hupper).symm.trans h)
    rw [hval, show '`'.val.toNat = 96 from rfl] at hsum
    omega
  · exact (dif_neg hupper).symm.trans h

/-- The four letters after the mark, each in either case. -/
def IsJsonLabel (label : List Char) : Prop := label.map lowerPlain = "json".toList

theorem IsJsonLabel.isLabel {label : List Char} (h : IsJsonLabel label) : IsLabel label := by
  have hsmall : ∀ c ∈ label, lowerPlain c ∈ "json".toList := fun c hc =>
    h ▸ List.mem_map_of_mem hc
  exact ⟨fun hc => absurd (hsmall _ hc) (by decide), fun hc => absurd (hsmall _ hc) (by decide),
    fun hc => absurd (hsmall _ hc) (by decide)⟩

theorem IsJsonLabel.length_eq {label : List Char} (h : IsJsonLabel label) : label.length = 4 := by
  rw [← List.length_map lowerPlain, h]
  rfl

/-- A mark of JSON is a fence and the label. -/
theorem exists_label_of_map {m : List Char} (h : m.map lowerPlain = jsonFenceMark) :
    ∃ label, IsJsonLabel label ∧ m = fence ++ label := by
  obtain ⟨a, m, rfl, ha, h⟩ := List.map_eq_cons_iff.mp h
  obtain ⟨b, m, rfl, hb, h⟩ := List.map_eq_cons_iff.mp h
  obtain ⟨c, m, rfl, hc, h⟩ := List.map_eq_cons_iff.mp h
  rw [eq_backquote_of_lowerPlain ha, eq_backquote_of_lowerPlain hb, eq_backquote_of_lowerPlain hc]
  exact ⟨m, h, rfl⟩

theorem map_lowerPlain_mark {label : List Char} (h : IsJsonLabel label) :
    (fence ++ label).map lowerPlain = jsonFenceMark := by
  rw [List.map_append, h]
  rfl

/-- **After a mark of JSON comes the payload**, if no fence is before the mark. -/
theorem Payload.harmless_jsonFence {p label s q t c : List Char} {v : Json} (h : Payload s t v)
    (hp : ¬ fence <:+: p) (hlabel : IsJsonLabel label)
    (hc : jsonFence? (fenced p label s q) = some c) : Harmless v c := by
  obtain ⟨x, hx, rfl⟩ := Option.map_eq_some_iff.mp hc
  obtain ⟨u, hu⟩ := firstOccurrence_of_afterFirst? hx
  have hmark : OccursAt lowerPlain jsonFenceMark (fenced p label s q) p ('\n' :: closed s q) :=
    ⟨fence ++ label, map_lowerPlain_mark hlabel, by simp only [fenced, List.append_assoc]⟩
  obtain ⟨m, hm, hsplit⟩ := hu.occurs
  obtain ⟨label', hlabel', rfl⟩ := exists_label_of_map hm
  rw [List.append_assoc] at hsplit
  obtain ⟨p', hlen, hoverlap⟩ := exists_overlap hp (hu.least _ _ hmark) hsplit
  -- the letters of the mark cannot be backquotes, so the two fences are the same
  have hfirst : ∀ y, label' ++ x ≠ '`' :: y := by
    intro y hy
    cases label' with
    | nil => exact absurd hlabel'.length_eq (by decide)
    | cons d label' => exact hlabel'.isLabel.noBackquote ((List.cons.inj hy).1 ▸ List.mem_cons_self)
  match p', hlen with
  | [], _ =>
    -- the four letters after the fence are the label, so the line ends after the mark
    have hrest := List.append_cancel_left hoverlap
    have hlabels : label'.length = label.length := by rw [hlabel'.length_eq, hlabel.length_eq]
    rw [(List.append_inj hrest hlabels).2, beforeFirst_fence_cons (by decide)]
    exact h.harmless_beforeFirst (w := ['\n']) (List.all_eq_true.mp rfl) q
  | [a], _ =>
    have htail := (List.cons.inj (List.cons.inj (List.cons.inj hoverlap).2).2).2
    exact absurd htail (hfirst _)
  | [a, b], _ =>
    have htail := (List.cons.inj (List.cons.inj (List.cons.inj hoverlap).2).2).2
    exact absurd htail (hfirst _)
  | a :: b :: c :: _, hlen => exact absurd hlen (by simp)

/-- A label that begins with a mark of JSON leaves the rest of it in the body, and with
that no object begins. -/
theorem Payload.harmless_rest {y s q t : List Char} {v : Json} (h : Payload s t v)
    (hy : ∀ c ∈ y, c.isAlphanum = true) :
    Harmless v (beforeFirst fence (y ++ '\n' :: closed s q)) := by
  cases y with
  | nil =>
    rw [List.nil_append, beforeFirst_fence_cons (by decide)]
    exact h.harmless_beforeFirst (w := ['\n']) (List.all_eq_true.mp rfl) q
  | cons b y =>
    have hb := hy b List.mem_cons_self
    have hne : ∀ d : Char, d.isAlphanum = false → b ≠ d := by
      rintro d hd rfl
      exact absurd (hb.symm.trans hd) (by decide)
    rw [List.cons_append, beforeFirst_fence_cons (hne '`' rfl)]
    exact harmless_of_first (not_isBlank_of (P := Char.isAlphanum) (by decide) hb) (hne '{' rfl)

/-- What follows a mark of JSON follows the fence of the mark, be it the fence after `a` or a
later one. -/
theorem suffix_of_mark {a b u mark x : List Char} (ha : ¬ fence <:+: a) (hmark : IsJsonLabel mark)
    (h : OccursAt id fence (a ++ (fence ++ b)) u (mark ++ x)) : x <:+ b := by
  have hsplit := occursAt_id_iff.mp h
  have hlt := h.length_lt ha
  have hlen := congrArg List.length hsplit
  simp only [List.length_append, hmark.length_eq] at hlen
  rw [fence_length] at hlen hlt
  have hx : x <:+ a ++ (fence ++ b) :=
    ⟨u ++ (fence ++ mark), by rw [hsplit]; simp only [List.append_assoc]⟩
  have hb : b <:+ a ++ (fence ++ b) := ⟨a ++ fence, List.append_assoc _ _ _⟩
  exact List.suffix_of_suffix_length_le hx hb (by omega)

/-- **After any other label a mark of JSON is harmless**, be it part of the label or of what
follows the payload. -/
theorem Payload.harmless_jsonFence_of_label {p label s q t c : List Char} {v : Json}
    (h : Payload s t v) (hp : ¬ fence <:+: p) (hs : ¬ fence <:+: s) (hq : '}' ∉ q)
    (hlabel : ∀ c ∈ label, c.isAlphanum = true)
    (hc : jsonFence? (fenced p label s q) = some c) : Harmless v c := by
  obtain ⟨x, hx, rfl⟩ := Option.map_eq_some_iff.mp hc
  obtain ⟨u, hu⟩ := firstOccurrence_of_afterFirst? hx
  obtain ⟨m, hm, hsplit⟩ := hu.occurs
  obtain ⟨mark, hmark, rfl⟩ := exists_label_of_map hm
  have hoccurs : OccursAt id fence (p ++ (fence ++ label) ++ '\n' :: closed s q) u (mark ++ x) := by
    refine occursAt_id_iff.mpr ?_
    rw [← List.append_assoc fence mark x, ← hsplit]
    simp only [fenced, List.append_assoc]
  rcases hoccurs.of_append_cons fence_ne_nil newline_not_mem_fence with
    ⟨r, hr, hx⟩ | ⟨u', -, hu'⟩
  · -- the mark is at the opening fence
    rcases List.append_eq_append_iff.mp hx with ⟨y, rfl, rfl⟩ | ⟨y, hy, hx⟩
    · have hsuffix := suffix_of_mark hp hmark hr
      exact h.harmless_rest fun c hc => hlabel c (hsuffix.subset hc)
    · cases y with
      | nil =>
        -- the mark ends where its line does
        rw [List.nil_append] at hx
        rw [← hx]
        exact h.harmless_rest (y := []) fun _ hc => absurd hc List.not_mem_nil
      | cons d y =>
        obtain ⟨rfl, -⟩ := List.cons.inj hx
        exact absurd (hy ▸ List.mem_append_right r List.mem_cons_self) hmark.isLabel.noNewline
  · rcases hu'.of_append_cons fence_ne_nil newline_not_mem_fence with
      ⟨r, hr, -⟩ | ⟨u'', -, hu''⟩
    · -- no fence is in the payload
      exact absurd ⟨u', r, by rw [List.append_assoc, ← occursAt_id_iff.mp hr]⟩ hs
    · -- the mark is at the closing fence or after it
      have hsuffix : x <:+ q := suffix_of_mark (a := []) (by decide) hmark hu''
      refine harmless_of_not_mem fun hmem => hq (hsuffix.subset ?_)
      exact (beforeFirst_isPrefix fence x).subset hmem

/-! ## No fence -/

theorem not_isInfix_append_cons {pattern a b : List Char} {c : Char} (hne : pattern ≠ [])
    (hc : c ∉ pattern) (ha : ¬ pattern <:+: a) (hb : ¬ pattern <:+: b) :
    ¬ pattern <:+: a ++ c :: b := by
  rw [infix_append_cons_iff hne hc]
  exact not_or.mpr ⟨ha, hb⟩

/-- White space before a text or after it makes no fence. -/
theorem not_isInfix_spaces {w a : List Char} (hw : IsSpaces w) (ha : ¬ fence <:+: a) :
    ¬ fence <:+: w ++ a ∧ ¬ fence <:+: a ++ w := by
  induction w generalizing a with
  | nil =>
    rw [List.append_nil]
    exact ⟨ha, ha⟩
  | cons c w ih =>
    have hc : c ∉ fence := by
      intro hmem
      have hspace := hw c List.mem_cons_self
      rw [show c = '`' by simpa [fence] using hmem] at hspace
      exact absurd hspace (by decide)
    have htail : IsSpaces w := fun d hd => hw d (List.mem_cons_of_mem _ hd)
    have hnil : ¬ fence <:+: [] := by decide
    refine ⟨not_isInfix_append_cons (a := []) fence_ne_nil hc hnil (ih htail ha).1, ?_⟩
    have hspaces := (ih htail hnil).1
    rw [List.append_nil] at hspaces
    exact not_isInfix_append_cons fence_ne_nil hc ha hspaces

/-- An object keeps the texts before and after it apart. -/
theorem Payload.not_isInfix {s t p q : List Char} {v : Json} (h : Payload s t v)
    (hp : ¬ fence <:+: p) (hs : ¬ fence <:+: s) (hq : ¬ fence <:+: q) :
    ¬ fence <:+: p ++ (s ++ q) := by
  obtain ⟨w, w', hw, hw', rfl⟩ := h.around
  obtain ⟨body, rfl⟩ := h.derives.object_shape
  have hbody : ¬ fence <:+: body := by
    refine fun hoccurs => hs (hoccurs.trans ⟨w ++ ['{'], '}' :: w', ?_⟩)
    simp only [List.append_assoc, List.cons_append, List.nil_append]
  have hafter := not_isInfix_append_cons (c := '}') fence_ne_nil (by decide) hbody
    (not_isInfix_spaces hw' hq).1
  have hwhole := not_isInfix_append_cons (c := '{') fence_ne_nil (by decide)
    (not_isInfix_spaces hw hp).2 hafter
  simpa only [List.append_assoc, List.cons_append, List.nil_append] using hwhole

theorem anyFence?_eq_none {reply : List Char} (h : ¬ fence <:+: reply) :
    anyFence? reply = none := by
  refine Option.eq_none_iff_forall_ne_some.mpr fun c hc => ?_
  obtain ⟨x, hx, -⟩ := Option.map_eq_some_iff.mp hc
  exact h (occurs_iff.mp (Option.isSome_iff_exists.mpr ⟨x, hx⟩))

theorem jsonFence?_eq_none {reply : List Char} (h : ¬ fence <:+: reply) :
    jsonFence? reply = none := by
  refine Option.eq_none_iff_forall_ne_some.mpr fun c hc => ?_
  obtain ⟨x, hx, -⟩ := Option.map_eq_some_iff.mp hc
  obtain ⟨u, hu⟩ := firstOccurrence_of_afterFirst? hx
  obtain ⟨m, hm, hsplit⟩ := hu.occurs
  obtain ⟨label, -, rfl⟩ := exists_label_of_map hm
  exact h ⟨u, label ++ x, by rw [hsplit]; simp only [List.append_assoc]⟩

/-! ## All replies -/

namespace Payload

variable {reply : String} {s t p q : List Char} {v : Json}

theorem interpret_eq (h : Payload s t v) (hreply : reply.toList = p ++ (s ++ q)) (hp : '{' ∉ p)
    (hq : '}' ∉ q) (hjson : ∀ c, jsonFence? reply.toList = some c → Harmless v c)
    (hany : ∀ c, anyFence? reply.toList = some c → Harmless v c) : interpret reply = .ok v := by
  refine interpret_eq_ok hjson hany (?_ : braceSpan? reply.toList = some t) ?_ ?_
  · rw [hreply]
    exact h.braceSpan?_eq hp hq
  · rw [h.trimmed.trimChars_eq]
    exact h.read
  · rw [hreply]
    exact List.mem_append_right p (List.mem_append_left q h.mem_brace)

theorem interpret_fenced (h : Payload s t v) {label : List Char}
    (hreply : reply.toList = fenced p label s q) (hbrace : '{' ∉ p) (hp : ¬ fence <:+: p)
    (hq : '}' ∉ q) (hlabel : IsLabel label)
    (hjson : ∀ c, jsonFence? (fenced p label s q) = some c → Harmless v c) :
    interpret reply = .ok v := by
  have hsplit : reply.toList =
      (p ++ (fence ++ (label ++ ['\n']))) ++ (s ++ '\n' :: (fence ++ q)) := by
    rw [hreply]
    simp only [fenced, closed, List.append_assoc, List.singleton_append]
  refine h.interpret_eq hsplit ?_ ?_ ?_ ?_
  · simp only [List.mem_append, List.mem_singleton, not_or]
    exact ⟨hbrace, by decide, hlabel.noBrace, by decide⟩
  · simp only [List.mem_cons, List.mem_append, not_or]
    exact ⟨by decide, by decide, hq⟩
  · rw [hreply]
    exact hjson
  · rw [hreply]
    exact fun c => h.harmless_anyFence hp hlabel

end Payload

theorem isLabel_of_isAlphanum {label : List Char} (h : ∀ c ∈ label, c.isAlphanum = true) :
    IsLabel label :=
  ⟨fun hc => absurd (h _ hc) (by decide), fun hc => absurd (h _ hc) (by decide),
    fun hc => absurd (h _ hc) (by decide)⟩

theorem toList_fenced (p label s q : String) :
    (p ++ "```" ++ label ++ "\n" ++ s ++ "\n```" ++ q).toList =
      fenced p.toList label.toList s.toList q.toList := by
  have hopen : "```".toList = fence := rfl
  have hnewline : "\n".toList = ['\n'] := rfl
  have hclose : "\n```".toList = '\n' :: fence := rfl
  simp only [String.toList_append, hopen, hnewline, hclose, fenced, closed, List.append_assoc,
    List.cons_append, List.nil_append]

/-- **The payload of a reply is found.** Let `s` be a text of an object, between a text
without fences and opening braces and one without closing braces. It is read from a fence
of JSON whatever its literals hold, and from any other fence and without one if no fence
occurs elsewhere. -/
theorem interpret_finds_payload {s p q : String} {v : Json} (hs : Json.parse s = .ok v)
    (hv : v.isObject = true) (hbrace : '{' ∉ p.toList) (hp : ¬ fence <:+: p.toList)
    (hq : '}' ∉ q.toList) :
    (∀ label, lowerPlainText label = "json" →
      interpret (p ++ "```" ++ label ++ "\n" ++ s ++ "\n```" ++ q) = .ok v) ∧
    (¬ fence <:+: s.toList → ¬ fence <:+: q.toList →
      (∀ info, (∀ c ∈ info.toList, c.isAlphanum = true) →
        interpret (p ++ "```" ++ info ++ "\n" ++ s ++ "\n```" ++ q) = .ok v) ∧
      interpret (p ++ s ++ q) = .ok v) := by
  obtain ⟨t, h⟩ := exists_payload hs hv
  refine ⟨fun label hlabel => ?_, fun hsfence hqfence => ⟨fun info hinfo => ?_, ?_⟩⟩
  · have hjson : IsJsonLabel label.toList := by
      have hlist := congrArg String.toList hlabel
      rwa [lowerPlainText, String.toList_ofList] at hlist
    exact h.interpret_fenced (toList_fenced p label s q) hbrace hp hq hjson.isLabel
      fun c => h.harmless_jsonFence hp hjson
  · exact h.interpret_fenced (toList_fenced p info s q) hbrace hp hq (isLabel_of_isAlphanum hinfo)
      fun c => h.harmless_jsonFence_of_label hp hsfence hq hinfo
  · have hreply : (p ++ s ++ q).toList = p.toList ++ (s.toList ++ q.toList) := by
      rw [String.toList_append, String.toList_append, List.append_assoc]
    have hfence := h.not_isInfix hp hsfence hqfence
    refine h.interpret_eq hreply hbrace hq ?_ ?_
    · rw [hreply, jsonFence?_eq_none hfence]
      exact fun c hc => absurd hc (by simp)
    · rw [hreply, anyFence?_eq_none hfence]
      exact fun c hc => absurd hc (by simp)

/-- A literal that holds a fence, in a fence of JSON; and a payload without one, after the
mark of another format and without any fence. -/
theorem interpret_finds_payload_around_fences :
    interpret ("Here:\n" ++ "```" ++ "JSON" ++ "\n" ++ "\x7b\"a\": \"```\"\x7d" ++ "\n```" ++
          "\nDone.") =
        .ok (.object [("a", .string "```")]) ∧
      interpret ("Here:\n" ++ "```" ++ "json5" ++ "\n" ++ "\x7b\"a\": 1\x7d" ++ "\n```" ++
          "\nDone.") =
        .ok (.object [("a", .number (.integer 1))]) ∧
      interpret ("Here: " ++ "\x7b\"a\": 1\x7d" ++ " Done.") =
        .ok (.object [("a", .number (.integer 1))]) := by
  have hfence : Json.parse "\x7b\"a\": \"```\"\x7d" = .ok (.object [("a", .string "```")]) := by
    decide +kernel
  have hplain : Json.parse "\x7b\"a\": 1\x7d" = .ok (.object [("a", .number (.integer 1))]) := by
    decide +kernel
  refine ⟨?_, ?_, ?_⟩
  · exact (interpret_finds_payload hfence rfl (by decide) (by decide) (by decide)).1 "JSON"
      (by decide)
  · exact ((interpret_finds_payload hplain rfl (by decide) (by decide) (by decide)).2 (by decide)
      (by decide)).1 "json5" (List.all_eq_true.mp (by decide))
  · exact ((interpret_finds_payload hplain rfl (by decide) (by decide) (by decide)).2 (by decide)
      (by decide)).2

end Draftsman.Reply
