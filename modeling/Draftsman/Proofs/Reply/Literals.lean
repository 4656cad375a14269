/-
String literals in a reply.

The places of a reply are cut out of its text, whatever the text is, and so a fence or a brace
within a string literal makes a place as any other does. Little can be read there. A literal
holds its quotes behind backslashes, so the first key of an object cannot begin within one, and
a place within a literal is read as the empty object or not at all. The same is true of a
place that begins within a literal and goes on behind it, as long as no other literal closes
after that (`EndsLiteral`).

So a reply that is one string literal is not always refused: it is read as the empty object if
one stands in a place of it, and never as anything else (`interpret_literal_iff`).
-/
import Draftsman.Proofs.Reply.Payload

set_option autoImplicit false

namespace Draftsman.Reply

open Draftsman.Text Draftsman.Json Draftsman.Json.Grammar

/-! ## Bodies of literals -/

theorem newline_not_mem_char {x : List Char} (h : LiteralChar x) : '\n' ∉ x := by
  intro hmem
  cases h with
  | plain _ _ hcontrol =>
    rw [← List.mem_singleton.mp hmem] at hcontrol
    exact absurd hcontrol (by decide)
  | escape h =>
    rcases List.mem_cons.mp hmem with hmem | hmem
    · exact absurd hmem (by decide)
    · rw [← List.mem_singleton.mp hmem] at h
      exact absurd h (by decide)
  | code h =>
    rcases List.mem_cons.mp hmem with hmem | hmem
    · exact absurd hmem (by decide)
    rcases List.mem_cons.mp hmem with hmem | hmem
    · exact absurd hmem (by decide)
    exact absurd (h _ hmem) (by decide)

/-- A literal lies on one line. -/
theorem newline_not_mem_body {body : List Char} (h : LiteralBody body) : '\n' ∉ body := by
  induction h with
  | nil => exact List.not_mem_nil
  | cons hx _ ih => exact fun hmem => (List.mem_append.mp hmem).elim (newline_not_mem_char hx) ih

theorem backslash_before_quote_in_char {a y : List Char} (h : LiteralChar (a ++ '"' :: y)) :
    a = ['\\'] := by
  generalize hx : a ++ '"' :: y = x at h
  cases h with
  | plain hquote _ _ =>
    cases a with
    | nil => exact absurd (List.cons.inj hx).1.symm hquote
    | cons _ a => exact absurd (List.cons.inj hx).2 (by simp)
  | escape _ =>
    match a with
    | [] => exact absurd (List.cons.inj hx).1 (by decide)
    | [d] => rw [(List.cons.inj hx).1]
    | d :: e :: a => exact absurd (List.cons.inj (List.cons.inj hx).2).2 (by simp)
  | @code b c d e h =>
    match a with
    | [] => exact absurd (List.cons.inj hx).1 (by decide)
    | [_] => rw [(List.cons.inj hx).1]
    | _ :: _ :: a =>
      -- behind the letter there are digits
      have hdigits : a ++ '"' :: y = [b, c, d, e] := (List.cons.inj (List.cons.inj hx).2).2
      have hquote := h '"' (hdigits ▸ by simp)
      exact absurd hquote (by decide)

/-- **A quote within a literal stands behind a backslash.** -/
theorem backslash_before_quote {a z : List Char} (h : LiteralBody (a ++ '"' :: z)) :
    ∃ a', a = a' ++ ['\\'] := by
  generalize hbody : a ++ '"' :: z = body at h
  induction h generalizing a with
  | nil => exact absurd hbody (by simp)
  | @cons x body hx _ ih =>
    rcases List.append_eq_append_iff.mp hbody with ⟨y, rfl, hy⟩ | ⟨y, rfl, hy⟩
    · cases y with
      | nil =>
        obtain ⟨a', ha'⟩ := ih (a := []) hy
        exact absurd ha' (by simp)
      | cons d y =>
        rw [← (List.cons.inj hy).1] at hx
        exact ⟨[], backslash_before_quote_in_char hx⟩
    · obtain ⟨a', rfl⟩ := ih hy.symm
      exact ⟨x ++ a', (List.append_assoc _ _ _).symm⟩

/-- Within a literal no quote stands behind an opening brace and blanks. -/
theorem not_quote_after_open {a w z : List Char} (hbrace : '{' ∈ w)
    (hw : ∀ c ∈ w, c = '{' ∨ isBlank c = true) : ¬ LiteralBody (a ++ (w ++ '"' :: z)) := by
  intro h
  rw [← List.append_assoc] at h
  obtain ⟨a', ha'⟩ := backslash_before_quote h
  obtain ⟨w', c, rfl⟩ := (List.eq_nil_or_concat' w).resolve_left (List.ne_nil_of_mem hbrace)
  rw [← List.append_assoc] at ha'
  have hc : c = '\\' := (List.cons.inj (List.append_inj' ha' rfl).2).1
  have hopen := hw c (by simp)
  rw [hc] at hopen
  exact absurd hopen (by decide)

/-- **No key begins within a literal.** -/
theorem not_opensKey_of_body {a place b : List Char} (h : LiteralBody (a ++ (place ++ b))) :
    ¬ OpensKey place := by
  rintro ⟨w, key, rest, hbrace, hw, -, rfl⟩
  rw [List.append_assoc] at h
  exact not_quote_after_open hbrace hw h

/-! ## Places that begin within a literal -/

/-- A literal closes in the text, if one is open where the text begins. -/
def ClosesLiteral (cs : List Char) : Prop :=
  ∃ body rest, LiteralBody body ∧ cs = body ++ '"' :: rest

theorem ClosesLiteral.append {cs : List Char} (h : ClosesLiteral cs) (ds : List Char) :
    ClosesLiteral (cs ++ ds) := by
  obtain ⟨body, rest, hbody, rfl⟩ := h
  exact ⟨body, rest ++ ds, hbody, by simp⟩

theorem HoldsEmptyObject.not_mem {place : List Char} (h : HoldsEmptyObject place) {c : Char}
    (hblank : isBlank c = false) (hc : c ∉ ['{', '}', ',']) : c ∉ place := by
  obtain ⟨w, o, w', hw, ho, hw', rfl⟩ := h
  have hnot : ∀ w : List Char, (∀ d ∈ w, isBlank d = true) → c ∉ w := by
    intro w hw hmem
    rw [hw c hmem] at hblank
    exact absurd hblank (by decide)
  have hspace : isSpace c = false := by
    refine Bool.eq_false_iff.mpr fun hspace => ?_
    rw [isBlank_of_isSpace hspace] at hblank
    exact absurd hblank (by decide)
  simp only [List.mem_cons, List.not_mem_nil, or_false, not_or] at hc
  simp only [List.mem_append, not_or]
  exact ⟨hnot w hw, ho.not_mem hspace hc.1 hc.2.1 hc.2.2, hnot w' hw'⟩

/-- A place that leaves a literal behind is not read, if no other literal closes in it. -/
theorem payload?_eq_none_of_leaves {a z tail : List Char} (hbody : LiteralBody (a ++ z))
    (htail : ¬ ClosesLiteral tail) : payload? (z ++ '"' :: tail) = none := by
  refine Option.eq_none_iff_forall_ne_some.mpr fun v h => ?_
  rcases cases_of_readable h with ⟨hempty, -⟩ | ⟨w, key, rest, hbrace, hw, hkey, hsplit⟩
  · exact absurd (by simp) (hempty.not_mem (c := '"') rfl (by decide))
  · rcases List.append_eq_append_iff.mp hsplit with ⟨y, rfl, hy⟩ | ⟨y, rfl, hy⟩
    · cases y with
      | nil => exact htail ⟨key, rest, hkey, (List.cons.inj hy).2⟩
      | cons d y =>
        have hquote := hw d (by simp)
        rw [← (List.cons.inj hy).1] at hquote
        exact absurd hquote (by decide)
    · cases y with
      | nil => exact htail ⟨key, rest, hkey, (List.cons.inj hy).2.symm⟩
      | cons d y =>
        -- the key would begin with a quote of the literal
        rw [← (List.cons.inj hy).1] at hbody
        exact not_quote_after_open hbrace hw hbody

/-- The text begins within a literal, and after that literal there is nothing to be read before
another fence: no literal closes after it, and no object opens on the next line. -/
inductive EndsLiteral : List Char → Prop
  | mk {a z tail : List Char} (hbody : LiteralBody (a ++ z)) (htail : ¬ ClosesLiteral tail)
      (hbelow : ∀ line below, '\n' ∉ line → tail = line ++ '\n' :: below →
        payload? (beforeFirst fence below) = none) : EndsLiteral (z ++ '"' :: tail)

/-- An empty object stands at the beginning, and nothing else before a fence. -/
def FencesEmptyObject (cs : List Char) : Prop :=
  ∃ place r, HoldsEmptyObject place ∧ cs = place ++ (fence ++ r)

/-- **What is read before a fence is an empty object within the literal.** -/
theorem EndsLiteral.of_readable {cs : List Char} {v : Json} (hcs : EndsLiteral cs)
    (h : payload? (beforeFirst fence cs) = some v) : v = .object [] ∧ FencesEmptyObject cs := by
  obtain @⟨a, z, tail, hbody, htail, -⟩ := hcs
  have hquote : '"' ∉ fence := by decide
  rcases beforeFirst_cases fence (z ++ '"' :: tail) with ⟨u, r, hfirst, heq⟩ | ⟨-, heq⟩
  · rw [heq] at h
    rcases hfirst.occurs.of_append_cons fence_ne_nil hquote with ⟨r', hr', -⟩ | ⟨u', rfl, hr'⟩
    · rw [occursAt_id_iff.mp hr'] at hbody
      rcases cases_of_readable h with ⟨hempty, hv⟩ | hkey
      · exact ⟨hv, u, r, hempty, occursAt_id_iff.mp hfirst.occurs⟩
      · exact absurd hkey (not_opensKey_of_body hbody)
    · rw [occursAt_id_iff.mp hr'] at htail
      rw [payload?_eq_none_of_leaves hbody fun hclose => htail (hclose.append _)] at h
      exact absurd h (by simp)
  · rw [heq, payload?_eq_none_of_leaves hbody htail] at h
    exact absurd h (by simp)

/-- What is read when the opening line is skipped is read without skipping it. -/
theorem EndsLiteral.of_readable_skipInfo {cs : List Char} {v : Json} (hcs : EndsLiteral cs)
    (h : payload? (beforeFirst fence (skipInfo cs)) = some v) :
    payload? (beforeFirst fence cs) = some v := by
  obtain @⟨a, z, tail, hbody, htail, hbelow⟩ := hcs
  have hz : '\n' ∉ z := fun hmem =>
    newline_not_mem_body hbody (List.mem_append_right a hmem)
  by_cases hmem : '\n' ∈ tail
  · obtain ⟨line, below, rfl, hline⟩ := List.eq_append_cons_of_mem hmem
    have hopening : '\n' ∉ z ++ '"' :: line := by
      simp only [List.mem_append, List.mem_cons, not_or]
      exact ⟨hz, by decide, hline⟩
    have hassoc : z ++ '"' :: (line ++ '\n' :: below) = (z ++ '"' :: line) ++ '\n' :: below := by
      simp
    rw [hassoc, skipInfo_append_newline hopening] at h
    split at h
    · rwa [hassoc]
    · rw [hbelow line below hline rfl] at h
      exact absurd h (by simp)
  · have hwhole : '\n' ∉ z ++ '"' :: tail := by
      simp only [List.mem_append, List.mem_cons, not_or]
      exact ⟨hz, by decide, hmem⟩
    rwa [skipInfo_eq_self hwhole] at h

/-- A fence in a text that begins with a literal opens within the literal or behind it. -/
theorem endsLiteral_or_later {body tail u r : List Char} (hbody : LiteralBody body)
    (htail : ¬ ClosesLiteral tail)
    (hbelow : ∀ line below, '\n' ∉ line → tail = line ++ '\n' :: below →
      payload? (beforeFirst fence below) = none)
    (hsplit : '"' :: (body ++ '"' :: tail) = u ++ (fence ++ r)) :
    EndsLiteral r ∨ ∃ u', tail = u' ++ (fence ++ r) := by
  have hquote : '"' ∉ fence := by decide
  have hopening : OccursAt id fence ('"' :: (body ++ '"' :: tail)) u r :=
    occursAt_id_iff.mpr hsplit
  -- a fence has no quote, so it lies on one side of each of the two
  rcases hopening.of_append_cons (a := []) fence_ne_nil hquote with ⟨r', hr', -⟩ | ⟨u', -, hu'⟩
  · exact absurd (occursAt_id_iff.mp hr') (by simp [fence])
  · rcases hu'.of_append_cons fence_ne_nil hquote with ⟨z, hz, rfl⟩ | ⟨u'', -, hu''⟩
    · rw [occursAt_id_iff.mp hz, ← List.append_assoc] at hbody
      exact .inl (.mk hbody htail hbelow)
    · exact .inr ⟨u'', occursAt_id_iff.mp hu''⟩

/-- What comes before the closing quote is on the line of the literal, and may be left out. -/
theorem EndsLiteral.of_append {x cs : List Char} (h : EndsLiteral (x ++ cs)) (hx : '"' ∉ x) :
    '\n' ∉ x ∧ EndsLiteral cs := by
  generalize hsplit : x ++ cs = ds at h
  obtain @⟨a, z, tail, hbody, htail, hbelow⟩ := h
  have hline := newline_not_mem_body hbody
  rcases List.append_eq_append_iff.mp hsplit with ⟨y, rfl, rfl⟩ | ⟨y, rfl, hy⟩
  · rw [← List.append_assoc] at hbody
    refine ⟨fun hmem => hline ?_, .mk hbody htail hbelow⟩
    exact List.mem_append_right a (List.mem_append_left y hmem)
  · cases y with
    | nil =>
      obtain rfl : cs = '"' :: tail := hy.symm
      rw [List.append_nil]
      rw [← List.append_nil (a ++ z)] at hbody
      exact ⟨fun hmem => hline (List.mem_append_right a hmem), .mk (z := []) hbody htail hbelow⟩
    | cons d y =>
      rw [← (List.cons.inj hy).1] at hx
      exact absurd (by simp) hx

/-! ## Fences -/

/-- After the first mark stands an empty object, and nothing else before a closing fence. -/
def EmptyFence (respell : Char → Char) (mark cs : List Char) : Prop :=
  ∃ u r, FirstOccurrence respell mark cs u r ∧ FencesEmptyObject r

/-- The first fence that is marked as JSON holds an empty object and nothing else, or the first
fence of all does. -/
def EmptyFirstFence (cs : List Char) : Prop :=
  EmptyFence lowerPlain jsonFenceMark cs ∨ EmptyFence id fence cs

theorem HoldsEmptyObject.beforeFirst_eq {place : List Char} (h : HoldsEmptyObject place)
    (r : List Char) : beforeFirst fence (place ++ (fence ++ r)) = place := by
  rw [beforeFirst_fence_append (h.not_mem rfl (by decide))]
  exact List.append_nil place

/-- A fence that closes on its opening line makes that line content. -/
theorem skipInfo_of_closed_line {x : List Char} (hx : '\n' ∉ x) (r : List Char) :
    skipInfo (x ++ (fence ++ r)) = x ++ (fence ++ r) := by
  by_cases hmem : '\n' ∈ x ++ (fence ++ r)
  · obtain ⟨line, below, hsplit, hline⟩ := List.eq_append_cons_of_mem hmem
    have hclosing : OccursAt id fence (line ++ '\n' :: below) x r :=
      occursAt_id_iff.mpr hsplit.symm
    rcases hclosing.of_append_cons fence_ne_nil newline_not_mem_fence with
      ⟨r', hr', -⟩ | ⟨u, rfl, -⟩
    · have hoccurs : occurs fence line = true :=
        occurs_iff.mpr ⟨x, r', by rw [occursAt_id_iff.mp hr', List.append_assoc]⟩
      rw [hsplit, skipInfo_append_newline hline, if_pos hoccurs]
    · exact absurd (by simp) hx
  · exact skipInfo_eq_self hmem

/-- Every fence opens within a literal. -/
def FencesInLiterals (cs : List Char) : Prop :=
  ∀ u r, cs = u ++ (fence ++ r) → EndsLiteral r

theorem readable_jsonFence_iff {cs : List Char} (h : FencesInLiterals cs) (v : Json) :
    payloadAt? (jsonFence? cs) = some v ↔
      v = .object [] ∧ EmptyFence lowerPlain jsonFenceMark cs := by
  constructor
  · intro hread
    obtain ⟨c, hc, hv⟩ := payloadAt?_eq_some_iff.mp hread
    obtain ⟨r, hr, rfl⟩ := Option.map_eq_some_iff.mp hc
    obtain ⟨u, hu⟩ := firstOccurrence_of_afterFirst? hr
    obtain ⟨m, hm, hsplit⟩ := hu.occurs
    obtain ⟨label, hlabel, rfl⟩ := exists_label_of_map hm
    rw [List.append_assoc] at hsplit
    have hquote : '"' ∉ label := fun hmem =>
      absurd (hlabel ▸ List.mem_map_of_mem hmem : lowerPlain '"' ∈ "json".toList) (by decide)
    obtain ⟨hempty, hr⟩ := ((h _ _ hsplit).of_append hquote).2.of_readable hv
    exact ⟨hempty, u, r, hu, hr⟩
  · rintro ⟨rfl, u, _, hu, place, r, hplace, rfl⟩
    refine payloadAt?_eq_some_iff.mpr ⟨place, ?_, hplace.payload?⟩
    rw [jsonFence?, hu.afterFirst?_eq, Option.map_some, hplace.beforeFirst_eq]

theorem readable_anyFence_iff {cs : List Char} (h : FencesInLiterals cs) (v : Json) :
    payloadAt? (anyFence? cs) = some v ↔ v = .object [] ∧ EmptyFence id fence cs := by
  constructor
  · intro hread
    obtain ⟨c, hc, hv⟩ := payloadAt?_eq_some_iff.mp hread
    obtain ⟨r, hr, rfl⟩ := Option.map_eq_some_iff.mp hc
    obtain ⟨u, hu⟩ := firstOccurrence_of_afterFirst? hr
    have hends := h _ _ (occursAt_id_iff.mp hu.occurs)
    obtain ⟨hempty, hr⟩ := hends.of_readable (hends.of_readable_skipInfo hv)
    exact ⟨hempty, u, r, hu, hr⟩
  · rintro ⟨rfl, u, _, hu, place, r, hplace, rfl⟩
    have hends := h _ _ (occursAt_id_iff.mp hu.occurs)
    have hline := (hends.of_append (hplace.not_mem rfl (by decide))).1
    refine payloadAt?_eq_some_iff.mpr ⟨place, ?_, hplace.payload?⟩
    rw [anyFence?, hu.afterFirst?_eq, Option.map_some, skipInfo_of_closed_line hline,
      hplace.beforeFirst_eq]

/-! ## Braces -/

/-- An empty object stands between the first opening brace and the last closing one. -/
def EmptyBraces (cs : List Char) : Prop :=
  ∃ p o q, EmptyObject o ∧ '{' ∉ p ∧ '}' ∉ q ∧ cs = p ++ (o ++ q)

theorem exists_of_braceSpan? {cs span : List Char} (h : braceSpan? cs = some span) :
    ∃ p q, '{' ∉ p ∧ '}' ∉ q ∧ cs = p ++ (span ++ q) := by
  have hspan : dropEndWhile (· ≠ '}') (cs.dropWhile (· ≠ '{')) = span := by
    rw [braceSpan?] at h
    split at h
    · exact absurd h (by simp)
    · exact Option.some.inj h
  refine ⟨cs.takeWhile (· ≠ '{'), (cs.dropWhile (· ≠ '{')).rtakeWhile (· ≠ '}'), ?_, ?_, ?_⟩
  · intro hmem
    exact absurd (List.mem_takeWhile_imp hmem) (by decide)
  · intro hmem
    exact absurd (List.mem_rtakeWhile_imp hmem) (by decide)
  · rw [← hspan, show dropEndWhile (· ≠ '}') (cs.dropWhile (· ≠ '{')) =
      (cs.dropWhile (· ≠ '{')).rdropWhile (· ≠ '}') from rfl, List.rdropWhile_append_rtakeWhile,
      List.takeWhile_append_dropWhile]

/-- Texts without braces around another one do not change what stands between its braces. -/
theorem braceSpan?_append {p t q : List Char} (hp : '{' ∉ p) (hq : '{' ∉ q) (hq' : '}' ∉ q) :
    braceSpan? (p ++ (t ++ q)) = braceSpan? t := by
  have hspan : dropEndWhile (· ≠ '}') ((t ++ q).dropWhile (· ≠ '{')) =
      dropEndWhile (· ≠ '}') (t.dropWhile (· ≠ '{')) := by
    rw [List.dropWhile_append]
    split_ifs with hnil
    · rw [List.isEmpty_iff.mp hnil, List.dropWhile_eq_nil_iff.mpr (decide_ne_of_not_mem hq)]
    · exact dropEndWhile_append_of_pos (decide_ne_of_not_mem hq')
  rw [braceSpan?, braceSpan?, List.dropWhile_append_of_pos (decide_ne_of_not_mem hp), hspan]

/-- No key begins within a literal, be it seen with its quotes. -/
theorem not_opensKey_of_literal {t p place q : List Char} (ht : Literal t)
    (hsplit : t = p ++ (place ++ q)) : ¬ OpensKey place := by
  obtain @⟨body, hbody⟩ := ht
  rintro ⟨w, key, rest, hbrace, hw, -, rfl⟩
  -- the last quote is not the one that begins the key, for the key has one behind it
  obtain ⟨x, c, hx⟩ := (List.eq_nil_or_concat' (key ++ '"' :: (rest ++ q))).resolve_left (by simp)
  have hconcat : '"' :: body ++ ['"'] = p ++ (w ++ '"' :: x) ++ [c] := by
    rw [List.cons_append, hsplit]
    simp [← hx]
  have hinner : '"' :: body = p ++ (w ++ '"' :: x) := (List.append_inj' hconcat rfl).1
  cases p with
  | nil =>
    -- neither is the first quote, for a brace or a blank stands before it
    cases w with
    | nil => exact absurd hbrace List.not_mem_nil
    | cons d w =>
      have hopen := hw d List.mem_cons_self
      rw [← (List.cons.inj hinner).1] at hopen
      exact absurd hopen (by decide)
  | cons d p =>
    rw [(List.cons.inj hinner).2] at hbody
    exact not_quote_after_open hbrace hw hbody

theorem readable_braceSpan_iff {t : List Char} (ht : Literal t) (v : Json) :
    payloadAt? (braceSpan? t) = some v ↔ v = .object [] ∧ EmptyBraces t := by
  constructor
  · intro hread
    obtain ⟨span, hspan, hv⟩ := payloadAt?_eq_some_iff.mp hread
    obtain ⟨p, q, hp, hq, hsplit⟩ := exists_of_braceSpan? hspan
    rcases cases_of_readable hv with ⟨⟨w, o, w', hw, ho, hw', rfl⟩, rfl⟩ | hkey
    · refine ⟨rfl, p ++ w, o, w' ++ q, ho, ?_, ?_, ?_⟩
      · rw [List.mem_append, not_or]
        exact ⟨hp, fun hmem => absurd (hw _ hmem) (by decide)⟩
      · rw [List.mem_append, not_or]
        exact ⟨fun hmem => absurd (hw' _ hmem) (by decide), hq⟩
      · rw [hsplit]
        simp only [List.append_assoc]
    · exact absurd hkey (not_opensKey_of_literal ht hsplit)
  · rintro ⟨rfl, p, o, q, ho, hp, hq, rfl⟩
    have hempty : HoldsEmptyObject o := ⟨[], o, [], by simp, ho, by simp, by simp⟩
    obtain ⟨body, rfl⟩ := ho.shape
    exact payloadAt?_eq_some_iff.mpr ⟨_, braceSpan?_of_braces hp hq, hempty.payload?⟩

/-! ## Replies that are one literal -/

/-- The text is a string literal for `u`, with nothing around it. -/
structure Encodes (t u : String) : Prop where
  literal : Literal t.toList
  reads : Json.parse t = .ok (.string u)

theorem not_closesLiteral_nil : ¬ ClosesLiteral [] := by
  rintro ⟨body, rest, -, hnil⟩
  exact absurd hnil (by simp)

/-- All fences of a reply that is one literal open within it. -/
theorem fencesInLiterals_of_literal {t : List Char} (ht : Literal t) : FencesInLiterals t := by
  obtain ⟨hbody⟩ := ht
  intro u r hsplit
  have hbelow : ∀ line below, '\n' ∉ line → [] = line ++ '\n' :: below →
      payload? (beforeFirst fence below) = none := by
    intro line below _ hnil
    exact absurd hnil (by simp)
  rcases endsLiteral_or_later hbody not_closesLiteral_nil hbelow hsplit with hends | ⟨u', hlater⟩
  · exact hends
  · exact absurd hlater (by simp [fence])

theorem exists_of_literal {t : List Char} (ht : Literal t) : ∃ cs, t = '"' :: cs := by
  obtain ⟨-⟩ := ht
  exact ⟨_, rfl⟩

theorem quote_mem_of_literal {t : List Char} (ht : Literal t) : '"' ∈ t := by
  obtain ⟨cs, rfl⟩ := exists_of_literal ht
  exact List.mem_cons_self

/-- **What is read of a literal is an empty object, at one of three places.** -/
theorem interpret_literal_iff {t : String} (ht : Literal t.toList) (v : Json) :
    interpret t = .ok v ↔ v = .object [] ∧ (EmptyFirstFence t.toList ∨ EmptyBraces t.toList) := by
  have hfences := fencesInLiterals_of_literal ht
  have hplaces := findSome?_cons_iff (readable_jsonFence_iff hfences)
    (findSome?_cons_iff (readable_anyFence_iff hfences)
      (findSome?_cons_iff (readable_braceSpan_iff ht) findSome?_nil_iff)) v
  rw [interpret_eq_ok_iff (not_allBlank_of_mem rfl (quote_mem_of_literal ht)), hplaces, or_false,
    EmptyFirstFence, or_assoc]

section Fenced

variable (cs : List Char)

theorem payloadAt?_jsonFence_of_quote :
    payloadAt? (jsonFence? ("```json\n".toList ++ '"' :: cs)) = none := by
  have hplace : jsonFence? ("```json\n".toList ++ '"' :: cs) =
      some (['\n'] ++ '"' :: beforeFirst fence cs) := rfl
  rw [hplace]
  exact payload?_eq_none_of_first (List.all_eq_true.mp rfl) rfl (by decide) _

theorem payloadAt?_anyFence_of_quote :
    payloadAt? (anyFence? ("```json\n".toList ++ '"' :: cs)) = none := by
  have hafter : afterFirst? id fence ("```json\n".toList ++ '"' :: cs) =
    some ("json".toList ++ '\n' :: '"' :: cs) := rfl
  have hplace : anyFence? ("```json\n".toList ++ '"' :: cs) =
      some ([] ++ '"' :: beforeFirst fence cs) := by
    rw [anyFence?, hafter, Option.map_some, skipInfo_append_newline (by decide),
      if_neg (by decide), beforeFirst_fence_cons (by decide)]
    rfl
  rw [hplace]
  exact payload?_eq_none_of_first (List.all_eq_true.mp rfl) rfl (by decide) _

end Fenced

/-- **A literal in a fence of JSON is not read from the fence**, so only the place between
braces is left. -/
theorem interpret_fenced_literal_iff {t : String} (ht : Literal t.toList) (v : Json) :
    interpret ("```json\n" ++ t ++ "\n```") = .ok v ↔ v = .object [] ∧ EmptyBraces t.toList := by
  have hreply : ("```json\n" ++ t ++ "\n```").toList =
      "```json\n".toList ++ (t.toList ++ "\n```".toList) := by
    rw [String.toList_append, String.toList_append, List.append_assoc]
  have hmem : '"' ∈ ("```json\n" ++ t ++ "\n```").toList := by
    rw [hreply]
    exact List.mem_append_right _ (List.mem_append_left _ (quote_mem_of_literal ht))
  rw [interpret_eq_ok_iff (not_allBlank_of_mem rfl hmem), hreply]
  obtain ⟨cs, hcs⟩ : ∃ cs, t.toList ++ "\n```".toList = '"' :: cs := by
    obtain ⟨u, hu⟩ := exists_of_literal ht
    exact ⟨_, by rw [hu]; rfl⟩
  have hjson := payloadAt?_jsonFence_of_quote cs
  have hany := payloadAt?_anyFence_of_quote cs
  rw [← hcs] at hjson hany
  rw [List.findSome?_cons, hjson, List.findSome?_cons, hany,
    braceSpan?_append (by decide) (by decide) (by decide)]
  have hplaces := findSome?_cons_iff (readable_braceSpan_iff ht) findSome?_nil_iff v
  rw [hplaces, or_false]

theorem exists_error_iff {ε α : Type*} {x : Except ε α} :
    (∃ e, x = .error e) ↔ ∀ v, x ≠ .ok v := by
  cases x with
  | ok v => simp
  | error e => simp

/-- **A reply that is a string literal is refused** unless there is an empty object in it: after
the first mark of JSON or the first fence of all, up to a closing fence; or between the first
opening brace and the last closing one. In a fence of JSON only the braces count. No other
object is ever read from it, whatever the string holds. -/
theorem string_literal_refused_iff {t u : String} (h : Encodes t u) :
    ((∃ e, interpret t = .error e) ↔ ¬ (EmptyFirstFence t.toList ∨ EmptyBraces t.toList)) ∧
    ((∃ e, interpret ("```json\n" ++ t ++ "\n```") = .error e) ↔ ¬ EmptyBraces t.toList) ∧
    ∀ v, interpret t = .ok v ∨ interpret ("```json\n" ++ t ++ "\n```") = .ok v →
      v = .object [] := by
  have hbare := interpret_literal_iff h.literal
  have hfenced := interpret_fenced_literal_iff h.literal
  refine ⟨?_, ?_, ?_⟩
  · rw [exists_error_iff]
    simp [hbare]
  · rw [exists_error_iff]
    simp [hfenced]
  · rintro v (hv | hv)
    · exact ((hbare v).mp hv).1
    · exact ((hfenced v).mp hv).1

theorem encodes_braces : Encodes "\"\x7b\x7d\"" "\x7b\x7d" := by
  refine ⟨?_, by decide +kernel⟩
  have hbody : LiteralBody ['{', '}'] :=
    .cons (.plain (by decide) (by decide) (by decide))
      (.cons (.plain (by decide) (by decide) (by decide)) .nil)
  exact .mk hbody

theorem emptyBraces_braces : EmptyBraces "\"\x7b\x7d\"".toList :=
  ⟨['"'], ['{', '}'], ['"'], .plain isSpaces_nil, by decide, by decide, rfl⟩

/-- The literal of a text that is itself an empty object is not refused. -/
theorem string_literal_refused_iff_of_braces :
    Encodes "\"\x7b\x7d\"" "\x7b\x7d" ∧ (¬ ∃ e, interpret "\"\x7b\x7d\"" = .error e) ∧
      ¬ ∃ e, interpret ("```json\n" ++ "\"\x7b\x7d\"" ++ "\n```") = .error e := by
  obtain ⟨hbare, hfenced, -⟩ := string_literal_refused_iff encodes_braces
  refine ⟨encodes_braces, ?_, ?_⟩
  · exact fun he => hbare.mp he (.inr emptyBraces_braces)
  · exact fun he => hfenced.mp he emptyBraces_braces

/-- Its braces are read although they are part of a string, in a fence of JSON as well. -/
theorem object_within_literal_is_read :
    Encodes "\"\x7b\x7d\"" "\x7b\x7d" ∧ interpret "\"\x7b\x7d\"" = .ok (.object []) ∧
      interpret ("```json\n" ++ "\"\x7b\x7d\"" ++ "\n```") = .ok (.object []) := by
  have hbare := interpret_literal_iff encodes_braces.literal (.object [])
  have hfenced := interpret_fenced_literal_iff encodes_braces.literal (.object [])
  refine ⟨encodes_braces, ?_, ?_⟩
  · exact hbare.mpr ⟨rfl, .inr emptyBraces_braces⟩
  · exact hfenced.mpr ⟨rfl, emptyBraces_braces⟩

end Draftsman.Reply
