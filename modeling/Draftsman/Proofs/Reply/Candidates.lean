/-
Which candidates of a reply can be read.

A place need not be cut out of a reply where JSON begins and ends, and so it matters what can be
read at all. It is an object, and of that little is needed here: either it is empty, or its first
key is written out in the place, with both of its quotes and nothing but white space between the
brace and the first of them (`cases_of_readable`). The repair hides neither, for it takes no more
than a comma before a closing bracket.
-/
import Draftsman.Proofs.Json.RoundTrip
import Draftsman.Proofs.Reply.Order
import Draftsman.Proofs.Reply.Repair
import Draftsman.Proofs.Text.Cutting

set_option autoImplicit false

namespace Draftsman.Reply

open Draftsman.Text Draftsman.Json Draftsman.Json.Grammar

/-! ## Empty objects -/

theorem trimmed_of_braces (body : List Char) : Trimmed ('{' :: (body ++ ['}'])) := by
  have hopen : Trimmed ['{'] := trimmed_singleton rfl
  have hclose : Trimmed ['}'] := trimmed_singleton rfl
  exact hopen.append hclose (List.cons_ne_nil _ _) (List.cons_ne_nil _ _) body

/-- An object without members, as it is written; the repair takes one comma away. -/
inductive EmptyObject : List Char → Prop
  | plain {w : List Char} (hw : IsSpaces w) : EmptyObject ('{' :: (w ++ ['}']))
  | comma {w w' : List Char} (hw : IsSpaces w) (hw' : IsSpaces w') :
      EmptyObject ('{' :: (w ++ ',' :: (w' ++ ['}'])))

namespace EmptyObject

variable {o : List Char}

/-- What the repair makes of it has only white space between the braces. -/
theorem strip_eq (h : EmptyObject o) :
    ∃ w, IsSpaces w ∧ stripTrailingCommas o = '{' :: (w ++ ['}']) := by
  have hself : ∀ w, IsSpaces w → IsText ('{' :: (w ++ ['}'])) := by
    intro w hw
    have htext : IsText ([] ++ (('{' :: (w ++ ['}'])) ++ [])) :=
      .element isSpaces_nil (.ofObject (.emptyObject hw)) isSpaces_nil
    simpa using htext
  cases h with
  | plain hw => exact ⟨_, hw, stripTrailingCommas_eq_self (hself _ hw)⟩
  | @comma w w' hw hw' =>
    have hspaces := hw.append hw'
    have hadded : CommasAdded ('{' :: (w ++ w' ++ ['}'])) ('{' :: (w ++ ',' :: (w' ++ ['}']))) := by
      rw [List.append_assoc]
      exact .other (by decide) (.comma hw hw' (.inl rfl) .nil)
    exact ⟨w ++ w', hspaces, hadded.stripFrom_eq (stripTrailingCommas_eq_self (hself _ hspaces))⟩

theorem read (h : EmptyObject o) : readCandidate o = .ok (.object []) := by
  obtain ⟨w, hw, hstrip⟩ := h.strip_eq
  refine readCandidate_eq_ok_iff.mpr ⟨?_, rfl⟩
  have hvalue : Reads readValue ('{' :: (w ++ ['}'])) (.object []) [] := by
    obtain ⟨hlt, hclosed⟩ := nextMember_closed hw true []
    exact Grammar.reads_atStart isSpaces_nil rfl
      (reads_of_made (valueAfter_brace _) (reads_members_closed hclosed))
  obtain ⟨hlt, hread⟩ := hvalue
  rw [hstrip, parseChars, hread]
  rfl

theorem shape (h : EmptyObject o) : ∃ body, o = '{' :: (body ++ ['}']) := by
  cases h with
  | plain hw => exact ⟨_, rfl⟩
  | @comma w w' hw hw' => exact ⟨w ++ ',' :: w', by simp⟩

theorem trimmed (h : EmptyObject o) : Trimmed o := by
  obtain ⟨body, rfl⟩ := h.shape
  exact trimmed_of_braces body

/-- There are only braces, white space and a comma in it. -/
theorem not_mem {c : Char} (h : EmptyObject o) (hspace : isSpace c = false) (hopen : c ≠ '{')
    (hclose : c ≠ '}') (hcomma : c ≠ ',') : c ∉ o := by
  have hnot : ∀ w, IsSpaces w → c ∉ w := fun w hw hc =>
    absurd (hw c hc) (by rw [hspace]; exact Bool.false_ne_true)
  cases h with
  | plain hw => simp [hopen, hclose, hnot _ hw]
  | comma hw hw' => simp [hopen, hclose, hcomma, hnot _ hw, hnot _ hw']

end EmptyObject

/-! ## What the repair leaves comes from the same text -/

theorem isBlank_of_isSpaces {w : List Char} (hw : IsSpaces w) : ∀ c ∈ w, isBlank c = true :=
  fun c hc => isBlank_of_isSpace (hw c hc)

theorem next_of_isSpace {c : Char} (hc : isSpace c = true) :
    Position.outside.next c = .outside :=
  Position.next_outside (by rintro rfl; exact absurd hc (by decide))

/-- What closes next is the first that is not blank. -/
theorem exists_closer_of_closesNext {cs : List Char} (h : closesNext cs = true) :
    ∃ w c cs', (∀ d ∈ w, isBlank d = true) ∧ (c = '}' ∨ c = ']') ∧ cs = w ++ c :: cs' := by
  rw [closesNext] at h
  split at h
  · rename_i c cs' htrim
    refine ⟨cs.takeWhile isBlank, c, cs', fun d hd => List.mem_takeWhile_imp hd, ?_, ?_⟩
    · simpa using h
    · rw [← htrim, trimStart, List.takeWhile_append_dropWhile]
  · exact absurd h Bool.false_ne_true

/-- A character outside literals is kept, or it is a comma that a closing bracket follows. -/
theorem stripFrom_cons_cases (c : Char) (cs : List Char) :
    stripFrom .outside (c :: cs) = c :: stripFrom (Position.outside.next c) cs ∨
      c = ',' ∧ closesNext cs = true := by
  by_cases hc : c = ','
  · cases hclose : closesNext cs with
    | true => exact .inr ⟨hc, rfl⟩
    | false =>
      rw [hc, stripFrom_comma_of_not_closesNext hclose]
      exact .inl rfl
  · exact .inl (stripFrom_cons_of_ne cs fun _ => hc)

/-- After a comma that was taken stands nothing but blanks and a closing bracket, all of which
are kept. -/
theorem exists_of_stripFrom_of_closesNext {w cs s : List Char} {b : Char} (hw : IsSpaces w)
    (hb : isBlank b = false) (hclose : closesNext cs = true)
    (h : stripFrom .outside cs = w ++ b :: s) :
    ∃ cs', cs = w ++ b :: cs' ∧ (b = '}' ∨ b = ']') ∧
      stripFrom (Position.outside.next b) cs' = s := by
  obtain ⟨w', c, cs', hw', hc, rfl⟩ := exists_closer_of_closesNext hclose
  have hcomma : c ≠ ',' := by
    rintro rfl
    exact absurd hc (by decide)
  have hblank : isBlank c = false := by rcases hc with rfl | rfl <;> rfl
  rw [(settled_of_blank hw').kept, stripFrom_cons_of_ne cs' fun _ => hcomma] at h
  obtain ⟨rfl, htail⟩ := append_inj_of_cut hw' (isBlank_of_isSpaces hw)
    (by simpa using hblank) (by simpa using hb) h
  obtain ⟨rfl, hs⟩ := List.cons.inj htail
  exact ⟨cs', rfl, hc, hs⟩

/-- **Behind white space a character was there before the repair**, and before it stood that
white space. If the character is a closing bracket, a comma may have been within. -/
theorem exists_of_stripFrom_eq {w cs s : List Char} {b : Char} (hw : IsSpaces w)
    (hb : isBlank b = false) (h : stripFrom .outside cs = w ++ b :: s) :
    ∃ cs', stripFrom (Position.outside.next b) cs' = s ∧ (cs = w ++ b :: cs' ∨
      (b = '}' ∨ b = ']') ∧ ∃ w₁ w₂, w = w₁ ++ w₂ ∧ cs = w₁ ++ ',' :: (w₂ ++ b :: cs')) := by
  induction w generalizing cs with
  | nil =>
    cases cs with
    | nil => exact absurd h (by simp [stripFrom])
    | cons c cs =>
      rcases stripFrom_cons_cases c cs with hkept | ⟨rfl, hclose⟩
      · rw [hkept] at h
        obtain ⟨rfl, hs⟩ := List.cons.inj h
        exact ⟨cs, hs, .inl rfl⟩
      · rw [stripFrom_comma_of_closesNext hclose] at h
        obtain ⟨cs', rfl, hcloser, hs⟩ := exists_of_stripFrom_of_closesNext hw hb hclose h
        exact ⟨cs', hs, .inr ⟨hcloser, [], [], rfl, rfl⟩⟩
  | cons d w ih =>
    cases cs with
    | nil => exact absurd h (by simp [stripFrom])
    | cons c cs =>
      rcases stripFrom_cons_cases c cs with hkept | ⟨rfl, hclose⟩
      · rw [hkept] at h
        obtain ⟨rfl, htail⟩ := List.cons.inj h
        rw [next_of_isSpace (hw c List.mem_cons_self)] at htail
        obtain ⟨cs', hs, hcs⟩ := ih (fun x hx => hw x (List.mem_cons_of_mem c hx)) htail
        refine ⟨cs', hs, hcs.imp ?_ ?_⟩
        · rintro rfl
          rfl
        · rintro ⟨hcloser, w₁, w₂, rfl, rfl⟩
          exact ⟨hcloser, c :: w₁, w₂, rfl, rfl⟩
      · rw [stripFrom_comma_of_closesNext hclose] at h
        obtain ⟨cs', rfl, hcloser, hs⟩ := exists_of_stripFrom_of_closesNext hw hb hclose h
        exact ⟨cs', hs, .inr ⟨hcloser, [], d :: w, rfl, rfl⟩⟩

/-- White space was white space: a comma is only taken before a bracket, which stays. -/
theorem isSpaces_of_stripFrom {cs : List Char} (h : IsSpaces (stripFrom .outside cs)) :
    IsSpaces cs := by
  induction cs with
  | nil => exact isSpaces_nil
  | cons c cs ih =>
    rcases stripFrom_cons_cases c cs with hkept | ⟨rfl, hclose⟩
    · rw [hkept] at h
      have hc := h c List.mem_cons_self
      rw [next_of_isSpace hc] at h
      have hcs := ih fun d hd => h d (List.mem_cons_of_mem c hd)
      intro d hd
      rcases List.mem_cons.mp hd with rfl | hd
      · exact hc
      · exact hcs d hd
    · rw [stripFrom_comma_of_closesNext hclose] at h
      obtain ⟨w, c, cs', -, hc, rfl⟩ := exists_closer_of_closesNext hclose
      have hspace := ih h c (List.mem_append_right w List.mem_cons_self)
      rcases hc with rfl | rfl <;> exact absurd hspace (by decide)

/-- Where no character stands outside literals, the repair takes nothing. -/
theorem exists_of_stripFrom_literal {p : Position} {a cs s : List Char}
    (ha : outsideLiterals p a = []) (h : stripFrom p cs = a ++ s) : ∃ cs', cs = a ++ cs' := by
  induction a generalizing p cs with
  | nil => exact ⟨cs, rfl⟩
  | cons c a ih =>
    have hp : p ≠ .outside := by
      rintro rfl
      exact absurd ha (by simp [outsideLiterals])
    rw [outsideLiterals, if_neg hp] at ha
    cases cs with
    | nil => exact absurd h (by simp [stripFrom])
    | cons d cs =>
      rw [stripFrom_cons_of_ne cs fun hout => absurd hout hp] at h
      obtain ⟨rfl, htail⟩ := List.cons.inj h
      obtain ⟨cs', rfl⟩ := ih ha htail
      exact ⟨cs', rfl⟩

/-! ## Bodies of literals -/

theorem outsideLiterals_of_literalChar {x : List Char} (h : LiteralChar x) :
    outsideLiterals .inside x = [] := by
  cases h with
  | plain hquote hbackslash _ => simp [outsideLiterals]
  | escape _ => simp [outsideLiterals, Position.next]
  | @code a b c d hhex =>
    have hdigit : ∀ x ∈ [a, b, c, d], Position.inside.next x = .inside := by
      intro x hx
      have hhex := hhex x hx
      rw [Position.next, if_neg (by rintro rfl; exact absurd hhex (by decide)),
        if_neg (by rintro rfl; exact absurd hhex (by decide))]
    simp only [List.forall_mem_cons] at hdigit
    obtain ⟨ha, hb, hc, -⟩ := hdigit
    have hbackslash : Position.inside.next '\\' = .escaped := rfl
    have hletter : Position.escaped.next 'u' = .inside := rfl
    simp [outsideLiterals, hbackslash, hletter, ha, hb, hc]

theorem outsideLiterals_of_literalBody {body : List Char} (h : LiteralBody body) :
    outsideLiterals .inside body = [] := by
  induction h with
  | nil => rfl
  | cons hx _ ih =>
    rw [outsideLiterals_append, outsideLiterals_of_literalChar hx, (passes_of_literalChar hx).ends,
      ih]
    rfl

/-! ## What can be read -/

/-- Nothing but an empty object and blanks around it. -/
def HoldsEmptyObject (place : List Char) : Prop :=
  ∃ w o w', (∀ c ∈ w, isBlank c = true) ∧ EmptyObject o ∧ (∀ c ∈ w', isBlank c = true) ∧
    place = w ++ (o ++ w')

/-- A brace and a whole literal after it, with nothing but blanks before and between. -/
def OpensKey (place : List Char) : Prop :=
  ∃ w body rest, '{' ∈ w ∧ (∀ c ∈ w, c = '{' ∨ isBlank c = true) ∧ LiteralBody body ∧
    place = w ++ '"' :: (body ++ '"' :: rest)

theorem HoldsEmptyObject.payload? {place : List Char} (h : HoldsEmptyObject place) :
    payload? place = some (.object []) := by
  obtain ⟨w, o, w', hw, ho, hw', rfl⟩ := h
  rw [payload?_eq_some_iff, trimChars_append hw ho.trimmed hw']
  exact ho.read

/-- Members begin with a key. -/
theorem exists_key_of_members {p : Phrase} {t : List Char} (h : Derives p t)
    (hp : p = .member ∨ p = .members) :
    ∃ w body rest, IsSpaces w ∧ LiteralBody body ∧ t = w ++ '"' :: (body ++ '"' :: rest) := by
  induction h with
  | @member w k w' t hw hk _ _ _ =>
    obtain ⟨hbody⟩ := hk
    refine ⟨w, _, w' ++ ':' :: t, hw, hbody, ?_⟩
    simp only [List.cons_append, List.append_assoc, List.nil_append]
  | lastMember _ ih => exact ih (.inl rfl)
  | @consMember t u _ _ ih _ =>
    obtain ⟨w, body, rest, hw, hbody, rfl⟩ := ih (.inl rfl)
    refine ⟨w, body, rest ++ ',' :: u, hw, hbody, ?_⟩
    simp only [List.cons_append, List.append_assoc]
  | _ => rcases hp with hp | hp <;> exact absurd hp (by decide)

/-- An object that is read from a trimmed text begins where the text does, and ends where it
does. -/
theorem exists_object_of_trimmed {c : List Char} {v : Json} (hc : Trimmed c)
    (h : readCandidate c = .ok v) :
    ∃ t w cs, Derives .object ('{' :: t) ∧ IsSpaces w ∧ c = '{' :: cs ∧
      stripFrom .outside cs = t ++ w := by
  obtain ⟨hparse, hv⟩ := readCandidate_eq_ok_iff.mp h
  obtain ⟨w, t, w', hw, hw', hstrip, -, hobject, -⟩ := exists_piece_of_parseChars hparse
  have hobject := hobject hv
  obtain ⟨body, rfl⟩ := hobject.object_shape
  obtain ⟨cs, hcs, hsplit | ⟨hcloser, -⟩⟩ := exists_of_stripFrom_eq hw rfl hstrip
  · cases w with
    | nil => exact ⟨_, w', cs, hobject, hw', hsplit, hcs⟩
    | cons d w =>
      have hd := hc.first d (by rw [hsplit]; rfl)
      rw [isBlank_of_isSpace (hw d List.mem_cons_self)] at hd
      exact absurd hd (by decide)
  · exact absurd hcloser (by decide)

/-- What the repair makes an empty object of, is one. -/
theorem emptyObject_of_stripFrom {w w' cs : List Char} (hc : Trimmed ('{' :: cs))
    (hw : IsSpaces w) (hw' : IsSpaces w') (h : stripFrom .outside cs = w ++ '}' :: w') :
    EmptyObject ('{' :: cs) := by
  obtain ⟨cs', hcs', hsplit⟩ := exists_of_stripFrom_eq hw rfl h
  -- behind the bracket there is only white space, and a trimmed text has none there
  have hspaces : IsSpaces cs' := isSpaces_of_stripFrom (hcs' ▸ hw')
  have hnil : ∀ a, cs = a ++ cs' → cs' = [] := by
    rintro a rfl
    exact hc.eq_nil_of_append (a := '{' :: a) (isBlank_of_isSpaces hspaces)
  rcases hsplit with hsplit | ⟨-, w₁, w₂, rfl, hsplit⟩
  · rw [hnil (w ++ ['}']) (by simp [hsplit])] at hsplit
    rw [hsplit]
    exact .plain hw
  · rw [hnil (w₁ ++ ',' :: (w₂ ++ ['}'])) (by simp [hsplit])] at hsplit
    rw [hsplit]
    exact .comma (fun d hd => hw d (List.mem_append_left w₂ hd))
      (fun d hd => hw d (List.mem_append_right w₁ hd))

/-- The first key of what the repair leaves is not changed by it. -/
theorem exists_key_of_stripFrom {t s cs : List Char} (ht : Derives .members t)
    (h : stripFrom .outside cs = t ++ s) :
    ∃ w body rest, IsSpaces w ∧ LiteralBody body ∧ cs = w ++ '"' :: (body ++ '"' :: rest) := by
  obtain ⟨w, body, rest, hw, hbody, rfl⟩ := exists_key_of_members ht (.inr rfl)
  rw [List.append_assoc] at h
  obtain ⟨cs', hcs', rfl | ⟨hcloser, -⟩⟩ := exists_of_stripFrom_eq hw rfl h
  · have hinside : outsideLiterals .inside (body ++ ['"']) = [] := by
      rw [outsideLiterals_append, outsideLiterals_of_literalBody hbody,
        (passes_of_literalBody hbody).ends]
      rfl
    have hassoc : body ++ '"' :: rest ++ s = body ++ ['"'] ++ (rest ++ s) := by simp
    obtain ⟨rest', rfl⟩ := exists_of_stripFrom_literal hinside (hcs'.trans hassoc)
    exact ⟨w, body, rest', hw, hbody, by simp⟩
  · exact absurd hcloser (by decide)

/-- **What can be read from a place is empty, or its first key is written out there.** -/
theorem cases_of_readable {place : List Char} {v : Json} (h : payload? place = some v) :
    (HoldsEmptyObject place ∧ v = .object []) ∨ OpensKey place := by
  obtain ⟨x, x', hx, hx', hplace⟩ := exists_eq_append_trimChars place
  have htrimmed := trimmed_trimChars place
  have hread := payload?_eq_some_iff.mp h
  obtain ⟨t, w, cs, hobject, hw, hc, hcs⟩ := exists_object_of_trimmed htrimmed hread
  cases hobject with
  | emptyObject hw₀ =>
    rw [List.append_assoc] at hcs
    have hempty : EmptyObject (trimChars place) := by
      rw [hc] at htrimmed ⊢
      exact emptyObject_of_stripFrom htrimmed hw₀ hw hcs
    rw [hempty.read] at hread
    exact .inl ⟨⟨x, _, x', hx, hempty, hx', hplace⟩, (Except.ok.inj hread).symm⟩
  | object hmembers =>
    rw [List.append_assoc] at hcs
    obtain ⟨w₀, body, rest, hw₀, hbody, rfl⟩ := exists_key_of_stripFrom hmembers hcs
    refine .inr ⟨x ++ '{' :: w₀, body, rest ++ x', by simp, ?_, hbody, ?_⟩
    · intro d hd
      rw [List.mem_append, List.mem_cons] at hd
      rcases hd with hd | rfl | hd
      · exact .inr (hx d hd)
      · exact .inl rfl
      · exact .inr (isBlank_of_isSpace (hw₀ d hd))
    · rw [hplace, hc]
      simp

/-- Nothing is read where the first that is not blank is no opening brace. -/
theorem payload?_eq_none_of_first {w : List Char} {b : Char} (hw : ∀ c ∈ w, isBlank c = true)
    (hblank : isBlank b = false) (hbrace : b ≠ '{') (cs : List Char) :
    payload? (w ++ b :: cs) = none := by
  refine Option.eq_none_iff_forall_ne_some.mpr fun v h => ?_
  rcases cases_of_readable h with ⟨⟨w', o, x, hw', ho, -, hsplit⟩, -⟩ | hkey
  · obtain ⟨body, rfl⟩ := ho.shape
    obtain ⟨-, hcons⟩ := append_inj_of_cut hw hw' (by simpa using hblank) (by simp; rfl) hsplit
    exact hbrace (List.cons.inj hcons).1
  · obtain ⟨w', key, rest, hopen, hw', -, hsplit⟩ := hkey
    rcases List.append_eq_append_iff.mp hsplit with ⟨y, rfl, hy⟩ | ⟨y, rfl, -⟩
    · cases y with
      | nil =>
        rw [List.append_nil] at hopen
        exact absurd (hw _ hopen) (by decide)
      | cons d y =>
        rw [← (List.cons.inj hy).1] at hw'
        rcases hw' b (by simp) with hb | hb
        · exact hbrace hb
        · rw [hb] at hblank
          exact absurd hblank (by decide)
    · exact absurd (hw _ (List.mem_append_left y hopen)) (by decide)

end Draftsman.Reply
