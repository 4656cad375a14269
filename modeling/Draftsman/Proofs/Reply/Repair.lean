/-
Repairing commas changes nothing but commas that a bracket follows.

The repair follows a text with no more than a position: outside literals, inside one, or
after a backslash. On a text of the grammar the position is right. Every phrase is *settled*:
read from outside literals it leaves the position outside, and no comma of it is taken,
whatever follows the phrase. Phrases are built from settled pieces, with one comma that has
to be argued for, the one between two parts of a container. What follows that comma begins
with something other than a closing bracket.

From there the repair is the identity on texts (`stripTrailingCommas_eq_self`), and commas
that were put before closing brackets are taken again, all of them and nothing else.
-/
import Draftsman.Reply.Interpretation
import Draftsman.Proofs.Decimal.NumberText
import Draftsman.Proofs.Json.Grammar

set_option autoImplicit false

namespace Draftsman.Reply

open Draftsman.Text Draftsman.Json Draftsman.Json.Grammar

/-! ## Positions -/

/-- Where the character after a text stands, if the text itself begins at `p`. -/
def Position.after (p : Position) (cs : List Char) : Position := cs.foldl Position.next p

@[simp] theorem Position.after_cons (p : Position) (c : Char) (cs : List Char) :
    p.after (c :: cs) = (p.next c).after cs := rfl

theorem Position.after_append (p : Position) (cs ds : List Char) :
    p.after (cs ++ ds) = (p.after cs).after ds := List.foldl_append

theorem Position.next_outside {c : Char} (hc : c ≠ '"') : Position.outside.next c = .outside :=
  if_neg hc

/-- The characters of a text that stand outside literals. -/
def outsideLiterals (p : Position) : List Char → List Char
  | [] => []
  | c :: cs =>
    if p = .outside then c :: outsideLiterals (p.next c) cs else outsideLiterals (p.next c) cs

theorem outsideLiterals_append (p : Position) (cs ds : List Char) :
    outsideLiterals p (cs ++ ds) = outsideLiterals p cs ++ outsideLiterals (p.after cs) ds := by
  induction cs generalizing p with
  | nil => rfl
  | cons c cs ih =>
    simp only [List.cons_append, outsideLiterals, Position.after_cons, ih]
    split <;> rfl

/-! ## One step of the repair -/

/-- A character that is not a comma outside literals is kept. -/
theorem stripFrom_cons_of_ne {p : Position} {c : Char} (cs : List Char)
    (h : p = .outside → c ≠ ',') : stripFrom p (c :: cs) = c :: stripFrom (p.next c) cs := by
  rw [stripFrom]
  refine if_neg ?_
  simp only [Bool.and_eq_true, decide_eq_true_eq]
  exact fun hc => h hc.1.1 hc.1.2

theorem stripFrom_comma_of_closesNext {cs : List Char} (h : closesNext cs = true) :
    stripFrom .outside (',' :: cs) = stripFrom .outside cs := by
  rw [stripFrom, h]
  rfl

theorem stripFrom_comma_of_not_closesNext {cs : List Char} (h : closesNext cs = false) :
    stripFrom .outside (',' :: cs) = ',' :: stripFrom .outside cs := by
  rw [stripFrom, h]
  rfl

/-- The repair only takes characters away. -/
theorem stripFrom_sublist (p : Position) (cs : List Char) : (stripFrom p cs).Sublist cs := by
  induction cs generalizing p with
  | nil => exact .slnil
  | cons c cs ih =>
    rw [stripFrom]
    split
    · exact (ih _).cons c
    · exact (ih _).cons_cons c

/-- The commas that are taken leave the position as it was. -/
theorem Position.after_stripFrom (p : Position) (cs : List Char) :
    p.after (stripFrom p cs) = p.after cs := by
  induction cs generalizing p with
  | nil => rfl
  | cons c cs ih =>
    rw [stripFrom]
    split
    · rename_i hc
      simp only [Bool.and_eq_true, decide_eq_true_eq] at hc
      have hnext : p.next c = p := by rw [hc.1.1, hc.1.2]; rfl
      rw [Position.after_cons, hnext, ih]
    · rw [Position.after_cons, Position.after_cons, ih]

/-! ## What a comma is followed by -/

theorem isBlank_of_isSpace {c : Char} (h : isSpace c = true) : isBlank c = true := by
  simp only [isSpace, Bool.or_eq_true, beq_iff_eq] at h
  rcases h with ((rfl | rfl) | rfl) | rfl <;> rfl

theorem closesNext_append_of_isSpaces {w : List Char} (hw : IsSpaces w) (cs : List Char) :
    closesNext (w ++ cs) = closesNext cs := by
  have hblank : ∀ c ∈ w, isBlank c = true := fun c hc => isBlank_of_isSpace (hw c hc)
  rw [closesNext, trimStart, List.dropWhile_append_of_pos hblank, closesNext, trimStart]

theorem closesNext_cons {c : Char} (cs : List Char) (hc : isBlank c = false) :
    closesNext (c :: cs) = (c == '}' || c == ']') := by
  rw [closesNext, trimStart, List.dropWhile_cons_of_neg (by rw [hc]; exact Bool.false_ne_true)]

theorem closesNext_closer {c : Char} (hc : c = '}' ∨ c = ']') (cs : List Char) :
    closesNext (c :: cs) = true := by
  rcases hc with rfl | rfl <;> rfl

/-- A text that begins, after white space, with something other than a closing bracket,
and does so whatever follows it. -/
def Opening (t : List Char) : Prop := ∀ r, closesNext (t ++ r) = false

theorem Opening.append {t : List Char} (h : Opening t) (u : List Char) : Opening (t ++ u) := by
  intro r
  rw [List.append_assoc]
  exact h (u ++ r)

theorem Opening.of_isSpaces {w t : List Char} (hw : IsSpaces w) (h : Opening t) :
    Opening (w ++ t) := by
  intro r
  rw [List.append_assoc, closesNext_append_of_isSpaces hw]
  exact h r

/-- Whether a character begins a value or a key, as far as brackets are concerned. -/
def opens (c : Char) : Bool := !isBlank c && c != '}' && c != ']'

theorem opening_cons {c : Char} (hc : opens c = true) (cs : List Char) : Opening (c :: cs) := by
  intro r
  simp only [opens, Bool.and_eq_true, Bool.not_eq_true', bne_iff_ne] at hc
  rw [List.cons_append, closesNext_cons _ hc.1.1, Bool.or_eq_false_iff]
  exact ⟨beq_eq_false_iff_ne.mpr hc.1.2, beq_eq_false_iff_ne.mpr hc.2⟩

theorem opens_of_isDigit {c : Char} (h : c.isDigit = true) : opens c = true := by
  have hblank : isBlank c = false := not_isBlank_of_isNumberChar (by rw [isNumberChar, h]; rfl)
  rw [opens, hblank, Bool.not_false, Bool.true_and, Bool.and_eq_true, bne_iff_ne, bne_iff_ne]
  exact ⟨by rintro rfl; exact absurd h (by decide), by rintro rfl; exact absurd h (by decide)⟩

theorem Opening.numberText {t : List Char} (h : NumberText t) : Opening t := by
  obtain ⟨hsign, hwhole, hfraction, hexponent⟩ := h
  rcases hsign with rfl | rfl
  · cases hwhole with
    | zero => exact opening_cons rfl _
    | digits hzero hds => exact opening_cons (opens_of_isDigit (hds.isDigit _ List.mem_cons_self)) _
  · exact opening_cons rfl _

/-- **No phrase begins with a closing bracket.** -/
theorem opening_of_derives {p : Phrase} {t : List Char} (h : Derives p t) : Opening t := by
  induction h with
  | null => exact opening_cons rfl _
  | true => exact opening_cons rfl _
  | false => exact opening_cons rfl _
  | number hn => exact .numberText hn
  | string hl =>
    cases hl
    exact opening_cons rfl _
  | emptyArray hw => exact opening_cons rfl _
  | array ht ih => exact opening_cons rfl _
  | ofObject ht ih => exact ih
  | emptyObject hw => exact opening_cons rfl _
  | object ht ih => exact opening_cons rfl _
  | element hw ht hw' ih => exact .of_isSpaces hw (ih.append _)
  | lastElement ht ih => exact ih
  | consElement ht hu iht ihu => exact iht.append _
  | member hw hk hw' ht ih =>
    cases hk
    exact .of_isSpaces hw (opening_cons rfl _)
  | lastMember ht ih => exact ih
  | consMember ht hu iht ihu => exact iht.append _

/-! ## Settled pieces -/

/-- A piece of text that begins at `p` and leads to `q`, through which the repair passes:
inside the piece it takes nothing, whatever follows. No backquote stands in the piece
outside literals. -/
structure Passes (p : Position) (t : List Char) (q : Position) : Prop where
  kept : ∀ r, stripFrom p (t ++ r) = t ++ stripFrom q r
  ends : p.after t = q
  noBackquote : '`' ∉ outsideLiterals p t

/-- A piece that the repair passes through outside literals, from its beginning to its
end. -/
abbrev Settled (t : List Char) : Prop := Passes .outside t .outside

theorem Passes.nil (p : Position) : Passes p [] p := ⟨fun _ => rfl, rfl, List.not_mem_nil⟩

theorem Passes.append {p q s : Position} {t u : List Char} (ht : Passes p t q)
    (hu : Passes q u s) : Passes p (t ++ u) s where
  kept r := by rw [List.append_assoc, ht.kept, hu.kept, List.append_assoc]
  ends := by rw [Position.after_append, ht.ends, hu.ends]
  noBackquote := by
    rw [outsideLiterals_append, ht.ends, List.mem_append, not_or]
    exact ⟨ht.noBackquote, hu.noBackquote⟩

theorem passes_singleton {p q : Position} {c : Char} (hnext : p.next c = q)
    (hcomma : p = .outside → c ≠ ',') (hback : p = .outside → c ≠ '`') : Passes p [c] q := by
  refine ⟨fun r => ?_, hnext, ?_⟩
  · rw [← hnext]
    exact stripFrom_cons_of_ne r hcomma
  · rw [outsideLiterals]
    split
    · rename_i hp
      exact List.not_mem_cons_of_ne_of_not_mem (hback hp).symm List.not_mem_nil
    · exact List.not_mem_nil

theorem passes_inside {c : Char} (hquote : c ≠ '"') (hbackslash : c ≠ '\\') :
    Passes .inside [c] .inside := by
  refine passes_singleton ?_ nofun nofun
  rw [Position.next, if_neg hbackslash, if_neg hquote]

theorem passes_escape (c : Char) : Passes .inside ['\\', c] .inside := by
  have hbackslash : Passes .inside ['\\'] .escaped := passes_singleton rfl nofun nofun
  have hletter : Passes .escaped [c] .inside := passes_singleton rfl nofun nofun
  exact hbackslash.append hletter

/-! ### Literals -/

theorem passes_of_literalChar {x : List Char} (h : LiteralChar x) : Passes .inside x .inside := by
  cases h with
  | plain hquote hbackslash hcontrol => exact passes_inside hquote hbackslash
  | escape hc => exact passes_escape _
  | @code a b c d hhex =>
    have hdigit : ∀ x ∈ [a, b, c, d], Passes .inside [x] .inside := by
      intro x hx
      refine passes_inside ?_ ?_
      all_goals
        rintro rfl
        exact absurd (hhex _ hx) (by decide)
    simp only [List.forall_mem_cons] at hdigit
    obtain ⟨ha, hb, hc, hd, -⟩ := hdigit
    exact (passes_escape 'u').append (ha.append (hb.append (hc.append hd)))

/-- The body of a literal stays inside it, quotes after a backslash included. -/
theorem passes_of_literalBody {body : List Char} (h : LiteralBody body) :
    Passes .inside body .inside := by
  induction h with
  | nil => exact .nil _
  | cons hx hbody ih => exact (passes_of_literalChar hx).append ih

theorem settled_of_literal {l : List Char} (h : Literal l) : Settled l := by
  obtain ⟨hbody⟩ := h
  have hopen : Passes .outside ['"'] .inside :=
    passes_singleton rfl (fun _ => by decide) (fun _ => by decide)
  have hclose : Passes .inside ['"'] .outside := passes_singleton rfl nofun nofun
  exact hopen.append ((passes_of_literalBody hbody).append hclose)

/-! ### Bare characters -/

/-- Whether a character means nothing to the repair, and is no backquote. -/
def isBare (c : Char) : Bool := c != '"' && c != ',' && c != '`'

theorem settled_of_forall_isBare {t : List Char} (h : ∀ c ∈ t, isBare c = true) : Settled t := by
  induction t with
  | nil => exact .nil _
  | cons c t ih =>
    have hc := h c List.mem_cons_self
    simp only [isBare, Bool.and_eq_true, bne_iff_ne] at hc
    have hhead : Settled [c] :=
      passes_singleton (Position.next_outside hc.1.1) (fun _ => hc.1.2) (fun _ => hc.2)
    exact hhead.append (ih fun d hd => h d (List.mem_cons_of_mem _ hd))

theorem settled_singleton {c : Char} (hc : isBare c = true) : Settled [c] :=
  settled_of_forall_isBare fun _ hd => List.mem_singleton.mp hd ▸ hc

theorem settled_of_blank {w : List Char} (hw : ∀ c ∈ w, isBlank c = true) : Settled w := by
  refine settled_of_forall_isBare fun c hc => ?_
  have hblank := hw c hc
  simp only [isBare, Bool.and_eq_true, bne_iff_ne]
  refine ⟨⟨?_, ?_⟩, ?_⟩
  all_goals
    rintro rfl
    exact absurd hblank (by decide)

theorem settled_of_isSpaces {w : List Char} (hw : IsSpaces w) : Settled w :=
  settled_of_blank fun c hc => isBlank_of_isSpace (hw c hc)

theorem settled_of_isDigits {ds : List Char} (h : IsDigits ds) : Settled ds := by
  refine settled_of_forall_isBare fun c hc => ?_
  have hdigit := h.isDigit c hc
  simp only [isBare, Bool.and_eq_true, bne_iff_ne]
  refine ⟨⟨?_, ?_⟩, ?_⟩
  all_goals
    rintro rfl
    exact absurd hdigit (by decide)

theorem settled_of_whole {t : List Char} (h : Whole t) : Settled t := by
  cases h with
  | zero => exact settled_singleton rfl
  | digits hzero hds => exact settled_of_isDigits hds

theorem settled_of_fraction {t : List Char} (h : Fraction t) : Settled t := by
  cases h with
  | none => exact .nil _
  | digits hds =>
    have hpoint : Settled ['.'] := settled_singleton rfl
    exact hpoint.append (settled_of_isDigits hds)

theorem settled_of_exponent {t : List Char} (h : Exponent t) : Settled t := by
  cases h with
  | none => exact .nil _
  | @digits e sign ds he hsign hds =>
    have hmark : Settled [e] := by rcases he with rfl | rfl <;> exact settled_singleton rfl
    have hsign : Settled sign := by
      rcases hsign with rfl | rfl | rfl
      · exact .nil _
      · exact settled_singleton rfl
      · exact settled_singleton rfl
    exact hmark.append (hsign.append (settled_of_isDigits hds))

theorem settled_of_numberText {t : List Char} (h : NumberText t) : Settled t := by
  obtain @⟨sign, whole, fraction, exponent, hsign, hwhole, hfraction, hexponent⟩ := h
  have hsign : Settled sign := by
    rcases hsign with rfl | rfl
    · exact .nil _
    · exact settled_singleton rfl
  have hdecimals := (settled_of_fraction hfraction).append (settled_of_exponent hexponent)
  exact hsign.append ((settled_of_whole hwhole).append hdecimals)

/-! ### Phrases -/

/-- A comma is passed through if no closing bracket can follow it. -/
theorem Passes.comma {t u : List Char} (ht : Settled t) (hu : Settled u) (hopen : Opening u) :
    Settled (t ++ ',' :: u) := by
  refine ht.append ⟨fun r => ?_, hu.ends, ?_⟩
  · rw [List.cons_append, stripFrom_comma_of_not_closesNext (hopen r), hu.kept]
    rfl
  · exact List.not_mem_cons_of_ne_of_not_mem (by decide) hu.noBackquote

/-- What brackets enclose is settled with its brackets. -/
theorem Passes.enclosed {t : List Char} (ht : Settled t) (a b : Char) (ha : isBare a = true)
    (hb : isBare b = true) : Settled (a :: (t ++ [b])) :=
  (settled_singleton ha).append (ht.append (settled_singleton hb))

/-- **Every phrase of the grammar is settled.** -/
theorem settled_of_derives {p : Phrase} {t : List Char} (h : Derives p t) : Settled t := by
  induction h with
  | null => exact settled_of_forall_isBare (List.all_eq_true.mp rfl)
  | true => exact settled_of_forall_isBare (List.all_eq_true.mp rfl)
  | false => exact settled_of_forall_isBare (List.all_eq_true.mp rfl)
  | number hn => exact settled_of_numberText hn
  | string hl => exact settled_of_literal hl
  | emptyArray hw => exact (settled_of_isSpaces hw).enclosed '[' ']' rfl rfl
  | array ht ih => exact ih.enclosed '[' ']' rfl rfl
  | ofObject ht ih => exact ih
  | emptyObject hw => exact (settled_of_isSpaces hw).enclosed '{' '}' rfl rfl
  | object ht ih => exact ih.enclosed '{' '}' rfl rfl
  | element hw ht hw' ih =>
    exact (settled_of_isSpaces hw).append (ih.append (settled_of_isSpaces hw'))
  | lastElement ht ih => exact ih
  | consElement ht hu iht ihu => exact iht.comma ihu (opening_of_derives hu)
  | member hw hk hw' ht ih =>
    have hcolon : Settled [':'] := settled_singleton rfl
    exact (settled_of_isSpaces hw).append ((settled_of_literal hk).append
      ((settled_of_isSpaces hw').append (hcolon.append ih)))
  | lastMember ht ih => exact ih
  | consMember ht hu iht ihu => exact iht.comma ihu (opening_of_derives hu)

/-! ## Texts -/

/-- **A valid text is not changed.** -/
theorem stripTrailingCommas_eq_self {t : List Char} (ht : IsText t) :
    stripTrailingCommas t = t := by
  have hkept := (settled_of_derives ht).kept []
  rw [List.append_nil, stripFrom, List.append_nil] at hkept
  exact hkept

/-- `CommasAdded t r` says that `r` is `t` with commas added before closing brackets: before
any of those that stand outside literals, at most one each, anywhere in the white space
that precedes the bracket. -/
inductive CommasAdded : List Char → List Char → Prop
  | nil : CommasAdded [] []
  | literal {l t r : List Char} : Literal l → CommasAdded t r → CommasAdded (l ++ t) (l ++ r)
  | other {c : Char} {t r : List Char} (hc : c ≠ '"') : CommasAdded t r →
      CommasAdded (c :: t) (c :: r)
  | comma {w w' t r : List Char} {c : Char} (hw : IsSpaces w) (hw' : IsSpaces w')
      (hc : c = '}' ∨ c = ']') : CommasAdded t r →
        CommasAdded (w ++ (w' ++ c :: t)) (w ++ ',' :: (w' ++ c :: r))

/-- Adding commas brings no closing bracket to the front. -/
theorem CommasAdded.closesNext_of_closesNext {t r : List Char} (h : CommasAdded t r)
    (hr : closesNext r = true) : closesNext t = true := by
  induction h with
  | nil => exact hr
  | literal hl h ih =>
    obtain ⟨hbody⟩ := hl
    exact absurd hr (by rw [List.cons_append, closesNext_cons _ rfl]; decide)
  | @other c t r hc h ih =>
    cases hblank : isBlank c with
    | false =>
      rw [closesNext_cons _ hblank] at hr ⊢
      exact hr
    | true =>
      rw [closesNext, trimStart, List.dropWhile_cons_of_pos hblank] at hr ⊢
      exact ih hr
  | comma hw hw' hc h ih =>
    rw [closesNext_append_of_isSpaces hw, closesNext_cons _ rfl] at hr
    exact absurd hr (by decide)

/-- If a text is not changed, neither repair nor added commas matter: the induction is on
the places of the commas, and the hypothesis passes to what is left after each piece. -/
theorem CommasAdded.stripFrom_eq {t r : List Char} (h : CommasAdded t r)
    (ht : stripFrom .outside t = t) : stripFrom .outside r = t := by
  induction h with
  | nil => rfl
  | literal hl h ih =>
    have hsettled := settled_of_literal hl
    rw [hsettled.kept] at ht ⊢
    rw [ih (List.append_cancel_left ht)]
  | @other c t r hc h ih =>
    by_cases hcomma : c = ','
    · subst hcomma
      cases hclose : closesNext t with
      | true =>
        -- the comma would be taken from `t`, and `t` would get shorter
        rw [stripFrom_comma_of_closesNext hclose] at ht
        have hlen := (stripFrom_sublist .outside t).length_le
        rw [ht, List.length_cons] at hlen
        exact absurd hlen (Nat.not_succ_le_self _)
      | false =>
        have hclose' : closesNext r = false := by
          refine Bool.eq_false_iff.mpr fun hr => ?_
          rw [h.closesNext_of_closesNext hr] at hclose
          exact absurd hclose (by decide)
        rw [stripFrom_comma_of_not_closesNext hclose] at ht
        rw [stripFrom_comma_of_not_closesNext hclose', ih (List.cons.inj ht).2]
    · rw [stripFrom_cons_of_ne _ fun _ => hcomma, Position.next_outside hc] at ht ⊢
      rw [ih (List.cons.inj ht).2]
  | @comma w w' t r c hw hw' hc h ih =>
    have hbracket : Settled [c] := by rcases hc with rfl | rfl <;> exact settled_singleton rfl
    have hw := settled_of_isSpaces hw
    have hclose : closesNext (w' ++ c :: r) = true := by
      rw [closesNext_append_of_isSpaces hw']
      exact closesNext_closer hc r
    have hpiece := (settled_of_isSpaces hw').append hbracket
    have hkept : ∀ cs, stripFrom .outside (w' ++ c :: cs) = w' ++ c :: stripFrom .outside cs := by
      intro cs
      have := hpiece.kept cs
      rwa [List.append_assoc, List.append_assoc] at this
    rw [hw.kept, hkept] at ht
    have ht := (List.cons.inj (List.append_cancel_left (List.append_cancel_left ht))).2
    rw [hw.kept, stripFrom_comma_of_closesNext hclose, hkept, ih ht]

/-- **Commas before closing brackets are taken again, and nothing else is changed.** The
repair leaves a valid text as it is, whatever its literals hold, and gives the text back
after commas were added before any of its closing brackets. -/
theorem stripTrailingCommas_undoes_added {t : List Char} (ht : IsText t) :
    stripTrailingCommas t = t ∧ ∀ r, CommasAdded t r → stripTrailingCommas r = t := by
  have hself := stripTrailingCommas_eq_self ht
  exact ⟨hself, fun r hr => hr.stripFrom_eq hself⟩

/-- The literal holds a comma and a bracket of its own, which stay. -/
theorem stripTrailingCommas_undoes_added_after_literal :
    IsText "[\",]\" ]".toList ∧ CommasAdded "[\",]\" ]".toList "[\",]\" ,]".toList ∧
      stripTrailingCommas "[\",]\" ,]".toList = "[\",]\" ]".toList := by
  have hliteral : Literal ['"', ',', ']', '"'] :=
    .mk (.cons (.plain (by decide) (by decide) (by decide))
      (.cons (.plain (by decide) (by decide) (by decide)) .nil))
  have hspace : IsSpaces [' '] := List.all_eq_true.mp rfl
  have hitem : Derives .element ['"', ',', ']', '"', ' '] :=
    .element isSpaces_nil (.string hliteral) hspace
  have htext : IsText "[\",]\" ]".toList :=
    .element isSpaces_nil (.array (.lastElement hitem)) isSpaces_nil
  have hadded : CommasAdded "[\",]\" ]".toList "[\",]\" ,]".toList :=
    .other (by decide) (.literal hliteral (.comma hspace isSpaces_nil (.inr rfl) .nil))
  exact ⟨htext, hadded, (stripTrailingCommas_undoes_added htext).2 _ hadded⟩

end Draftsman.Reply
