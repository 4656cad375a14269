/-
Names as tokens of diagram source.

Wherever a name is written it is an identifier, or it stands between quotes and has no quote
in it. Such a token shows by itself where it ends, if what follows cannot prolong an
identifier. So two lines that begin with tokens agree only if the tokens do
(`IsToken.append_inj`), whatever the names are that the tokens were made from.
-/
import Draftsman.Markup.Diagram
import Draftsman.Proofs.Markup.Participants
import Draftsman.Proofs.Text.Cutting

set_option autoImplicit false

namespace Draftsman.Markup

open Draftsman.Text

/-! ## Tokens -/

/-- A name as it stands in the source. -/
inductive IsToken : List Char → Prop
  | bare {token : List Char} (h : isIdentifier token = true) : IsToken token
  | quoted {text : List Char} (h : '"' ∉ text) : IsToken ('"' :: (text ++ ['"']))

/-- What may follow a token: nothing, or a character that no identifier has. -/
def Parted (rest : List Char) : Prop := ∀ c ∈ rest.head?, isIdentifierPart c = false

theorem parted_nil : Parted [] := fun c hc => absurd hc (by simp)

theorem parted_cons {c : Char} {cs : List Char} (hc : isIdentifierPart c = false) :
    Parted (c :: cs) := fun _ hd => Option.mem_some.mp hd ▸ hc

/-! ## What is written is a token -/

theorem quote_not_mem_softenQuotes (text : List Char) : '"' ∉ softenQuotes text := by
  intro hmem
  obtain ⟨c, -, hc⟩ := List.mem_map.mp hmem
  split_ifs at hc with hquote
  · exact absurd hc (by decide)
  · exact hquote hc

theorem isToken_enquote (text : List Char) : IsToken (enquote text) :=
  .quoted (quote_not_mem_softenQuotes text)

theorem isToken_written (name : String) : IsToken (written name) := by
  rw [written]
  split_ifs with hname
  · exact .bare hname
  · exact isToken_enquote (tidy name)

theorem isIdentifier_reference (name : String) : isIdentifier (reference name) = true := by
  rw [reference_eq_aliasOf]
  exact isIdentifier_aliasOf name

/-! ## Where a token begins and ends -/

theorem forall_mem_of_isIdentifier {token : List Char} (h : isIdentifier token = true) :
    ∀ c ∈ token, isIdentifierPart c = true := by
  cases token with
  | nil => exact fun c hc => absurd hc List.not_mem_nil
  | cons d ds =>
    rw [isIdentifier, Bool.and_eq_true, Bool.or_eq_true] at h
    obtain ⟨hfirst, hrest⟩ := h
    intro c hc
    rcases List.mem_cons.mp hc with rfl | hc
    · rcases hfirst with hletter | hunderscore
      · exact isIdentifierPart_of_isPlainLetter hletter
      · exact beq_iff_eq.mp hunderscore ▸ isIdentifierPart_underscore
    · exact List.all_eq_true.mp hrest c hc

/-- A token begins with a quote or a part of an identifier. -/
theorem IsToken.exists_cons {token : List Char} (h : IsToken token) :
    ∃ c cs, token = c :: cs ∧ (c = '"' ∨ isIdentifierPart c = true) := by
  cases h with
  | bare h =>
    cases token with
    | nil => exact absurd h Bool.false_ne_true
    | cons c cs => exact ⟨c, cs, rfl, .inr (forall_mem_of_isIdentifier h c List.mem_cons_self)⟩
  | quoted h => exact ⟨'"', _, rfl, .inl rfl⟩

/-- **A token shows where it ends**: an identifier before what cannot be part of one, a quoted
text at its second quote. -/
theorem IsToken.append_inj {s t r r' : List Char} (hs : IsToken s) (ht : IsToken t)
    (hr : Parted r) (hr' : Parted r') (h : s ++ r = t ++ r') : s = t ∧ r = r' := by
  -- a token of one kind does not begin like a token of the other
  have hmixed : ∀ {token text rest rest' : List Char}, isIdentifier token = true →
      token ++ rest ≠ '"' :: (text ++ ['"']) ++ rest' := by
    intro token text rest rest' htoken heq
    cases token with
    | nil => exact absurd htoken Bool.false_ne_true
    | cons c cs =>
      have hc := forall_mem_of_isIdentifier htoken c List.mem_cons_self
      rw [(List.cons.inj heq).1] at hc
      exact absurd hc (by decide)
  cases hs with
  | bare hs =>
    cases ht with
    | bare ht =>
      exact append_inj_of_cut (forall_mem_of_isIdentifier hs) (forall_mem_of_isIdentifier ht)
        hr hr' h
    | quoted => exact absurd h (hmixed hs)
  | @quoted text hs =>
    cases ht with
    | bare ht => exact absurd h.symm (hmixed ht)
    | @quoted text' ht =>
      have hinside : ∀ {text : List Char}, '"' ∉ text → ∀ c ∈ text, (c != '"') = true :=
        fun htext c hc => bne_iff_ne.mpr fun hquote => htext (hquote ▸ hc)
      have hclosed : ∀ {rest : List Char}, ∀ c ∈ ('"' :: rest).head?, (c != '"') = false :=
        fun c hc => Option.mem_some.mp hc ▸ rfl
      simp only [List.cons_append, List.append_assoc, List.nil_append, List.cons.injEq,
        true_and] at h
      obtain ⟨htext, hrest⟩ := append_inj_of_cut (hinside hs) (hinside ht) hclosed hclosed h
      exact ⟨by rw [htext], (List.cons.inj hrest).2⟩

end Draftsman.Markup
