/-
How far tagging looks.

The second pass goes from left to right. What it decides about a word depends on the words to the
left as they have been corrected already, arbitrarily far back where adverbs stand in between, and
on one word to the right as the first pass has left it. So the induction over the words carries the
left context along, whatever it is, and the right end of a list of words can only be felt by its
last word: all others are tagged in the same way whatever is put behind them
(`dropLast_correctFrom_prefix`). Neither pass drops, adds or respells a word, and only a verb gets a
base form that is not its small form.
-/
import Draftsman.Proofs.Prose.ClosedClasses

set_option autoImplicit false

namespace Draftsman.Prose

open Draftsman.Text

/-! ## One word ahead -/

/-- Only the very first word opens the sentence, so the first pass goes on behind a word as if the
words behind it stood alone. -/
theorem lexicalTokens_append {ws : List (List Char)} (hne : ws ≠ []) (xs : List (List Char)) :
    lexicalTokens (ws ++ xs) = lexicalTokens ws ++ xs.map (lexicalToken · false) := by
  obtain ⟨word, rest, rfl⟩ := List.exists_cons_of_ne_nil hne
  rw [List.cons_append, lexicalTokens, lexicalTokens, List.map_append, List.cons_append]

/-- **All words but the last are corrected alike whatever follows.** The left context is the same in
both runs, since it is made of corrected words only; the word ahead is the same as long as there is
one. -/
theorem dropLast_correctFrom_prefix (ctx : LeftContext) (tokens more : List Token) :
    (correctFrom ctx tokens).dropLast <+: correctFrom ctx (tokens ++ more) := by
  induction tokens generalizing ctx with
  | nil => exact List.nil_prefix
  | cons t rest ih =>
    rw [List.cons_append, correctFrom, correctFrom]
    cases rest with
    | nil =>
      -- the last word of all, which may be corrected in another way
      exact List.nil_prefix
    | cons next rest =>
      have hahead : (next :: rest ++ more).head? = (next :: rest).head? := rfl
      have hbehind := ih (ctx.advance (correct ctx (next :: rest).head? t))
      have hne : correctFrom (ctx.advance (correct ctx (next :: rest).head? t)) (next :: rest) ≠ [] :=
        List.cons_ne_nil _ _
      rw [hahead, List.dropLast_cons_of_ne_nil hne]
      exact List.cons_prefix_cons.mpr ⟨rfl, hbehind⟩

theorem dropLast_tag_prefix (ws xs : List (List Char)) : (tag ws).dropLast <+: tag (ws ++ xs) := by
  by_cases hne : ws = []
  · rw [hne]
    exact List.nil_prefix
  · rw [tag, tag, lexicalTokens_append hne]
    exact dropLast_correctFrom_prefix .start (lexicalTokens ws) _

theorem length_tag (words : List (List Char)) : (tag words).length = words.length := by
  have htexts := congrArg List.length (map_text_tag words)
  rwa [List.length_map] at htexts

/-! ## Forms -/

/-- A word with its small form for a base form, unless it is a verb. -/
def Token.KeepsSmallForm (t : Token) : Prop := t.tag ≠ .verb → t.base = t.lower

theorem keepsSmallForm_lexicalToken (word : List Char) (opening : Bool) :
    (lexicalToken word opening).KeepsSmallForm := by
  intro hverb
  exact if_neg hverb

/-- A correction away from the verbs restores the small form, and one to a verb need not keep it. -/
theorem Token.KeepsSmallForm.correct {t : Token} (h : t.KeepsSmallForm) (ctx : LeftContext)
    (next : Option Token) : (correct ctx next t).KeepsSmallForm := by
  unfold Prose.correct
  split
  · -- a verb that becomes a noun
    split_ifs
    · exact fun _ => rfl
    · exact h
  · -- a noun that becomes a verb
    dsimp only
    split_ifs
    · exact fun hverb => absurd rfl hverb
    · exact h
  · -- an imperative
    split_ifs
    · split
      · exact fun hverb => absurd rfl hverb
      · exact h
    · exact h
  · exact h

/-! ## Both -/

/-- **Tagging looks at most one word ahead, and keeps the words.** Whatever is put behind some
words, each of them but the last is given the same token. The texts of the tokens are the words, one
by one; every token has the small form of its word, and if it is no verb, that is its base form
too. -/
theorem tag_looks_one_word_ahead (ws xs : List (List Char)) :
    (∀ i, i + 1 < ws.length → (tag (ws ++ xs))[i]? = (tag ws)[i]?) ∧
      (tag ws).map Token.text = ws ∧
      ∀ t ∈ tag ws, t.lower = lowerChars t.text ∧ (t.tag ≠ .verb → t.base = t.lower) := by
  refine ⟨?_, map_text_tag ws, ?_⟩
  · intro i hi
    have hlast : i < (tag ws).dropLast.length := by
      rw [List.length_dropLast, length_tag]
      omega
    obtain ⟨more, hmore⟩ := dropLast_tag_prefix ws xs
    rw [← hmore, List.getElem?_append_left hlast, List.getElem?_dropLast, if_pos]
    rw [List.length_dropLast] at hlast
    exact hlast
  · intro t ht
    have hsmall : t.Inflected :=
      forall_mem_tag (fun w _ => inflected_lexicalToken w)
        (fun ctx next _ hu => hu.correct ctx next) t ht
    have hkeeps : t.KeepsSmallForm :=
      forall_mem_tag (fun w _ => keepsSmallForm_lexicalToken w)
        (fun ctx next _ hu => hu.correct ctx next) t ht
    exact ⟨hsmall.lower, hkeeps⟩

/-- The last word may be felt: "orders" is a noun at the end and a verb in front of another noun. -/
example : ((tag (["A", "customer", "orders"].map String.toList)).map Token.tag,
    (tag (["A", "customer", "orders", "products"].map String.toList)).map Token.tag) =
      ([.determiner, .noun, .noun], [.determiner, .noun, .verb, .noun]) := by
  decide +kernel

end Draftsman.Prose
