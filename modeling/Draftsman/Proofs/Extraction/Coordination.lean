/-
Coordinated lists of nouns.

"New books, members and a phone number" is a list of three items, each a run of nouns behind its
modifiers, with a link between one item and the next. The list is read from left to right and ends
with the first item that is empty or has no link behind it. `Coordinated` says the same without
reading anything: what an item, a link and the end of a list are. The two agree, and a list is
coordinated in one way only (`objectItems_eq_iff`).
-/
import Draftsman.Extraction.Finding
import Draftsman.Proofs.Text.Cutting
import Mathlib.Tactic.SplitIfs

set_option autoImplicit false

namespace Draftsman.Extraction

open Draftsman.Text Draftsman.Prose

/-! ## Classes that exclude one another -/

theorem not_isModifier_of_isNoun {t : Token} (h : t.isNoun = true) : isModifier t = false := by
  have htag : t.tag = .noun ∨ t.tag = .properNoun := by simpa [Token.isNoun] using h
  rcases htag with htag | htag <;> (rw [isModifier, htag]; rfl)

/-- A separator is a conjunction or a mark. -/
theorem tag_of_isSeparator {t : Token} (h : t.isSeparator = true) :
    t.tag = .conjunction ∨ t.tag = .punctuation := by
  rw [Token.isSeparator, Token.isMark, Bool.or_eq_true, Bool.and_eq_true] at h
  exact h.imp eq_of_beq fun h => eq_of_beq h.1

theorem not_isNoun_of_isSeparator {t : Token} (h : t.isSeparator = true) : t.isNoun = false := by
  rcases tag_of_isSeparator h with htag | htag <;> (rw [Token.isNoun, htag]; rfl)

/-! ## Lists -/

/-- What links an item to the next one: a comma or a conjunction, and a conjunction behind it if
there is one. `rest` is what follows the link. -/
inductive IsLink : List Token → List Token → Prop
  | single {separator : Token} {rest : List Token} (hseparator : separator.isSeparator = true)
      (hrest : ∀ t ∈ rest.head?, t.tag ≠ .conjunction) : IsLink [separator] rest
  | double {separator conjunction : Token} {rest : List Token}
      (hseparator : separator.isSeparator = true) (hconjunction : conjunction.tag = .conjunction) :
      IsLink [separator, conjunction] rest

/-- The coordinated items at the start of some words, and the words that are left behind them. An
item is a run of nouns, as long as it can be, behind its modifiers. The list goes on as long as
there is a link and an item behind it. -/
inductive Coordinated : List Token → List (List Token) → List Token → Prop
  | stop {modifiers left : List Token} (hmodifiers : ∀ t ∈ modifiers, isModifier t = true)
      (hleft : ∀ t ∈ left.head?, isModifier t = false ∧ t.isNoun = false) :
      Coordinated (modifiers ++ left) [] left
  | last {modifiers item left : List Token} (hmodifiers : ∀ t ∈ modifiers, isModifier t = true)
      (hne : item ≠ []) (hitem : ∀ t ∈ item, t.isNoun = true)
      (hleft : ∀ t ∈ left.head?, t.isNoun = false ∧ t.isSeparator = false) :
      Coordinated (modifiers ++ (item ++ left)) [item] left
  | more {modifiers item link rest left : List Token} {items : List (List Token)}
      (hmodifiers : ∀ t ∈ modifiers, isModifier t = true) (hne : item ≠ [])
      (hitem : ∀ t ∈ item, t.isNoun = true) (hlink : IsLink link rest)
      (hrest : Coordinated rest items left) :
      Coordinated (modifiers ++ (item ++ (link ++ rest))) (item :: items) left

/-! ### Links -/

theorem IsLink.exists_cons {link rest : List Token} (h : IsLink link rest) :
    ∃ separator more, link = separator :: more ∧ separator.isSeparator = true ∧
      dropConjunction (more ++ rest) = rest ∧ ∀ t ∈ more, t.tag = .conjunction := by
  cases h with
  | @single separator rest hseparator hrest =>
    refine ⟨separator, [], rfl, hseparator, ?_, fun t ht => absurd ht List.not_mem_nil⟩
    cases rest with
    | nil => rfl
    | cons t rest => exact if_neg (hrest t rfl)
  | @double separator conjunction rest hseparator hconjunction =>
    refine ⟨separator, [conjunction], rfl, hseparator, if_pos hconjunction, fun t ht => ?_⟩
    exact List.mem_singleton.mp ht ▸ hconjunction

/-- A separator begins a link, whatever follows it. -/
theorem exists_isLink {separator : Token} (hseparator : separator.isSeparator = true)
    (rest : List Token) :
    ∃ link, separator :: rest = link ++ dropConjunction rest ∧
      IsLink link (dropConjunction rest) := by
  cases rest with
  | nil => exact ⟨[separator], rfl, .single hseparator fun t ht => nomatch ht⟩
  | cons t rest =>
    by_cases ht : t.tag = .conjunction
    · rw [dropConjunction, if_pos ht]
      exact ⟨[separator, t], rfl, .double hseparator ht⟩
    · rw [dropConjunction, if_neg ht]
      exact ⟨[separator], rfl, .single hseparator fun u hu => Option.some.inj hu ▸ ht⟩

/-! ## Lists as they are read -/

/-- The items behind the first one, in what follows it. -/
def laterItems : List Token → List (List Token)
  | [] => []
  | separator :: rest =>
    if separator.isSeparator then objectItems (dropConjunction rest) else []

/-- A list is its first item and what follows, unless that item is empty. -/
theorem objectItems_eq (tokens : List Token) :
    objectItems tokens =
      if (tokens.dropWhile isModifier).takeWhile Token.isNoun = [] then []
      else (tokens.dropWhile isModifier).takeWhile Token.isNoun ::
        laterItems ((tokens.dropWhile isModifier).dropWhile Token.isNoun) := by
  rw [objectItems]
  simp only [List.isEmpty_iff]
  split_ifs
  · rfl
  -- the words behind the first item are named by the match, in both of its cases
  split
  · rename_i hend
    rw [hend]
    rfl
  · rename_i separator rest hrest
    rw [hrest, laterItems]
    split_ifs <;> rfl

theorem objectItems_eq_nil {modifiers left : List Token}
    (hmodifiers : ∀ t ∈ modifiers, isModifier t = true)
    (hleft : ∀ t ∈ left.head?, isModifier t = false ∧ t.isNoun = false) :
    objectItems (modifiers ++ left) = [] := by
  have hnone : left.takeWhile Token.isNoun = [] :=
    takeWhile_append_of_cut (a := []) (by simp) fun t ht => (hleft t ht).2
  rw [objectItems_eq, dropWhile_append_of_cut hmodifiers fun t ht => (hleft t ht).1]
  exact if_pos hnone

theorem objectItems_eq_cons {modifiers item rest : List Token}
    (hmodifiers : ∀ t ∈ modifiers, isModifier t = true) (hne : item ≠ [])
    (hitem : ∀ t ∈ item, t.isNoun = true) (hrest : ∀ t ∈ rest.head?, t.isNoun = false) :
    objectItems (modifiers ++ (item ++ rest)) = item :: laterItems rest := by
  have hbody : (modifiers ++ (item ++ rest)).dropWhile isModifier = item ++ rest := by
    refine dropWhile_append_of_cut hmodifiers fun t ht => ?_
    rw [List.head?_append_of_ne_nil _ hne] at ht
    exact not_isModifier_of_isNoun (hitem t (List.mem_of_head? ht))
  rw [objectItems_eq, hbody, takeWhile_append_of_cut hitem hrest,
    dropWhile_append_of_cut hitem hrest]
  exact if_neg hne

theorem Coordinated.objectItems_eq {tokens left : List Token} {items : List (List Token)}
    (h : Coordinated tokens items left) : objectItems tokens = items := by
  induction h with
  | stop hmodifiers hleft => exact objectItems_eq_nil hmodifiers hleft
  | @last modifiers item left hmodifiers hne hitem hleft =>
    rw [objectItems_eq_cons hmodifiers hne hitem fun t ht => (hleft t ht).1]
    cases left with
    | nil => rfl
    | cons t left => rw [laterItems, if_neg (by rw [(hleft t rfl).2]; exact Bool.false_ne_true)]
  | @more modifiers item link rest left items hmodifiers hne hitem hlink hrest ih =>
    obtain ⟨separator, conjunction, rfl, hseparator, hdrop, -⟩ := hlink.exists_cons
    rw [objectItems_eq_cons hmodifiers hne hitem fun t ht => ?_]
    · rw [List.cons_append, laterItems, if_pos hseparator, hdrop, ih]
    · rw [List.cons_append, List.head?_cons, Option.mem_some_iff] at ht
      exact ht ▸ not_isNoun_of_isSeparator hseparator

/-- Every list is coordinated in some way. The induction is on the number of words: those behind a
link are fewer than all of them. -/
theorem exists_coordinated (tokens : List Token) :
    ∃ left, Coordinated tokens (objectItems tokens) left := by
  induction hlength : tokens.length using Nat.strongRecOn generalizing tokens with
  | _ n ih =>
    -- the list is modifiers, an item that may be empty, and a rest
    obtain ⟨modifiers, body, rfl, hmodifiers, hbody⟩ := exists_cut isModifier tokens
    obtain ⟨item, rest, rfl, hitem, hrest⟩ := exists_cut Token.isNoun body
    by_cases hne : item = []
    · rw [hne, List.nil_append] at hbody ⊢
      have hleft : ∀ t ∈ rest.head?, isModifier t = false ∧ t.isNoun = false :=
        fun t ht => ⟨hbody t ht, hrest t ht⟩
      rw [objectItems_eq_nil hmodifiers hleft]
      exact ⟨rest, .stop hmodifiers hleft⟩
    · rw [objectItems_eq_cons hmodifiers hne hitem hrest]
      cases rest with
      | nil => exact ⟨[], .last hmodifiers hne hitem fun t ht => nomatch ht⟩
      | cons separator rest =>
        rw [laterItems]
        split_ifs with hseparator
        · obtain ⟨link, hsplit, hlink⟩ := exists_isLink hseparator rest
          have hshort : (dropConjunction rest).length < n := by
            have hle := length_dropConjunction_le rest
            rw [← hlength]
            simp only [List.length_append, List.length_cons]
            omega
          obtain ⟨left, hleft⟩ := ih _ hshort (dropConjunction rest) rfl
          rw [hsplit]
          exact ⟨left, .more hmodifiers hne hitem hlink hleft⟩
        · refine ⟨separator :: rest, .last hmodifiers hne hitem fun t ht => ⟨hrest t ht, ?_⟩⟩
          rw [← Option.some.inj ht]
          exact Bool.eq_false_iff.mpr hseparator

/-- **A list is read as the items that it coordinates.** -/
theorem objectItems_eq_iff {tokens : List Token} {items : List (List Token)} :
    objectItems tokens = items ↔ ∃ left, Coordinated tokens items left := by
  constructor
  · rintro rfl
    exact exists_coordinated tokens
  · rintro ⟨left, h⟩
    exact h.objectItems_eq

end Draftsman.Extraction
