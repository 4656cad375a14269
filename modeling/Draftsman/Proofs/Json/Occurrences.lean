/-
Where a tag can occur in a written value.

A tag begins with a less-than sign, which the writer puts nowhere but in string literals,
and consists of characters that a literal holds as they are. So a tag in the text of a value
begins in a literal. It ends in the same one, for it does not have the closing quote, and no
escape can be part of it. The text of a value therefore holds a tag exactly if one of the
strings and keys in the value does (`infix_prettyChars_iff`).
-/
import Draftsman.Proofs.Decimal.NumberText
import Draftsman.Proofs.Json.RoundTrip
import Draftsman.Proofs.Text.Occurrences

set_option autoImplicit false

namespace Draftsman.Json

open Draftsman.Text

/-! ## The strings in a value -/

mutual

/-- The strings in a value, and the keys of its objects. -/
def strings : Json → List String
  | string s => [s]
  | array items => itemStrings items
  | object members => memberStrings members
  | _ => []

/-- The strings in the items of an array. -/
def itemStrings : List Json → List String
  | [] => []
  | v :: rest => strings v ++ itemStrings rest

/-- The keys of the members of an object, and the strings in their values. -/
def memberStrings : List (String × Json) → List String
  | [] => []
  | (k, v) :: rest => k :: (strings v ++ memberStrings rest)

end

theorem strings_array (items : List Json) : (array items).strings = items.flatMap strings := by
  rw [strings]
  induction items with
  | nil => rfl
  | cons v rest ih => rw [itemStrings, ih, List.flatMap_cons]

theorem strings_object (members : List (String × Json)) :
    (object members).strings = members.flatMap fun m => m.1 :: m.2.strings := by
  rw [strings]
  induction members with
  | nil => rfl
  | cons m rest ih => rw [memberStrings, ih, List.flatMap_cons, List.cons_append]

@[simp] theorem strings_string (s : String) : (string s).strings = [s] := rfl

/-! ## String literals -/

/-- A character is written as it is, or by an escape that does not hold the sign. -/
theorem escapeChar_cases (c : Char) :
    escapeChar c = [c] ∨ ∃ escape, escapeChar c = '\\' :: escape ∧ '<' ∉ escape := by
  have hdigits : ∀ n < 0x20, '<' ∉ ['u', '0', '0', hexDigit (n / 16), hexDigit (n % 16)] := by
    decide
  unfold escapeChar
  split
  case h_8 =>
    split_ifs with hcontrol
    · exact .inr ⟨_, rfl, hdigits _ hcontrol⟩
    · exact .inl rfl
  all_goals exact .inr ⟨_, rfl, by decide⟩

/-- Text that a literal holds as it is. -/
def Verbatim (text : List Char) : Prop := ∀ c ∈ text, escapeChar c = [c]

theorem Verbatim.prefix_flatMap_escapeChar_iff {tag s : List Char} (htag : Verbatim tag) :
    tag <+: s.flatMap escapeChar ↔ tag <+: s := by
  induction tag generalizing s with
  | nil => exact iff_of_true List.nil_prefix List.nil_prefix
  | cons c tag ih =>
    have hc := htag c List.mem_cons_self
    cases s with
    | nil => rfl
    | cons d s =>
      rw [List.flatMap_cons]
      rcases escapeChar_cases d with hd | ⟨escape, hd, -⟩
      · rw [hd, List.singleton_append, List.cons_prefix_cons, List.cons_prefix_cons,
          ih fun e he => htag e (List.mem_cons_of_mem c he)]
      · -- the escape begins with a backslash, which is no character of a tag
        rw [hd, List.cons_append, List.cons_prefix_cons, List.cons_prefix_cons]
        refine iff_of_false ?_ ?_
        · rintro ⟨rfl, -⟩
          exact absurd hc (by decide)
        · rintro ⟨rfl, -⟩
          obtain ⟨rfl, -⟩ := List.cons.inj (hc.symm.trans hd)
          exact absurd hc (by decide)

section Tags

variable {tag : List Char} (htag : Verbatim ('<' :: tag))
include htag

theorem infix_flatMap_escapeChar_iff {s : List Char} :
    '<' :: tag <:+: s.flatMap escapeChar ↔ '<' :: tag <:+: s := by
  induction s with
  | nil => rfl
  | cons d s ih =>
    rcases escapeChar_cases d with hd | ⟨escape, hd, hescape⟩
    · have hstart := htag.prefix_flatMap_escapeChar_iff (s := d :: s)
      rw [List.flatMap_cons, hd, List.singleton_append] at hstart ⊢
      rw [List.infix_cons_iff, List.infix_cons_iff, hstart, ih]
    · -- no tag begins in the escape, nor with the character that it stands for
      have hd' : '<' ≠ d := by
        rintro rfl
        exact absurd hd (by simp [escapeChar])
      rw [List.flatMap_cons, hd, cons_infix_append_iff (by simpa using hescape), ih,
        List.infix_cons_iff, List.cons_prefix_cons, or_iff_right fun h => hd' h.1]

/-- A tag in a string literal and what follows it is in the string or in what follows. -/
theorem infix_quote_append_iff {s : String} {more : List Char} :
    '<' :: tag <:+: quote s ++ more ↔ '<' :: tag <:+: s.toList ∨ '<' :: tag <:+: more := by
  have hquote : '"' ∉ '<' :: tag := fun h => absurd (htag '"' h) (by decide)
  rw [quote, List.cons_append, infix_cons_iff_of_not_mem (List.cons_ne_nil _ _) hquote,
    List.append_assoc, List.singleton_append, infix_append_cons_iff (List.cons_ne_nil _ _) hquote,
    infix_flatMap_escapeChar_iff htag]

end Tags

/-! ## Around the literals -/

theorem not_mem_newline (depth : Nat) : '<' ∉ newline depth := by
  simp [newline, List.mem_replicate]

/-- No tag begins in the text of a number. -/
theorem not_mem_text (n : Number) : '<' ∉ n.text.toList := fun h =>
  absurd (Number.isNumberChar_of_mem_text h) (by decide)

section Tags

variable {tag : List Char}

/-- The comma before later items and members begins no tag. -/
theorem infix_laterItems_append_iff {depth : Nat} {items : List Json} {more : List Char} :
    '<' :: tag <:+: laterItems depth items ++ more ↔
      '<' :: tag <:+: prettyItems depth items ++ more := by
  cases items with
  | nil => rw [laterItems, prettyItems]
  | cons v rest => exact cons_infix_append_iff (a := [',']) (by decide)

theorem infix_laterMembers_append_iff {depth : Nat} {members : List (String × Json)}
    {more : List Char} :
    '<' :: tag <:+: laterMembers depth members ++ more ↔
      '<' :: tag <:+: prettyMembers depth members ++ more := by
  cases members with
  | nil => rw [laterMembers, prettyMembers]
  | cons m rest => exact cons_infix_append_iff (a := [',']) (by decide)

/-! ## Values

The induction is on the value, with whatever is written after it: a tag that does not begin
in the value begins in what follows, since none reaches over the end of a literal. -/

mutual

theorem infix_prettyChars_append_iff (htag : Verbatim ('<' :: tag)) (depth : Nat) (v : Json)
    (more : List Char) :
    '<' :: tag <:+: prettyChars depth v ++ more ↔
      (∃ s ∈ v.strings, '<' :: tag <:+: s.toList) ∨ '<' :: tag <:+: more := by
  match v with
  | .null =>
    simp only [prettyChars, scalar, strings, List.not_mem_nil, false_and, exists_false, false_or]
    exact cons_infix_append_iff (by decide)
  | .bool b =>
    simp only [prettyChars, scalar, strings, List.not_mem_nil, false_and, exists_false, false_or]
    exact cons_infix_append_iff (by cases b <;> decide)
  | .number n =>
    simp only [prettyChars, scalar, strings, List.not_mem_nil, false_and, exists_false, false_or]
    exact cons_infix_append_iff (not_mem_text n)
  | .string s =>
    simp only [prettyChars, scalar, strings, List.mem_singleton, exists_eq_left]
    exact infix_quote_append_iff htag
  | .array [] =>
    simp only [prettyChars, strings, itemStrings, List.not_mem_nil, false_and, exists_false,
      false_or]
    exact cons_infix_append_iff (by decide)
  | .array (u :: rest) =>
    have hopen : '<' ∉ ['['] := by decide
    have hclose : '<' ∉ newline depth ++ [']'] := by simp [not_mem_newline]
    have hitems :=
      infix_prettyItems_append_iff htag (depth + 1) (u :: rest) (newline depth ++ [']'] ++ more)
    rw [cons_infix_append_iff hclose, ← cons_infix_append_iff hopen] at hitems
    simpa only [prettyChars, strings, List.cons_append, List.nil_append, List.append_assoc]
      using hitems
  | .object [] =>
    simp only [prettyChars, strings, memberStrings, List.not_mem_nil, false_and, exists_false,
      false_or]
    exact cons_infix_append_iff (by decide)
  | .object (m :: rest) =>
    have hopen : '<' ∉ ['{'] := by decide
    have hclose : '<' ∉ newline depth ++ ['}'] := by simp [not_mem_newline]
    have hmembers :=
      infix_prettyMembers_append_iff htag (depth + 1) (m :: rest) (newline depth ++ ['}'] ++ more)
    rw [cons_infix_append_iff hclose, ← cons_infix_append_iff hopen] at hmembers
    simpa only [prettyChars, strings, List.cons_append, List.nil_append, List.append_assoc]
      using hmembers

theorem infix_prettyItems_append_iff (htag : Verbatim ('<' :: tag)) (depth : Nat)
    (items : List Json) (more : List Char) :
    '<' :: tag <:+: prettyItems depth items ++ more ↔
      (∃ s ∈ itemStrings items, '<' :: tag <:+: s.toList) ∨ '<' :: tag <:+: more := by
  match items with
  | [] => simp [prettyItems, itemStrings]
  | v :: rest =>
    rw [prettyItems_cons, List.append_assoc, cons_infix_append_iff (not_mem_newline depth),
      List.append_assoc, infix_prettyChars_append_iff htag depth v, infix_laterItems_append_iff,
      infix_prettyItems_append_iff htag depth rest, itemStrings, ← or_assoc]
    simp only [List.mem_append, or_and_right, exists_or]

theorem infix_prettyMembers_append_iff (htag : Verbatim ('<' :: tag)) (depth : Nat)
    (members : List (String × Json)) (more : List Char) :
    '<' :: tag <:+: prettyMembers depth members ++ more ↔
      (∃ s ∈ memberStrings members, '<' :: tag <:+: s.toList) ∨ '<' :: tag <:+: more := by
  match members with
  | [] => simp [prettyMembers, memberStrings]
  | (k, v) :: rest =>
    have hcolon : '<' ∉ [':', ' '] := by decide
    have hmember : prettyMembers depth ((k, v) :: rest) ++ more = newline depth ++ (quote k ++
        ([':', ' '] ++ (prettyChars depth v ++ (laterMembers depth rest ++ more)))) := by
      rw [prettyMembers_cons]
      simp [quote]
    rw [hmember, cons_infix_append_iff (not_mem_newline depth), infix_quote_append_iff htag,
      cons_infix_append_iff hcolon, infix_prettyChars_append_iff htag depth v,
      infix_laterMembers_append_iff, infix_prettyMembers_append_iff htag depth rest, memberStrings]
    simp only [List.mem_cons, List.mem_append, or_and_right, exists_or, exists_eq_left, or_assoc]

end

/-- **The text of a value holds a tag exactly if a string or a key in the value does.** -/
theorem infix_pretty_iff (htag : Verbatim ('<' :: tag)) (v : Json) :
    '<' :: tag <:+: v.pretty.toList ↔ ∃ s ∈ v.strings, '<' :: tag <:+: s.toList := by
  have htext := infix_prettyChars_append_iff htag 0 v []
  rw [List.append_nil, List.infix_nil, or_iff_left (List.cons_ne_nil _ _)] at htext
  rw [pretty, String.toList_ofList]
  exact htext

end Tags

end Draftsman.Json
