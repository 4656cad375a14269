/-
The order in which the places of a reply are tried.

The payload is the first place of a reply that can be read, and a place that comes twice, or
holds nothing but blanks, makes no difference (`interpret_eq_ok_iff`). So what a reply means is
settled by what can be read from each of its places.
-/
import Draftsman.Reply.Interpretation
import Draftsman.Proofs.Json.Soundness
import Draftsman.Proofs.Text.Trimming

set_option autoImplicit false

namespace Draftsman.Reply

open Draftsman.Text Draftsman.Json Draftsman.Json.Grammar

/-! ## Reading a candidate -/

theorem readCandidate_eq_ok_iff {c : List Char} {v : Json} :
    readCandidate c = .ok v ↔
      parseChars (stripTrailingCommas c) = .ok v ∧ v.isObject = true := by
  rw [readCandidate]
  constructor
  · intro h
    split at h
    · exact absurd h (by simp)
    · rename_i members hparse
      rw [← Except.ok.inj h]
      exact ⟨hparse, rfl⟩
    · exact absurd h (by simp)
  · rintro ⟨hparse, hobject⟩
    rw [hparse]
    cases v with
    | object members => rfl
    | _ => exact absurd hobject Bool.false_ne_true

/-- What is read is an object between white space, once it is repaired. -/
theorem exists_object_of_readCandidate {c : List Char} {v : Json} (h : readCandidate c = .ok v) :
    ∃ w body w', IsSpaces w ∧ IsSpaces w' ∧
      stripTrailingCommas c = w ++ ('{' :: (body ++ ['}']) ++ w') := by
  obtain ⟨hparse, hv⟩ := readCandidate_eq_ok_iff.mp h
  obtain ⟨w, t, w', hw, hw', hstrip, -, hobject, -⟩ := exists_piece_of_parseChars hparse
  obtain ⟨body, rfl⟩ := (hobject hv).object_shape
  exact ⟨w, body, w', hw, hw', hstrip⟩

/-! ## The first item that gives something -/

section First

variable {α β : Type*} {f : α → Option β} {x : α} {xs : List α} {e : β} {P Q : Prop}

theorem findSome?_filter {p : α → Bool} {items : List α}
    (h : ∀ x ∈ items, p x = false → f x = none) :
    (items.filter p).findSome? f = items.findSome? f := by
  induction items with
  | nil => rfl
  | cons x items ih =>
    have ih := ih fun y hy => h y (List.mem_cons_of_mem x hy)
    by_cases hx : p x = true
    · rw [List.filter_cons_of_pos hx, List.findSome?_cons, List.findSome?_cons, ih]
    · have hnone := h x List.mem_cons_self (Bool.eq_false_iff.mpr hx)
      rw [List.filter_cons_of_neg hx, List.findSome?_cons, hnone, ih]

/-- An item that gave nothing gives nothing where it comes again. -/
theorem findSome?_eraseDups [BEq α] [LawfulBEq α] (items : List α) :
    items.eraseDups.findSome? f = items.findSome? f := by
  -- each item is erased from all that follows it, so the induction is on the number of items
  induction hn : items.length using Nat.strong_induction_on generalizing items with
  | _ n ih =>
    cases items with
    | nil => rfl
    | cons x items =>
      have hlen : (items.filter fun y => !y == x).length < n := by
        have hle := List.length_filter_le (fun y => !y == x) items
        rw [← hn, List.length_cons]
        omega
      rw [List.eraseDups_cons, List.findSome?_cons, List.findSome?_cons, ih _ hlen _ rfl]
      cases hx : f x with
      | some v => rfl
      | none =>
        refine findSome?_filter fun y _ hy => ?_
        have hyx : y = x := by simpa using hy
        rw [hyx, hx]

theorem findSome?_cons_of_pos (hx : ∀ v, f x = some v ↔ v = e ∧ P) (hp : P) :
    (x :: xs).findSome? f = some e := by
  rw [List.findSome?_cons, (hx e).mpr ⟨rfl, hp⟩]

theorem findSome?_cons_of_neg (hx : ∀ v, f x = some v ↔ v = e ∧ P) (hp : ¬ P) :
    (x :: xs).findSome? f = xs.findSome? f := by
  have hnone : f x = none :=
    Option.eq_none_iff_forall_ne_some.mpr fun v hv => hp ((hx v).mp hv).2
  rw [List.findSome?_cons, hnone]

/-- If the first item gives `e` at most, and so do the others, the list does. -/
theorem findSome?_cons_iff (hx : ∀ v, f x = some v ↔ v = e ∧ P)
    (hxs : ∀ v, xs.findSome? f = some v ↔ v = e ∧ Q) (v : β) :
    (x :: xs).findSome? f = some v ↔ v = e ∧ (P ∨ Q) := by
  by_cases hp : P
  · rw [findSome?_cons_of_pos hx hp]
    simp [hp, eq_comm]
  · rw [findSome?_cons_of_neg hx hp, hxs, or_iff_right hp]

theorem findSome?_nil_iff (v : β) : ([] : List α).findSome? f = some v ↔ v = e ∧ False := by
  simp

end First

/-! ## The order of places -/

/-- The object that is read from a place. -/
def payload? (place : List Char) : Option Json := (readCandidate (trimChars place)).toOption

theorem toOption_eq_some_iff {c : List Char} {v : Json} :
    (readCandidate c).toOption = some v ↔ readCandidate c = .ok v := by
  cases readCandidate c with
  | ok u => simp [Except.toOption]
  | error e => simp [Except.toOption]

theorem payload?_eq_some_iff {place : List Char} {v : Json} :
    payload? place = some v ↔ readCandidate (trimChars place) = .ok v :=
  toOption_eq_some_iff

/-- The object that is read from a place, if the reply has that place. -/
def payloadAt? (place : Option (List Char)) : Option Json := place.bind payload?

theorem payloadAt?_eq_some_iff {place : Option (List Char)} {v : Json} :
    payloadAt? place = some v ↔ ∃ c, place = some c ∧ payload? c = some v :=
  Option.bind_eq_some_iff

theorem firstReadable_eq_ok_iff {fault : InterpretError} {cs : List (List Char)} {v : Json} :
    firstReadable fault cs = .ok v ↔
      cs.findSome? (fun c => (readCandidate c).toOption) = some v := by
  induction cs generalizing fault with
  | nil => simp [firstReadable]
  | cons c cs ih =>
    rw [firstReadable, List.findSome?_cons]
    cases readCandidate c with
    | ok u => simp [Except.toOption]
    | error e => exact ih

/-- Nothing is read from nothing. -/
theorem readCandidate_nil_ne_ok (v : Json) : readCandidate [] ≠ .ok v := by
  intro h
  obtain ⟨w, body, w', -, -, hstrip⟩ := exists_object_of_readCandidate h
  exact absurd hstrip (by simp [stripTrailingCommas, stripFrom])

/-- The places that are there, without the blanks around them. -/
theorem findSome?_trimmed (places : List (Option (List Char))) :
    ((places.filterMap id).map trimChars).findSome? (fun c => (readCandidate c).toOption) =
      places.findSome? payloadAt? := by
  induction places with
  | nil => rfl
  | cons place places ih =>
    cases place with
    | none => exact ih
    | some c =>
      rw [show (some c :: places).filterMap id = c :: places.filterMap id from rfl, List.map_cons,
        List.findSome?_cons, List.findSome?_cons, ih]
      rfl

/-- **The payload is the first place that can be read**, if the reply holds anything. -/
theorem interpret_eq_ok_iff {reply : String} {v : Json}
    (hblank : ¬ allBlank reply.toList = true) :
    interpret reply = .ok v ↔
      [jsonFence? reply.toList, anyFence? reply.toList, braceSpan? reply.toList].findSome?
        payloadAt? = some v := by
  have hempty : ∀ c : List Char, (!c.isEmpty) = false → (readCandidate c).toOption = none := by
    intro c hc
    obtain rfl : c = [] := by simpa using hc
    refine Option.eq_none_iff_forall_ne_some.mpr fun u hu => ?_
    exact readCandidate_nil_ne_ok u (toOption_eq_some_iff.mp hu)
  rw [interpret, if_neg hblank, firstReadable_eq_ok_iff, candidates, findSome?_eraseDups,
    findSome?_filter fun c _ => hempty c, findSome?_trimmed]

theorem not_allBlank_of_mem {c : Char} {cs : List Char} (hc : isBlank c = false) (hmem : c ∈ cs) :
    ¬ allBlank cs = true := by
  intro hall
  rw [List.all_eq_true.mp hall c hmem] at hc
  exact absurd hc (by decide)

end Draftsman.Reply
