/-
What is written is read back.

The writer puts each value so that its reader stops where it ends, whatever comes after: a
string at its closing quote, a container at its closing bracket. So the text of a value is
read as the value, by induction on how it is built (`Plain.readsBack`), and a text written
over several lines parses (`parse_pretty`). Two things keep that from holding of all values.
The parser opens a limited number of containers, and it enters the members of an object in
the order of their keys, so that what comes back is the sorted value. Numbers are left out
here; nothing that is written for people or kept for later holds one.
-/
import Draftsman.Json.Printer
import Draftsman.Proofs.Json.Soundness
import Mathlib.Tactic.SplitIfs

set_option autoImplicit false

namespace Draftsman.Json

open Draftsman.Json.Grammar

/-! ## Plain values -/

/-- A value without numbers, with distinct keys in every object, and with at most so many
containers inside one another. -/
inductive Plain : Nat → Json → Prop
  | null {n : Nat} : Plain n .null
  | bool {n : Nat} (b : Bool) : Plain n (.bool b)
  | string {n : Nat} (s : String) : Plain n (.string s)
  | array {n : Nat} {items : List Json} (hitems : ∀ v ∈ items, Plain n v) :
      Plain (n + 1) (.array items)
  | object {n : Nat} {members : List (String × Json)} (hkeys : (members.map Prod.fst).Nodup)
      (hmembers : ∀ m ∈ members, Plain n m.2) : Plain (n + 1) (.object members)

@[simp] theorem sorted_null : Json.null.sorted = .null := rfl

@[simp] theorem sorted_bool (b : Bool) : (Json.bool b).sorted = .bool b := rfl

@[simp] theorem sorted_number (n : Number) : (Json.number n).sorted = .number n := rfl

@[simp] theorem sorted_string (s : String) : (Json.string s).sorted = .string s := rfl

@[simp] theorem sorted_array (items : List Json) :
    (Json.array items).sorted = .array (sortedItems items) := rfl

@[simp] theorem sorted_object (members : List (String × Json)) :
    (Json.object members).sorted = .object (sortMembers (sortedMembers members)) := rfl

/-! ## String literals -/

section Strings

variable {cs text rest : List Char}

/-- Two digits are enough for the code of a control. -/
theorem reads_scanEscape_control {c : Char} (hc : c.toNat < 0x20) (cs : List Char) :
    Reads scanEscape
      (['u', '0', '0', hexDigit (c.toNat / 16), hexDigit (c.toNat % 16)] ++ cs) c cs := by
  have hdigits : ∀ n < 0x20, hexValue4? '0' '0' (hexDigit (n / 16)) (hexDigit (n % 16)) = some n := by
    decide
  have hsurrogate : isTrailingSurrogate c.toNat = false ∧ isLeadingSurrogate c.toNat = false := by
    simp only [isTrailingSurrogate, isLeadingSurrogate, Bool.and_eq_false_iff,
      decide_eq_false_iff_not]
    omega
  unfold Reads scanEscape scanCode scanHex
  dsimp only [List.cons_append, List.nil_append]
  rw [if_pos rfl, hdigits _ hc]
  dsimp only
  rw [hsurrogate.1, hsurrogate.2, Char.ofNat_toNat]
  exact ⟨_, rfl⟩

/-- One character is read back from its escape, or from itself. -/
theorem reads_escapeChar (c : Char) (h : Reads scanString cs text rest) :
    Reads scanString (escapeChar c ++ cs) (c :: text) rest := by
  unfold escapeChar
  split
  -- seven characters have an escape of one letter, and all others come to the last case
  case h_8 =>
    rename_i hquote hbackslash _ _ _ _ _
    split_ifs with hcontrol
    · exact reads_scanString_escape (reads_scanEscape_control hcontrol cs) h
    · exact reads_scanString_plain hquote hbackslash hcontrol h
  all_goals exact reads_scanString_escape (reads_scanEscape_letter rfl (by decide) cs) h

/-- **A string literal is read back**, and the reader stops at its closing quote. -/
theorem reads_literalBody (text rest : List Char) :
    Reads scanString (text.flatMap escapeChar ++ '"' :: rest) text rest := by
  induction text with
  | nil => exact reads_scanString_quote rest
  | cons c text ih =>
    rw [List.flatMap_cons, List.append_assoc]
    exact reads_escapeChar c ih

end Strings

/-! ## Scalars -/

/-- A text that a reader of values turns into the value, whatever follows it. It does not
begin like white space or the end of an array, so it is also found as an item. -/
def ReadsBack (room : Nat) (text : List Char) (v : Json) : Prop :=
  ∃ c t, text = c :: t ∧ isSpace c = false ∧ c ≠ ']' ∧
    ∀ r, Reads (valueAfter room c) (t ++ r) v r

section Scalars

variable {room : Nat}

/-- A keyword is read back if its first letter leads to its other letters. -/
theorem readsBack_keyword {c : Char} {letters : String} {v : Json} (hspace : isSpace c = false)
    (hc : c ≠ ']') (hvalue : ∀ tail, valueAfter room c tail = keyword letters v tail) :
    ReadsBack room (c :: letters.toList) v := by
  refine ⟨c, letters.toList, rfl, hspace, hc, fun r => ?_⟩
  rw [funext hvalue]
  exact reads_keyword r

theorem readsBack_null : ReadsBack room "null".toList .null :=
  readsBack_keyword rfl (by decide) (valueAfter_n room)

theorem readsBack_true : ReadsBack room "true".toList (.bool true) :=
  readsBack_keyword rfl (by decide) (valueAfter_t room)

theorem readsBack_false : ReadsBack room "false".toList (.bool false) :=
  readsBack_keyword rfl (by decide) (valueAfter_f room)

theorem readsBack_quote (s : String) : ReadsBack room (quote s) (.string s) := by
  refine ⟨'"', _, rfl, rfl, by decide, fun r => ?_⟩
  have hread := reads_of_made (valueAfter_quote room) (reads_literalBody s.toList r)
  rw [String.ofList_toList] at hread
  rw [List.append_assoc, List.singleton_append]
  exact hread

end Scalars

/-! ## Containers -/

section Containers

variable {room : Nat} {text w : List Char} {v : Json}

/-- A value is found behind white space. -/
theorem ReadsBack.reads_atStart (h : ReadsBack room text v) (hw : IsSpaces w) (r : List Char) :
    Reads (atStart id (valueAfter room)) (w ++ (text ++ r)) v r := by
  obtain ⟨c, t, rfl, hspace, -, hread⟩ := h
  exact Grammar.reads_atStart hw hspace (hread r)

theorem ReadsBack.beginsItem (h : ReadsBack room text v) (more : List Char) :
    BeginsItem (text ++ more) := by
  obtain ⟨c, t, rfl, hspace, hc, -⟩ := h
  exact ⟨c, t ++ more, rfl, hspace, hc⟩

theorem isSpaces_newline (depth : Nat) : IsSpaces (newline depth) := by
  intro c hc
  rcases List.mem_cons.mp hc with rfl | hc
  · rfl
  · rw [(List.mem_replicate.mp hc).2]
    rfl

/-! ### Items -/

theorem reads_items_first (h : ReadsBack room text v) (hw : IsSpaces w) {more rest : List Char}
    {vs : List Json} (hmore : Reads (readItems id (atStart id (valueAfter room)) false) more vs rest) :
    Reads (readItems id (atStart id (valueAfter room)) true) (w ++ (text ++ more)) (v :: vs) rest := by
  obtain ⟨hle, hnext⟩ := nextItem_first hw (h.beginsItem more)
  exact reads_items_part hnext (h.reads_atStart isSpaces_nil more) hmore

theorem reads_items_later (h : ReadsBack room text v) (hw : IsSpaces w) {more rest : List Char}
    {vs : List Json} (hmore : Reads (readItems id (atStart id (valueAfter room)) false) more vs rest) :
    Reads (readItems id (atStart id (valueAfter room)) false) (',' :: (w ++ (text ++ more))) (v :: vs)
      rest := by
  obtain ⟨hle, hnext⟩ := nextItem_later isSpaces_nil hw (h.beginsItem more)
  exact reads_items_part hnext (h.reads_atStart isSpaces_nil more) hmore

/-- What is written after an item. -/
def laterItems (depth : Nat) : List Json → List Char
  | [] => []
  | v :: rest => ',' :: prettyItems depth (v :: rest)

theorem prettyItems_cons (depth : Nat) (v : Json) (rest : List Json) :
    prettyItems depth (v :: rest) = newline depth ++ (prettyChars depth v ++ laterItems depth rest) := by
  cases rest with
  | nil => rw [prettyItems, laterItems, List.append_nil]
  | cons u rest => rw [prettyItems.eq_3 _ _ _ (List.cons_ne_nil u rest), laterItems, List.append_assoc]

/-- The items after another one are read back up to the closing bracket. -/
theorem reads_laterItems {depth : Nat} {items : List Json}
    (hitems : ∀ v ∈ items, ReadsBack room (prettyChars depth v) v.sorted) (hw : IsSpaces w)
    (r : List Char) :
    Reads (readItems id (atStart id (valueAfter room)) false)
      (laterItems depth items ++ (w ++ ']' :: r)) (sortedItems items) r := by
  induction items with
  | nil =>
    obtain ⟨hlt, hclosed⟩ := nextItem_closed hw false r
    exact reads_items_closed hclosed
  | cons v rest ih =>
    -- a comma and a new line, the item, and by induction all that follows it
    rw [laterItems, prettyItems_cons, List.cons_append, List.append_assoc, List.append_assoc]
    exact reads_items_later (hitems v List.mem_cons_self) (isSpaces_newline depth)
      (ih fun u hu => hitems u (List.mem_cons_of_mem v hu))

/-- **An array is read back** if its items are. -/
theorem readsBack_array {depth : Nat} {items : List Json}
    (hitems : ∀ v ∈ items, ReadsBack room (prettyChars (depth + 1) v) v.sorted) :
    ReadsBack (room + 1) (prettyChars depth (.array items)) (Json.array items).sorted := by
  rw [sorted_array]
  cases items with
  | nil =>
    refine ⟨'[', [']'], by rw [prettyChars], rfl, by decide, fun r => ?_⟩
    obtain ⟨hlt, hclosed⟩ := nextItem_closed isSpaces_nil true r
    exact reads_of_made (valueAfter_bracket room) (reads_items_closed hclosed)
  | cons v rest =>
    refine ⟨'[', _, by rw [prettyChars, prettyItems_cons], rfl, by decide, fun r => ?_⟩
    simp only [List.append_assoc, List.singleton_append]
    refine reads_of_made (valueAfter_bracket room) ?_
    refine reads_items_first (hitems v List.mem_cons_self) (isSpaces_newline (depth + 1)) ?_
    exact reads_laterItems (fun u hu => hitems u (List.mem_cons_of_mem v hu))
      (isSpaces_newline depth) r

/-! ### Members -/

/-- Enters members into members that are in the order of their keys, one after the other. -/
def enterMembers (members entered : List (String × Json)) : List (String × Json) :=
  members.foldl (fun sorted m => insertMember m.1 m.2 sorted) entered

/-- A key, a colon and a value after a blank. -/
theorem reads_member (h : ReadsBack room text v) (key : String) (entered : List (String × Json))
    (more : List Char) :
    Reads scanString (key.toList.flatMap escapeChar ++ '"' :: ':' :: ' ' :: (text ++ more)) key.toList
        (':' :: ' ' :: (text ++ more)) ∧
      Reads (readMember (atStart id (valueAfter room)) entered key.toList)
        (':' :: ' ' :: (text ++ more)) (insertMember key v entered) more := by
  refine ⟨reads_literalBody key.toList _, ?_⟩
  have hblank : IsSpaces [' '] := fun c hc => by rw [List.mem_singleton.mp hc]; rfl
  have hcolon : ∃ h, scanColon (':' :: ' ' :: (text ++ more)) = .ok ⟨' ' :: (text ++ more), h⟩ :=
    scanColon_append isSpaces_nil _
  have hvalue : Reads (atStart id (valueAfter room)) (' ' :: (text ++ more)) v more :=
    h.reads_atStart hblank more
  obtain ⟨hlt, hcolon⟩ := hcolon
  obtain ⟨hlt', hread⟩ := hvalue
  unfold Reads readMember
  rw [hcolon]
  dsimp only
  rw [hread]
  dsimp only
  rw [String.ofList_toList]
  exact ⟨Nat.lt_trans hlt' hlt, rfl⟩

/-- What is written after a member. -/
def laterMembers (depth : Nat) : List (String × Json) → List Char
  | [] => []
  | m :: rest => ',' :: prettyMembers depth (m :: rest)

theorem prettyMembers_cons (depth : Nat) (m : String × Json) (rest : List (String × Json)) :
    prettyMembers depth (m :: rest) = newline depth ++ '"' :: (m.1.toList.flatMap escapeChar ++
      '"' :: ':' :: ' ' :: (prettyChars depth m.2 ++ laterMembers depth rest)) := by
  cases rest with
  | nil => simp [prettyMembers, laterMembers, quote]
  | cons u rest => simp [prettyMembers, laterMembers, quote]

/-- The members after another one are read back up to the closing brace. -/
theorem reads_laterMembers {depth : Nat} {members : List (String × Json)}
    (hmembers : ∀ m ∈ members, ReadsBack room (prettyChars depth m.2) m.2.sorted) (hw : IsSpaces w)
    (entered : List (String × Json)) (r : List Char) :
    Reads (readMembers id (readMember (atStart id (valueAfter room))) false entered)
      (laterMembers depth members ++ (w ++ '}' :: r)) (enterMembers (sortedMembers members) entered)
      r := by
  induction members generalizing entered with
  | nil =>
    obtain ⟨hlt, hclosed⟩ := nextMember_closed hw false r
    exact reads_members_closed hclosed
  | cons m rest ih =>
    -- the member is entered before the later ones are read, so the induction is on any members
    -- that were entered so far
    have hm := reads_member (hmembers m List.mem_cons_self) m.1 entered
      (laterMembers depth rest ++ (w ++ '}' :: r))
    rw [laterMembers, prettyMembers_cons]
    simp only [List.cons_append, List.append_assoc]
    obtain ⟨hle, hnext⟩ := nextMember_later isSpaces_nil (isSpaces_newline depth)
      (m.1.toList.flatMap escapeChar ++ '"' :: ':' :: ' ' :: (prettyChars depth m.2 ++
        (laterMembers depth rest ++ (w ++ '}' :: r))))
    exact reads_members_part hnext hm.1 hm.2
      (ih (fun u hu => hmembers u (List.mem_cons_of_mem m hu)) _)

/-- **An object is read back** if its values are, with its members in order. -/
theorem readsBack_object {depth : Nat} {members : List (String × Json)}
    (hmembers : ∀ m ∈ members, ReadsBack room (prettyChars (depth + 1) m.2) m.2.sorted) :
    ReadsBack (room + 1) (prettyChars depth (.object members)) (Json.object members).sorted := by
  rw [sorted_object]
  cases members with
  | nil =>
    refine ⟨'{', ['}'], by rw [prettyChars], rfl, by decide, fun r => ?_⟩
    obtain ⟨hlt, hclosed⟩ := nextMember_closed isSpaces_nil true r
    exact reads_of_made (valueAfter_brace room) (reads_members_closed hclosed)
  | cons m rest =>
    refine ⟨'{', _, by rw [prettyChars, prettyMembers_cons], rfl, by decide, fun r => ?_⟩
    simp only [List.append_assoc, List.cons_append, List.nil_append]
    have hm := reads_member (hmembers m List.mem_cons_self) m.1 []
      (laterMembers (depth + 1) rest ++ (newline depth ++ '}' :: r))
    obtain ⟨hle, hnext⟩ := nextMember_first (isSpaces_newline (depth + 1))
      (m.1.toList.flatMap escapeChar ++ '"' :: ':' :: ' ' :: (prettyChars (depth + 1) m.2 ++
        (laterMembers (depth + 1) rest ++ (newline depth ++ '}' :: r))))
    refine reads_of_made (valueAfter_brace room) (reads_members_part hnext hm.1 hm.2 ?_)
    exact reads_laterMembers (fun u hu => hmembers u (List.mem_cons_of_mem m hu))
      (isSpaces_newline depth) _ r

end Containers

/-! ## Values and texts -/

/-- **The text of a plain value is read back as the value**, at any depth of indentation. -/
theorem Plain.readsBack {room : Nat} {v : Json} (h : Plain room v) (depth : Nat) :
    ReadsBack room (prettyChars depth v) v.sorted := by
  induction h generalizing depth with
  | null => exact readsBack_null
  | bool b =>
    cases b with
    | false => exact readsBack_false
    | true => exact readsBack_true
  | string s => exact readsBack_quote s
  | array _ ih => exact readsBack_array fun v hv => ih v hv (depth + 1)
  | object _ _ ih => exact readsBack_object fun m hm => ih m hm (depth + 1)

/-- **A plain value that is written over several lines parses**, with white space after it,
and only the order of members may change. -/
theorem parse_pretty {v : Json} (h : Plain maxDepth v) {w : List Char} (hw : IsSpaces w) :
    parse (v.pretty ++ String.ofList w) = .ok v.sorted := by
  have hvalue : Reads readValue (prettyChars 0 v ++ w) v.sorted w :=
    (h.readsBack 0).reads_atStart isSpaces_nil w
  obtain ⟨hlt, hread⟩ := hvalue
  -- the reader stops where the value ends, and only white space is left
  have hend : skipSpace w = [] := List.dropWhile_eq_nil_iff.mpr hw
  rw [parse, pretty, String.toList_append, String.toList_ofList, String.toList_ofList, parseChars,
    hread]
  dsimp only
  rw [hend]
  rfl

end Draftsman.Json
