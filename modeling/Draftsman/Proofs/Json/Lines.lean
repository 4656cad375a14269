/-
Where the lines of a written value end.

A value that is written over several lines has each item and member on a line of its own. So a
literal ends its line, a comma apart, unless it is a key or an item before another kind of
value. In a value whose keys hold no backquote and whose arrays of strings hold nothing else
(`Tidy`), every literal with a backquote ends its line, and what begins the next line is a
quote or a closing bracket (`Lined`).
-/
import Draftsman.Proofs.Json.RoundTrip

set_option autoImplicit false

namespace Draftsman.Json

open Draftsman.Json.Grammar

/-! ## Literals -/

theorem literalChar_escapeChar (c : Char) : LiteralChar (escapeChar c) := by
  have hdigits : ∀ n < 0x20,
      ['0', '0', hexDigit (n / 16), hexDigit (n % 16)].all isHexDigit = true := by decide
  unfold escapeChar
  split
  case h_8 =>
    rename_i hquote hbackslash _ _ _ _ _
    split_ifs with hcontrol
    · exact .code (List.all_eq_true.mp (hdigits _ hcontrol))
    · exact .plain hquote hbackslash (Nat.le_of_not_lt hcontrol)
  all_goals exact .escape (by decide)

/-- What is written between quotes is the body of a literal. -/
theorem literalBody_escape (text : List Char) : LiteralBody (text.flatMap escapeChar) := by
  induction text with
  | nil => exact .nil
  | cons c text ih => exact .cons (literalChar_escapeChar c) ih

/-! ## Texts in lines -/

/-- The line ends here, a comma apart, and the next one begins with a quote or a closing
bracket. -/
def EndsLine (cs : List Char) : Prop :=
  ∃ comma w c rest, (comma = [] ∨ comma = [',']) ∧ IsSpaces w ∧ c ∈ ['"', '}', ']'] ∧
    cs = comma ++ '\n' :: (w ++ c :: rest)

/-- All backquotes stand in literals that end their lines. -/
inductive Lined : List Char → Prop
  | nil : Lined []
  | other {c : Char} {cs : List Char} (hc : c ≠ '`') : Lined cs → Lined (c :: cs)
  | literal {body cs : List Char} (hbody : LiteralBody body) (hend : EndsLine cs) :
      Lined cs → Lined ('"' :: (body ++ '"' :: cs))

theorem Lined.append {a b : List Char} (ha : '`' ∉ a) (hb : Lined b) : Lined (a ++ b) := by
  induction a with
  | nil => exact hb
  | cons c a ih =>
    rw [List.mem_cons, not_or] at ha
    exact .other (Ne.symm ha.1) (ih ha.2)

theorem backquote_not_mem_newline (depth : Nat) : '`' ∉ newline depth := by
  simp [newline, List.mem_replicate]

/-- A new line ends the one before it. -/
theorem endsLine_newline {comma : List Char} {c : Char} (hcomma : comma = [] ∨ comma = [','])
    (hc : c ∈ ['"', '}', ']']) (depth : Nat) (rest : List Char) :
    EndsLine (comma ++ (newline depth ++ c :: rest)) := by
  refine ⟨comma, List.replicate (2 * depth) ' ', c, rest, hcomma, ?_, hc, rfl⟩
  intro d hd
  rw [(List.mem_replicate.mp hd).2]
  rfl

/-! ## Tidy values -/

/-- A value without numbers, with no backquotes in its keys, in whose arrays strings and other
values are not mixed. -/
inductive Tidy : Json → Prop
  | null : Tidy .null
  | bool (b : Bool) : Tidy (.bool b)
  | string (s : String) : Tidy (.string s)
  | array {items : List Json} (hitems : ∀ v ∈ items, Tidy v)
      (hstrings : ∀ s, .string s ∈ items → ∀ v ∈ items, ∃ t, v = .string t) : Tidy (.array items)
  | object {members : List (String × Json)} (hkeys : ∀ m ∈ members, '`' ∉ quote m.1)
      (hmembers : ∀ m ∈ members, Tidy m.2) : Tidy (.object members)

/-- The text of the value is in lines if what follows it is. A string must end its line. -/
def IsLined (depth : Nat) (v : Json) : Prop :=
  ∀ rest, (∀ s, v = .string s → EndsLine rest) → Lined rest → Lined (prettyChars depth v ++ rest)

section Containers

variable {depth : Nat}

/-- Behind a string stands another one, or the end of the array. -/
theorem endsLine_laterItems {items : List Json} (hitems : ∀ v ∈ items, ∃ s, v = .string s)
    (d : Nat) (rest : List Char) :
    EndsLine (laterItems depth items ++ (newline d ++ ']' :: rest)) := by
  cases items with
  | nil => exact endsLine_newline (.inl rfl) (by decide) d rest
  | cons v items =>
    obtain ⟨s, rfl⟩ := hitems v List.mem_cons_self
    have hline := endsLine_newline (c := '"') (.inr rfl) (by decide) depth
      (s.toList.flatMap escapeChar ++ '"' :: (laterItems depth items ++ (newline d ++ ']' :: rest)))
    rw [laterItems, prettyItems_cons]
    simpa only [prettyChars, scalar, quote, List.cons_append, List.nil_append, List.append_assoc]
      using hline

theorem lined_prettyItems {items : List Json} (hitems : ∀ v ∈ items, IsLined depth v)
    (hstrings : ∀ s, .string s ∈ items → ∀ v ∈ items, ∃ t, v = .string t) (d : Nat)
    {rest : List Char} (hrest : Lined rest) :
    Lined (prettyItems depth items ++ (newline d ++ ']' :: rest)) := by
  induction items with
  | nil =>
    rw [prettyItems, List.nil_append]
    exact .append (backquote_not_mem_newline d) (.other (by decide) hrest)
  | cons v items ih =>
    -- what is behind the first item has a comma before it, or is the closing bracket
    have hlater : Lined (laterItems depth items ++ (newline d ++ ']' :: rest)) := by
      have hitems' := ih (fun u hu => hitems u (List.mem_cons_of_mem v hu)) fun s hs u hu =>
        hstrings s (List.mem_cons_of_mem v hs) u (List.mem_cons_of_mem v hu)
      cases items with
      | nil => exact hitems'
      | cons u items => exact .other (by decide) hitems'
    rw [prettyItems_cons, List.append_assoc, List.append_assoc]
    refine .append (backquote_not_mem_newline depth) (hitems v List.mem_cons_self _ ?_ hlater)
    rintro s rfl
    have hall := hstrings s List.mem_cons_self
    exact endsLine_laterItems (fun u hu => hall u (List.mem_cons_of_mem _ hu)) d rest

/-- Behind a value stands the key of another member, or the end of the object. -/
theorem endsLine_laterMembers (members : List (String × Json)) (d : Nat) (rest : List Char) :
    EndsLine (laterMembers depth members ++ (newline d ++ '}' :: rest)) := by
  cases members with
  | nil => exact endsLine_newline (.inl rfl) (by decide) d rest
  | cons m members =>
    have hline := endsLine_newline (c := '"') (.inr rfl) (by decide) depth
      (m.1.toList.flatMap escapeChar ++ '"' :: ':' :: ' ' :: (prettyChars depth m.2 ++
        (laterMembers depth members ++ (newline d ++ '}' :: rest))))
    rw [laterMembers, prettyMembers_cons]
    simpa only [List.cons_append, List.nil_append, List.append_assoc] using hline

theorem lined_prettyMembers {members : List (String × Json)}
    (hkeys : ∀ m ∈ members, '`' ∉ quote m.1) (hmembers : ∀ m ∈ members, IsLined depth m.2)
    (d : Nat) {rest : List Char} (hrest : Lined rest) :
    Lined (prettyMembers depth members ++ (newline d ++ '}' :: rest)) := by
  induction members with
  | nil =>
    rw [prettyMembers, List.nil_append]
    exact .append (backquote_not_mem_newline d) (.other (by decide) hrest)
  | cons m members ih =>
    have hlater : Lined (laterMembers depth members ++ (newline d ++ '}' :: rest)) := by
      have hmembers' := ih (fun u hu => hkeys u (List.mem_cons_of_mem m hu))
        fun u hu => hmembers u (List.mem_cons_of_mem m hu)
      cases members with
      | nil => exact hmembers'
      | cons u members => exact .other (by decide) hmembers'
    have hvalue := hmembers m List.mem_cons_self _ (fun _ _ => endsLine_laterMembers members d rest)
      hlater
    have hmember := Lined.append (backquote_not_mem_newline depth)
      (Lined.append (hkeys m List.mem_cons_self) (.append (a := [':', ' ']) (by decide) hvalue))
    simpa [prettyMembers_cons, quote] using hmember

end Containers

/-- **A tidy value is written in lines**, at any depth of indentation. -/
theorem Tidy.isLined {v : Json} (h : Tidy v) (depth : Nat) : IsLined depth v := by
  intro rest hend hrest
  -- parts are written deeper, and before what follows them in their container
  induction h generalizing depth rest with
  | null => exact .append (a := "null".toList) (by decide) hrest
  | bool b =>
    cases b with
    | false => exact .append (a := "false".toList) (by decide) hrest
    | true => exact .append (a := "true".toList) (by decide) hrest
  | string s =>
    have hliteral := Lined.literal (literalBody_escape s.toList) (hend s rfl) hrest
    simpa [prettyChars, scalar, quote] using hliteral
  | @array items _ hstrings ih =>
    cases items with
    | nil => exact .append (a := ['[', ']']) (by decide) hrest
    | cons v items =>
      have hitems := lined_prettyItems (fun u hu r => ih u hu (depth + 1) r) hstrings depth hrest
      have hopen : Lined ('[' :: _) := .other (by decide) hitems
      simpa [prettyChars] using hopen
  | @object members hkeys _ ih =>
    cases members with
    | nil => exact .append (a := ['{', '}']) (by decide) hrest
    | cons m members =>
      have hmembers :=
        lined_prettyMembers hkeys (fun u hu r => ih u hu (depth + 1) r) depth hrest
      have hopen : Lined ('{' :: _) := .other (by decide) hmembers
      simpa [prettyChars] using hopen

theorem Tidy.lined_pretty {v : Json} (h : Tidy v) (hv : ∀ s, v ≠ .string s) :
    Lined v.pretty.toList := by
  have hlined := h.isLined 0 [] (fun s hs => absurd hs (hv s)) .nil
  rw [List.append_nil] at hlined
  rw [pretty, String.toList_ofList]
  exact hlined

end Draftsman.Json
