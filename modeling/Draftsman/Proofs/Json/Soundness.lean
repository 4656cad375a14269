/-
What the parser reads is a text of the grammar.

The reader of a value calls itself for the parts of a container, with one container less
to spare. It takes values if the reader that it calls does (`soundAfter_of_pred`), so it
always does (`takes_valueAfter`). A text that parses is then a piece that parses by itself
with white space around it (`exists_piece_of_parseChars`).
-/
import Draftsman.Proofs.Json.Containers

set_option autoImplicit false

namespace Draftsman.Json.Grammar

/-! ## Values -/

/-- What is left of a value without its first character; of an object, if it is read as
one. -/
structure Begun (c : Char) (v : Json) (t : List Char) : Prop where
  value : Derives .value (c :: t)
  object : v.isObject = true → Derives .object (c :: t)

/-- A reader of values by their first character that takes values. -/
def SoundAfter (read : Char → (tail : List Char) → Except SyntaxError (Json × NoLonger tail)) :
    Prop :=
  ∀ c tail v rest, read c tail = .ok (v, rest) → Taken (read c) (Begun c v) tail v rest.1

section Start

variable {read : Char → (tail : List Char) → Except SyntaxError (Json × NoLonger tail)}

/-- A value is read from its first character on, and white space before it is passed. -/
theorem eq_of_atStart {cs : List Char} {v : Json} {rest : Shorter cs}
    (h : atStart id read cs = .ok (v, rest)) :
    ∃ w c tail, IsSpaces w ∧ cs = w ++ c :: tail ∧ isSpace c = false ∧
      Reads (read c) tail v rest.1 := by
  unfold atStart at h
  split at h
  · exact absurd h (by simp)
  · rename_i c tail hskip
    obtain ⟨w, hw, hcs, hspace⟩ := exists_of_skipSpace hskip
    split at h
    · exact absurd h (by simp)
    · rename_i value last hvalue
      obtain ⟨hv, hrest⟩ := ok_inj h
      have hlast : rest.1 = last.1 := congrArg Subtype.val hrest.symm
      rw [← hv, hlast]
      exact ⟨w, c, tail, hw, hcs, hspace, last.2, hvalue⟩

theorem reads_atStart {w tail rest : List Char} {c : Char} {v : Json} (hw : IsSpaces w)
    (hspace : isSpace c = false) (h : Reads (read c) tail v rest) :
    Reads (atStart id read) (w ++ c :: tail) v rest := by
  obtain ⟨hle, hread⟩ := h
  have hskip : skipSpace (w ++ c :: tail) = c :: tail := skipSpace_append hw hspace
  have hlt : rest.length < (w ++ c :: tail).length := by
    simp only [List.length_append, List.length_cons] at hle ⊢
    omega
  unfold atStart
  refine ⟨hlt, (match_skipSpace hskip _ _).trans ?_⟩
  rw [hread]
  rfl

theorem SoundAfter.soundReader (hread : SoundAfter read) : SoundReader (atStart id read) := by
  intro cs v rest h
  obtain ⟨w, c, tail, hw, hcs, hspace, hle, hvalue⟩ := eq_of_atStart h
  obtain ⟨t, ht, htail, hreads⟩ := hread _ _ _ _ hvalue
  refine ⟨w ++ c :: t, ⟨w, c :: t, hw, rfl, ht.value, ht.object⟩, ?_, fun r hr => ?_⟩
  · rw [List.append_assoc, List.cons_append, ← htail]
    exact hcs
  · rw [List.append_assoc, List.cons_append]
    exact reads_atStart hw hspace (hreads r hr)

end Start

/-- A value that is no object. -/
theorem begun_of_value {c : Char} {v : Json} {t : List Char} (h : Derives .value (c :: t))
    (hv : v.isObject = false) : Begun c v t :=
  ⟨h, fun hobject => absurd (hv.symm.trans hobject) Bool.false_ne_true⟩

theorem reads_keyword {letters : String} {v : Json} (r : List Char) :
    Reads (keyword letters v) (letters.toList ++ r) v r := by
  obtain ⟨hle, hread⟩ := scanKeyword_append letters.toList r
  unfold Reads keyword
  rw [hread]
  exact ⟨hle, rfl⟩

theorem taken_of_keyword {c : Char} {letters : String} {value v : Json} {tail : List Char}
    {rest : NoLonger tail} (hletters : Derives .value (c :: letters.toList))
    (hvalue : value.isObject = false) (h : keyword letters value tail = .ok (v, rest)) :
    Taken (keyword letters value) (Begun c v) tail v rest.1 := by
  unfold keyword at h
  split at h
  · exact absurd h (by simp)
  · rename_i rest' hkeyword
    obtain ⟨hv, hrest⟩ := ok_inj h
    rw [← hv, ← hrest]
    exact ⟨letters.toList, begun_of_value hletters hvalue, eq_append_of_scanKeyword hkeyword,
      fun r _ => reads_keyword r⟩

/-! ### What the first character begins -/

/-- A value made of what another reader reads. -/
def made {α : Type} {tail : List Char} (make : α → Json)
    (read : Except SyntaxError (α × Shorter tail)) : Except SyntaxError (Json × NoLonger tail) :=
  read.map fun result => (make result.1, result.2.relax)

section Equations

variable (room : Nat) (tail : List Char)

theorem valueAfter_n : valueAfter room 'n' tail = keyword "ull" .null tail := by
  rw [valueAfter.eq_def]
  rfl

theorem valueAfter_t : valueAfter room 't' tail = keyword "rue" (.bool true) tail := by
  rw [valueAfter.eq_def]
  rfl

theorem valueAfter_f : valueAfter room 'f' tail = keyword "alse" (.bool false) tail := by
  rw [valueAfter.eq_def]
  rfl

theorem valueAfter_minus : valueAfter room '-' tail = made .number (scanNumber true tail) := by
  rw [valueAfter.eq_def]
  simp only [Char.reduceEq, if_false, if_true]
  rcases scanNumber true tail with _ | ⟨_, _, _⟩
  · rfl
  · rfl

/-- A digit begins no other value, and belongs to the number. -/
theorem valueAfter_digit {c : Char} (hc : c.isDigit = true) :
    valueAfter room c tail = match scanNumber false (c :: tail) with
      | .error e => .error e
      | .ok (n, rest) => .ok (.number n, rest.uncons) := by
  have hne : ∀ d : Char, d.isDigit = false → c ≠ d := by
    rintro d hd rfl
    exact absurd (hc.symm.trans hd) (by decide)
  have heq := valueAfter.eq_def room c tail
  rw [if_neg (hne 'n' rfl), if_neg (hne 't' rfl), if_neg (hne 'f' rfl), if_neg (hne '-' rfl),
    if_pos hc] at heq
  rw [heq]
  rcases scanNumber false (c :: tail) with _ | ⟨_, _, _⟩
  · rfl
  · rfl

theorem valueAfter_quote :
    valueAfter room '"' tail = made (fun text => .string (String.ofList text)) (scanString tail) := by
  rw [valueAfter.eq_def]
  simp only [Char.reduceEq, Char.reduceIsDigit, if_false, if_true, Bool.false_eq_true]
  rcases scanString tail with _ | ⟨_, _, _⟩
  · rfl
  · rfl

theorem valueAfter_bracket :
    valueAfter (room + 1) '[' tail =
      made .array (readItems id (atStart id (valueAfter room)) true tail) := by
  rw [valueAfter.eq_def]
  simp only [Char.reduceEq, Char.reduceIsDigit, if_false, if_true, Bool.false_eq_true]
  rcases readItems id (atStart id (valueAfter room)) true tail with _ | ⟨_, _, _⟩
  · rfl
  · rfl

theorem valueAfter_brace :
    valueAfter (room + 1) '{' tail =
      made .object (readMembers id (readMember (atStart id (valueAfter room))) true [] tail) := by
  rw [valueAfter.eq_def]
  simp only [Char.reduceEq, Char.reduceIsDigit, if_false, if_true, Bool.false_eq_true]
  rcases readMembers id (readMember (atStart id (valueAfter room))) true [] tail with _ | ⟨_, _, _⟩
  · rfl
  · rfl

end Equations

section Made

variable {α : Type} {scan : (cs : List Char) → Step SyntaxError α cs}
  {read : (tail : List Char) → Except SyntaxError (Json × NoLonger tail)} {make : α → Json}
  (hread : ∀ tail, read tail = made make (scan tail)) {tail : List Char}
include hread

/-- What the other reader reads and leaves tells what is made of it. -/
theorem reads_of_made {a : α} {rest : List Char} (h : Reads scan tail a rest) :
    Reads read tail (make a) rest := by
  obtain ⟨hlt, ha⟩ := h
  refine ⟨Nat.le_of_lt hlt, ?_⟩
  rw [hread, ha]
  rfl

/-- What the other reader takes is taken. -/
theorem taken_of_made {P : List Char → Prop} {Q : Json → List Char → Prop} {v : Json}
    {rest : NoLonger tail}
    (hscan : ∀ {a} {more : Shorter tail}, scan tail = .ok (a, more) → Taken scan P tail a more.1)
    (hmake : ∀ a t, P t → Q (make a) t) (h : read tail = .ok (v, rest)) :
    Taken read (Q v) tail v rest.1 := by
  rw [hread] at h
  cases ha : scan tail with
  | error e =>
    rw [ha] at h
    exact absurd h (by simp [made, Except.map])
  | ok result =>
    obtain ⟨a, more⟩ := result
    obtain ⟨t, ht, htail, hreads⟩ := hscan ha
    rw [ha] at h
    obtain ⟨rfl, rfl⟩ := ok_inj h
    exact ⟨t, hmake a t ht, htail, fun r hr => reads_of_made hread (hreads r hr)⟩

end Made

section Branches

variable {room : Nat} {c : Char} {tail : List Char} {v : Json} {rest : NoLonger tail}

theorem taken_of_minus (h : valueAfter room '-' tail = .ok (v, rest)) :
    Taken (valueAfter room '-') (Begun '-' v) tail v rest.1 := by
  refine taken_of_made (valueAfter_minus room) taken_of_scanNumber ?_ h
  intro n t ht
  exact begun_of_value (.number (numberText_of_unsigned (.inr rfl) ht)) rfl

theorem taken_of_digit (hc : c.isDigit = true) (h : valueAfter room c tail = .ok (v, rest)) :
    Taken (valueAfter room c) (Begun c v) tail v rest.1 := by
  rw [valueAfter_digit room tail hc] at h
  split at h
  · exact absurd h (by simp)
  · rename_i n last hn
    obtain ⟨t, ht, htail, hreads⟩ := taken_of_scanNumber hn
    obtain ⟨hv, hrest⟩ := ok_inj h
    have hlast : rest.1 = last.1 := congrArg Subtype.val hrest.symm
    rw [← hv, hlast]
    cases t with
    | nil =>
      have hsame : last.1.length = (c :: tail).length := congrArg List.length htail.symm
      exact absurd hsame (Nat.ne_of_lt last.2)
    | cons d t =>
      obtain ⟨rfl, hmore⟩ := List.cons.inj htail
      have hnumber : NumberText (c :: t) := numberText_of_unsigned (.inl rfl) ht
      refine ⟨t, begun_of_value (.number hnumber) rfl, hmore, fun r hr => ?_⟩
      obtain ⟨hlt', hread⟩ := hreads r hr
      have hread : scanNumber false (c :: (t ++ r)) = .ok (n, ⟨r, hlt'⟩) := hread
      refine ⟨Nat.le_of_lt_succ hlt', ?_⟩
      rw [valueAfter_digit room _ hc, hread]
      rfl

theorem taken_of_quote (h : valueAfter room '"' tail = .ok (v, rest)) :
    Taken (valueAfter room '"') (Begun '"' v) tail v rest.1 := by
  refine taken_of_made (valueAfter_quote room) taken_of_scanString ?_ h
  intro text t ht
  exact begun_of_value (.string ht) rfl

theorem taken_of_bracket (hread : SoundAfter (valueAfter room))
    (h : valueAfter (room + 1) '[' tail = .ok (v, rest)) :
    Taken (valueAfter (room + 1) '[') (Begun '[' v) tail v rest.1 := by
  refine taken_of_made (valueAfter_bracket room) (taken_of_readItems hread.soundReader) ?_ h
  intro items t ht
  exact begun_of_value ht rfl

theorem taken_of_brace (hread : SoundAfter (valueAfter room))
    (h : valueAfter (room + 1) '{' tail = .ok (v, rest)) :
    Taken (valueAfter (room + 1) '{') (Begun '{' v) tail v rest.1 := by
  refine taken_of_made (valueAfter_brace room) (taken_of_readMembers hread.soundReader) ?_ h
  intro members t ht
  exact ⟨.ofObject ht, fun _ => ht⟩

end Branches

/-- A reader of values takes them if the reader with one container less to spare does. -/
theorem soundAfter_of_pred {room : Nat}
    (hroom : ∀ room', room = room' + 1 → SoundAfter (valueAfter room')) :
    SoundAfter (valueAfter room) := by
  intro c tail v rest h
  by_cases hn : c = 'n'
  · subst hn
    rw [funext (valueAfter_n room)] at h ⊢
    exact taken_of_keyword .null rfl h
  by_cases ht : c = 't'
  · subst ht
    rw [funext (valueAfter_t room)] at h ⊢
    exact taken_of_keyword .true rfl h
  by_cases hf : c = 'f'
  · subst hf
    rw [funext (valueAfter_f room)] at h ⊢
    exact taken_of_keyword .false rfl h
  by_cases hminus : c = '-'
  · subst hminus
    exact taken_of_minus h
  by_cases hdigit : c.isDigit = true
  · exact taken_of_digit hdigit h
  by_cases hquote : c = '"'
  · subst hquote
    exact taken_of_quote h
  -- what is left but containers is an error, and so is a container without room
  by_cases hbracket : c = '['
  · subst hbracket
    cases room with
    | zero => exact absurd h (by rw [valueAfter.eq_def]; nofun)
    | succ room => exact taken_of_bracket (hroom room rfl) h
  by_cases hbrace : c = '{'
  · subst hbrace
    cases room with
    | zero => exact absurd h (by rw [valueAfter.eq_def]; nofun)
    | succ room => exact taken_of_brace (hroom room rfl) h
  · rw [valueAfter.eq_def, if_neg hn, if_neg ht, if_neg hf, if_neg hminus, if_neg hdigit,
      if_neg hquote, if_neg hbracket, if_neg hbrace] at h
    exact absurd h (by simp)

/-- **Values are taken**, whatever depth is left for them. -/
theorem takes_valueAfter (room : Nat) : SoundAfter (valueAfter room) := by
  induction room with
  | zero =>
    -- without room no container is read, so no other reader is asked
    exact soundAfter_of_pred fun room' h => absurd h (by omega)
  | succ room ih =>
    refine soundAfter_of_pred fun room' h => ?_
    rw [← Nat.succ.inj h]
    exact ih

/-! ## Texts -/

/-- **Every text that parses is a value of the grammar with white space around it**, and
the value parses alike without the white space. -/
theorem exists_piece_of_parseChars {cs : List Char} {v : Json} (h : parseChars cs = .ok v) :
    ∃ w t w', IsSpaces w ∧ IsSpaces w' ∧ cs = w ++ (t ++ w') ∧ Derives .value t ∧
      (v.isObject = true → Derives .object t) ∧ parseChars t = .ok v := by
  unfold parseChars at h
  split at h
  · exact absurd h (by simp)
  · rename_i value rest hlt hvalue
    obtain ⟨w, c, tail, hw, hcs, hspace, hle, hread⟩ := eq_of_atStart hvalue
    obtain ⟨t, ht, htail, hreads⟩ := takes_valueAfter maxDepth _ _ _ _ hread
    split at h
    · rename_i hrest
      rw [← Except.ok.inj h]
      have hrest : IsSpaces rest := isSpaces_of_skipSpace_eq_nil (List.isEmpty_iff.mp hrest)
      refine ⟨w, c :: t, rest, hw, hrest, ?_, ht.value, ht.object, ?_⟩
      · rw [List.cons_append, ← htail]
        exact hcs
      · -- the piece alone is read to its end
        have halone := reads_atStart isSpaces_nil hspace (hreads [] List.nil_prefix)
        rw [List.append_nil, List.nil_append] at halone
        obtain ⟨hlt', halone⟩ := halone
        unfold parseChars readValue
        rw [halone]
        rfl
    · exact absurd h (by simp)

theorem isText_of_parseChars {cs : List Char} {v : Json} (h : parseChars cs = .ok v) :
    IsText cs := by
  obtain ⟨w, t, w', hw, hw', rfl, ht, -⟩ := exists_piece_of_parseChars h
  exact .element hw ht hw'

end Draftsman.Json.Grammar
