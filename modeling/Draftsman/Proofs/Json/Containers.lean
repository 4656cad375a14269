/-
What the loops over containers take off a text.

The loops are read for any reader of values that takes values. What they take is the list
of items or members without its opening bracket, and with its closing one. A part that
follows another needs the comma before it, so the two cases differ, and the white space
after a part belongs to it although it is only passed with the comma or bracket that
follows.
-/
import Draftsman.Json.Parser
import Draftsman.Proofs.Json.Scanning

set_option autoImplicit false

namespace Draftsman.Json.Grammar

/-! ## What stands between the parts of a container -/

theorem exists_of_skipSpace {cs tail : List Char} {c : Char} (h : skipSpace cs = c :: tail) :
    ∃ w, IsSpaces w ∧ cs = w ++ c :: tail ∧ isSpace c = false := by
  obtain ⟨w, hw, hcs⟩ := exists_eq_append_skipSpace cs
  refine ⟨w, hw, hcs.trans (congrArg (w ++ ·) h), ?_⟩
  have hhead := List.head?_dropWhile_not isSpace cs
  rw [show cs.dropWhile isSpace = c :: tail from h, List.head?_cons] at hhead
  simpa using hhead

theorem skipSpace_append {w tail : List Char} {c : Char} (hw : IsSpaces w)
    (hc : isSpace c = false) : skipSpace (w ++ c :: tail) = c :: tail := by
  rw [skipSpace, List.dropWhile_append_of_pos hw,
    List.dropWhile_cons_of_neg (by rw [hc]; exact Bool.false_ne_true)]

/-- A reader that looks behind white space goes by the character that it finds there. -/
theorem match_skipSpace {β : Type} {cs tail : List Char} {c : Char} (h : skipSpace cs = c :: tail)
    (atEnd : skipSpace cs = [] → β)
    (found : (c : Char) → (tail : List Char) → skipSpace cs = c :: tail → β) :
    (match h : skipSpace cs with
      | [] => atEnd h
      | c :: tail => found c tail h) = found c tail h := by
  split
  · rename_i hnil
    exact absurd (h.symm.trans hnil) (by simp)
  · rename_i d more hcons
    obtain ⟨rfl, rfl⟩ := List.cons.inj (h.symm.trans hcons)
    rfl

/-! ### In an array -/

/-- The beginning of an item, which is for the reader of items to refuse, unless it closes the
array. -/
def BeginsItem (x : List Char) : Prop := ∃ c tail, x = c :: tail ∧ isSpace c = false ∧ c ≠ ']'

/-- Only the first character of an item counts. -/
theorem BeginsItem.of_head? {x y : List Char} (h : BeginsItem x) (hhead : y.head? = x.head?) :
    BeginsItem y := by
  obtain ⟨c, tail, rfl, hspace, hc⟩ := h
  obtain ⟨tail', rfl⟩ := List.head?_eq_some_iff.mp hhead
  exact ⟨c, tail', rfl, hspace, hc⟩

/-- What can come next in an array: its end, the first item, or an item behind a comma. -/
inductive ItemStep (first : Bool) (cs : List Char) : Next cs → Prop
  | closed {w : List Char} {rest : Shorter cs} (hw : IsSpaces w) (hcs : cs = w ++ ']' :: rest.1) :
      ItemStep first cs (.closed rest)
  | first {w : List Char} {start : NoLonger cs} (hfirst : first = true) (hw : IsSpaces w)
      (hcs : cs = w ++ start.1) (hitem : BeginsItem start.1) : ItemStep first cs (.part start)
  | later {w w' : List Char} {start : NoLonger cs} (hfirst : first = false) (hw : IsSpaces w)
      (hw' : IsSpaces w') (hcs : cs = w ++ ',' :: (w' ++ start.1)) (hitem : BeginsItem start.1) :
      ItemStep first cs (.part start)

theorem itemStep_of_nextItem {first : Bool} {cs : List Char} {next : Next cs}
    (h : nextItem first cs = .ok next) : ItemStep first cs next := by
  unfold nextItem at h
  split at h
  · exact absurd h (by simp)
  · rename_i c tail hskip
    obtain ⟨w, hw, hcs, hspace⟩ := exists_of_skipSpace hskip
    dsimp only at h
    split_ifs at h with hclose hfirst hcomma
    · rw [← Except.ok.inj h]
      exact .closed hw (hclose ▸ hcs)
    · rw [← Except.ok.inj h]
      exact .first hfirst hw hcs ⟨c, tail, rfl, hspace, hclose⟩
    · split at h
      · exact absurd h (by simp)
      · rename_i d more hskip'
        obtain ⟨w', hw', htail, hspace'⟩ := exists_of_skipSpace hskip'
        split_ifs at h with hclose'
        rw [← Except.ok.inj h]
        subst hcomma
        exact .later (Bool.eq_false_iff.mpr hfirst) hw hw'
          (hcs.trans (congrArg (w ++ ',' :: ·) htail)) ⟨d, more, rfl, hspace', hclose'⟩

/-- The next item is not reached if the array ends. -/
theorem nextItem_closed {w : List Char} (hw : IsSpaces w) (first : Bool) (r : List Char) :
    ∃ h, nextItem first (w ++ ']' :: r) = .ok (.closed ⟨r, h⟩) := by
  have hskip : skipSpace (w ++ ']' :: r) = ']' :: r := skipSpace_append hw rfl
  unfold nextItem
  exact ⟨length_tail_skipSpace_lt hskip, (match_skipSpace hskip _ _).trans (if_pos rfl)⟩

/-- The first item starts after white space. -/
theorem nextItem_first {w x : List Char} (hw : IsSpaces w) (hx : BeginsItem x) :
    ∃ h, nextItem true (w ++ x) = .ok (.part ⟨x, h⟩) := by
  obtain ⟨c, tail, rfl, hspace, hc⟩ := hx
  have hskip : skipSpace (w ++ c :: tail) = c :: tail := skipSpace_append hw hspace
  unfold nextItem
  refine ⟨(List.suffix_append w _).length_le, (match_skipSpace hskip _ _).trans ?_⟩
  rw [if_neg hc, if_pos rfl]

/-- Every other item starts after a comma. -/
theorem nextItem_later {w w' x : List Char} (hw : IsSpaces w) (hw' : IsSpaces w')
    (hx : BeginsItem x) : ∃ h, nextItem false (w ++ ',' :: (w' ++ x)) = .ok (.part ⟨x, h⟩) := by
  obtain ⟨c, tail, rfl, hspace, hc⟩ := hx
  have hcomma : skipSpace (w ++ ',' :: (w' ++ c :: tail)) = ',' :: (w' ++ c :: tail) :=
    skipSpace_append hw rfl
  have hitem : skipSpace (w' ++ c :: tail) = c :: tail := skipSpace_append hw' hspace
  have hle : (c :: tail).length ≤ (w ++ ',' :: (w' ++ c :: tail)).length := by
    simp only [List.length_append, List.length_cons]
    omega
  unfold nextItem
  refine ⟨hle, (match_skipSpace hcomma _ _).trans ?_⟩
  rw [if_neg (by decide), if_neg Bool.false_ne_true, if_pos rfl]
  exact (match_skipSpace hitem _ _).trans (if_neg hc)

/-! ### In an object -/

/-- What can come next in an object: its end, the key of the first member, or the key of a member
behind a comma. -/
inductive MemberStep (first : Bool) (cs : List Char) : Next cs → Prop
  | closed {w : List Char} {rest : Shorter cs} (hw : IsSpaces w) (hcs : cs = w ++ '}' :: rest.1) :
      MemberStep first cs (.closed rest)
  | first {w : List Char} {start : NoLonger cs} (hfirst : first = true) (hw : IsSpaces w)
      (hcs : cs = w ++ '"' :: start.1) : MemberStep first cs (.part start)
  | later {w w' : List Char} {start : NoLonger cs} (hfirst : first = false) (hw : IsSpaces w)
      (hw' : IsSpaces w') (hcs : cs = w ++ ',' :: (w' ++ '"' :: start.1)) :
      MemberStep first cs (.part start)

theorem memberStep_of_nextMember {first : Bool} {cs : List Char} {next : Next cs}
    (h : nextMember first cs = .ok next) : MemberStep first cs next := by
  unfold nextMember at h
  split at h
  · exact absurd h (by simp)
  · rename_i c tail hskip
    obtain ⟨w, hw, hcs, -⟩ := exists_of_skipSpace hskip
    dsimp only at h
    split_ifs at h with hclose hfirst hquote hcomma
    · rw [← Except.ok.inj h]
      exact .closed hw (hclose ▸ hcs)
    · rw [← Except.ok.inj h]
      exact .first hfirst hw (hquote ▸ hcs)
    · split at h
      · exact absurd h (by simp)
      · rename_i d more hskip'
        obtain ⟨w', hw', htail, -⟩ := exists_of_skipSpace hskip'
        split_ifs at h with hquote
        rw [← Except.ok.inj h]
        subst hcomma hquote
        exact .later (Bool.eq_false_iff.mpr hfirst) hw hw'
          (hcs.trans (congrArg (w ++ ',' :: ·) htail))

theorem nextMember_closed {w : List Char} (hw : IsSpaces w) (first : Bool) (r : List Char) :
    ∃ h, nextMember first (w ++ '}' :: r) = .ok (.closed ⟨r, h⟩) := by
  have hskip : skipSpace (w ++ '}' :: r) = '}' :: r := skipSpace_append hw rfl
  unfold nextMember
  exact ⟨length_tail_skipSpace_lt hskip, (match_skipSpace hskip _ _).trans (if_pos rfl)⟩

/-- A quote opens the first member. -/
theorem nextMember_first {w : List Char} (hw : IsSpaces w) (r : List Char) :
    ∃ h, nextMember true (w ++ '"' :: r) = .ok (.part ⟨r, h⟩) := by
  have hskip : skipSpace (w ++ '"' :: r) = '"' :: r := skipSpace_append hw rfl
  unfold nextMember
  refine ⟨Nat.le_of_lt (length_tail_skipSpace_lt hskip), (match_skipSpace hskip _ _).trans ?_⟩
  rw [if_neg (by decide), if_pos rfl, if_pos rfl]

/-- A comma and a quote open every other member. -/
theorem nextMember_later {w w' : List Char} (hw : IsSpaces w) (hw' : IsSpaces w') (r : List Char) :
    ∃ h, nextMember false (w ++ ',' :: (w' ++ '"' :: r)) = .ok (.part ⟨r, h⟩) := by
  have hcomma : skipSpace (w ++ ',' :: (w' ++ '"' :: r)) = ',' :: (w' ++ '"' :: r) :=
    skipSpace_append hw rfl
  have hquote : skipSpace (w' ++ '"' :: r) = '"' :: r := skipSpace_append hw' rfl
  have hle : r.length ≤ (w ++ ',' :: (w' ++ '"' :: r)).length := by
    simp only [List.length_append, List.length_cons]
    omega
  unfold nextMember
  refine ⟨hle, (match_skipSpace hcomma _ _).trans ?_⟩
  rw [if_neg (by decide), if_neg Bool.false_ne_true, if_pos rfl]
  exact (match_skipSpace hquote _ _).trans (if_pos rfl)

theorem scanColon_append {w : List Char} (hw : IsSpaces w) (r : List Char) :
    ∃ h, scanColon (w ++ ':' :: r) = .ok ⟨r, h⟩ := by
  have hskip : skipSpace (w ++ ':' :: r) = ':' :: r := skipSpace_append hw rfl
  unfold scanColon
  exact ⟨length_tail_skipSpace_lt hskip, (match_skipSpace hskip _ _).trans (if_pos rfl)⟩

theorem eq_of_scanColon {cs : List Char} {rest : Shorter cs} (h : scanColon cs = .ok rest) :
    ∃ w, IsSpaces w ∧ cs = w ++ ':' :: rest.1 := by
  unfold scanColon at h
  split at h
  · exact absurd h (by simp)
  · rename_i c tail hskip
    obtain ⟨w, hw, hcs, -⟩ := exists_of_skipSpace hskip
    split_ifs at h with hc
    rw [← Except.ok.inj h]
    exact ⟨w, hw, hc ▸ hcs⟩

/-! ## Containers

The white space after a part of a container is read with the comma or bracket that
follows it. Until then a part is *open*: it is complete with any white space put after
it. -/

/-- A piece of text that is derived with any white space after it. -/
def Open (p : Phrase) (x : List Char) : Prop := ∀ w, IsSpaces w → Derives p (x ++ w)

theorem Open.prepend {x w : List Char} (hx : Open .element x) (hw : IsSpaces w) :
    Open .element (w ++ x) := by
  intro w' hw'
  rw [List.append_assoc]
  exact (hx w' hw').prepend hw

theorem open_member {w k w' x : List Char} (hw : IsSpaces w) (hk : Literal k) (hw' : IsSpaces w')
    (hx : Open .element x) : Open .member (w ++ (k ++ (w' ++ ':' :: x))) := by
  intro w'' hw''
  rw [List.append_assoc, List.append_assoc, List.append_assoc]
  exact .member hw hk hw' (hx w'' hw'')

/-- What follows an open part: it completes a list of parts, and closes the container. -/
def Completes (part parts : Phrase) (close : Char) (u : List Char) : Prop :=
  ∃ t, u = t ++ [close] ∧ ∀ x, Open part x → Derives parts (x ++ t)

/-- A value that may have white space before it; an object, if it is read as one. -/
def Valued (v : Json) (x : List Char) : Prop :=
  ∃ w t, IsSpaces w ∧ x = w ++ t ∧ Derives .value t ∧ (v.isObject = true → Derives .object t)

theorem Valued.open_element {v : Json} {x : List Char} (h : Valued v x) : Open .element x := by
  obtain ⟨w, t, hw, rfl, ht, -⟩ := h
  intro w' hw'
  rw [List.append_assoc]
  exact .element hw ht hw'

/-- A reader of values that takes values. -/
def SoundReader (read : (cs : List Char) → Step SyntaxError Json cs) : Prop :=
  ∀ cs v rest, read cs = .ok (v, rest) → Taken read (Valued v) cs v rest.1

section Containers

variable {read : (cs : List Char) → Step SyntaxError Json cs}

/-- A piece that was read by a reader that shortens its text is not empty, so cutting off
what follows leaves its first character. -/
theorem head?_eq_of_shorter {t rest start : List Char} (hlt : rest.length < start.length)
    (hstart : start = t ++ rest) (r : List Char) : (t ++ r).head? = start.head? := by
  cases t with
  | nil =>
    rw [hstart, List.nil_append] at hlt
    exact absurd hlt (Nat.lt_irrefl _)
  | cons c t =>
    rw [hstart]
    rfl

/-! ### Items -/

theorem reads_items_closed {first : Bool} {cs : List Char} {rest : Shorter cs}
    (h : nextItem first cs = .ok (.closed rest)) :
    Reads (readItems id read first) cs [] rest.1 := by
  unfold Reads readItems
  rw [h]
  exact ⟨rest.2, rfl⟩

theorem reads_items_part {first : Bool} {cs more rest : List Char} {start : NoLonger cs} {v : Json}
    {vs : List Json} (h : nextItem first cs = .ok (.part start)) (hitem : Reads read start.1 v more)
    (hitems : Reads (readItems id read false) more vs rest) :
    Reads (readItems id read first) cs (v :: vs) rest := by
  obtain ⟨start, hle⟩ := start
  obtain ⟨hlt, hitem⟩ := hitem
  obtain ⟨hlt', hitems⟩ := hitems
  unfold Reads readItems
  rw [h]
  dsimp only at hlt hitem ⊢
  rw [hitem]
  dsimp only
  rw [hitems]
  exact ⟨by omega, rfl⟩

/-- What the loop over items can do: it ends with the array, or it reads an item and goes on behind
it. -/
theorem readItems_cases {first : Bool} {cs : List Char} {vs : List Json} {rest : Shorter cs}
    (h : readItems id read first cs = .ok (vs, rest)) :
    (∃ closed : Shorter cs, nextItem first cs = .ok (.closed closed) ∧ vs = [] ∧
      rest.1 = closed.1) ∨
    ∃ (start : NoLonger cs) (more : Shorter start.1) (last : Shorter more.1) (v : Json)
      (later : List Json), nextItem first cs = .ok (.part start) ∧ read start.1 = .ok (v, more) ∧
        readItems id read false more.1 = .ok (later, last) ∧ vs = v :: later ∧
        rest.1 = last.1 := by
  unfold readItems at h
  split at h
  · exact absurd h (by simp)
  · rename_i closed hnext
    obtain ⟨rfl, rfl⟩ := ok_inj h
    exact .inl ⟨closed, hnext, rfl, rfl⟩
  · rename_i start hle hnext
    split at h
    · exact absurd h (by simp)
    · rename_i v more hlt hvalue
      split at h
      · exact absurd h (by simp)
      · rename_i later last hlater
        obtain ⟨rfl, rfl⟩ := ok_inj h
        exact .inr ⟨⟨start, hle⟩, ⟨more, hlt⟩, last, v, later, hnext, hvalue, hlater, rfl, rfl⟩

/-- The end of an array is taken, as whatever it is with the white space before it. -/
theorem taken_of_items_closed {first : Bool} {cs : List Char} {closed : Shorter cs}
    {P : List Char → Prop} (h : nextItem first cs = .ok (.closed closed))
    (hP : ∀ w, IsSpaces w → P (w ++ [']'])) :
    Taken (readItems id read first) P cs [] closed.1 := by
  cases itemStep_of_nextItem h with
  | @closed w _ hw hcs =>
    refine ⟨w ++ [']'], hP w hw, ?_, fun r _ => ?_⟩
    · rw [List.append_assoc]
      exact hcs
    · obtain ⟨hlt, hclosed⟩ := nextItem_closed hw first r
      rw [List.append_assoc]
      exact reads_items_closed hclosed

/-- An item is taken together with the items after it, behind whatever opens it. The loop takes the
same steps if the text is cut, since the cut is after the bracket. -/
theorem taken_of_items_part (hread : SoundReader read) {first : Bool} {cs opening rest : List Char}
    {start : NoLonger cs} {more : Shorter start.1} {v : Json} {later : List Json}
    {P : List Char → Prop} (hcs : cs = opening ++ start.1)
    (hopening : ∀ x, BeginsItem x → ∃ h, nextItem first (opening ++ x) = .ok (.part ⟨x, h⟩))
    (hitem : BeginsItem start.1) (hvalue : read start.1 = .ok (v, more))
    (hlater : Taken (readItems id read false) (Completes .element .elements ']') more.1 later rest)
    (hP : ∀ t u, Valued v t → (∀ x, Open .element x → Derives .elements (x ++ u)) →
      P (opening ++ (t ++ (u ++ [']'])))) :
    Taken (readItems id read first) P cs (v :: later) rest := by
  obtain ⟨t, ht, hstart, hreads⟩ := hread _ _ _ hvalue
  obtain ⟨_, ⟨u, rfl, hu⟩, hmore, hreads'⟩ := hlater
  refine ⟨opening ++ (t ++ (u ++ [']'])), hP t u ht hu, ?_, fun r hr => ?_⟩
  · simp only [hcs, hstart, hmore, List.append_assoc]
  · have hhead := head?_eq_of_shorter more.2 hstart (u ++ [']'] ++ r)
    obtain ⟨hle, hpart⟩ := hopening _ (hitem.of_head? hhead)
    rw [List.append_assoc, List.append_assoc]
    exact reads_items_part hpart (hreads _ (prefix_of_eq_append hmore hr)) (hreads' r hr)

/-- The items after one that has been read complete its list. -/
theorem taken_of_readItems_later (hread : SoundReader read) {cs : List Char} {vs : List Json}
    {rest : Shorter cs} (h : readItems id read false cs = .ok (vs, rest)) :
    Taken (readItems id read false) (Completes .element .elements ']') cs vs rest.1 := by
  rcases readItems_cases h with ⟨closed, hnext, rfl, hrest⟩ |
    ⟨start, more, last, v, later, hnext, hvalue, hlater, rfl, hrest⟩
  · rw [hrest]
    exact taken_of_items_closed hnext fun w hw => ⟨w, rfl, fun x hx => .lastElement (hx w hw)⟩
  · have hlater := taken_of_readItems_later hread hlater
    rw [hrest]
    cases itemStep_of_nextItem hnext with
    | first hfirst => exact absurd hfirst Bool.false_ne_true
    | @later w w' _ _ hw hw' hcs hitem =>
      rw [← List.cons_append, ← List.append_assoc] at hcs
      refine taken_of_items_part hread hcs ?_ hitem hvalue hlater ?_
      · intro x hx
        rw [List.append_assoc, List.cons_append]
        exact nextItem_later hw hw' hx
      · intro t u ht hu
        refine ⟨w ++ ',' :: (w' ++ t ++ u), ?_, ?_⟩
        · simp only [List.append_assoc, List.cons_append]
        · -- the white space before the comma completes the item that was open
          intro x hx
          rw [← List.append_assoc]
          exact .consElement (hx w hw) (hu _ (ht.open_element.prepend hw'))
termination_by cs.length
decreasing_by exact Nat.lt_of_lt_of_le more.2 start.2

/-- The items from the first on, with the bracket before them, are an array. -/
theorem taken_of_readItems (hread : SoundReader read) {cs : List Char} {vs : List Json}
    {rest : Shorter cs} (h : readItems id read true cs = .ok (vs, rest)) :
    Taken (readItems id read true) (fun t => Derives .value ('[' :: t)) cs vs rest.1 := by
  rcases readItems_cases h with ⟨closed, hnext, rfl, hrest⟩ |
    ⟨start, more, last, v, later, hnext, hvalue, hlater, rfl, hrest⟩
  · rw [hrest]
    exact taken_of_items_closed hnext fun w hw => .emptyArray hw
  · have hlater := taken_of_readItems_later hread hlater
    rw [hrest]
    cases itemStep_of_nextItem hnext with
    | @first w _ _ hw hcs hitem =>
      refine taken_of_items_part hread hcs (fun x hx => nextItem_first hw hx) hitem hvalue hlater ?_
      intro t u ht hu
      rw [← List.append_assoc t, ← List.append_assoc w, ← List.append_assoc w]
      exact .array (hu _ (ht.open_element.prepend hw))
    | later hfirst => exact absurd hfirst.symm Bool.false_ne_true

/-! ### Members -/

/-- A colon and a value; with a key before them they are an open member. -/
def AfterKey (u : List Char) : Prop :=
  ∀ w k, IsSpaces w → Literal k → Open .member (w ++ (k ++ u))

theorem taken_of_readMember (hread : SoundReader read) {state next : List (String × Json)}
    {key cs : List Char} {rest : Shorter cs} (h : readMember read state key cs = .ok (next, rest)) :
    Taken (readMember read state key) AfterKey cs next rest.1 := by
  unfold readMember at h
  split at h
  · exact absurd h (by simp)
  · rename_i more hcolon
    obtain ⟨w, hw, hcs⟩ := eq_of_scanColon hcolon
    split at h
    · exact absurd h (by simp)
    · rename_i value last hvalue
      obtain ⟨t, ht, hmore, hreads⟩ := hread _ _ _ hvalue
      obtain ⟨hnext, hrest⟩ := ok_inj h
      have hlast : rest.1 = last.1 := congrArg Subtype.val hrest.symm
      rw [← hnext, hlast]
      refine ⟨w ++ ':' :: t, fun w' k hw' hk => open_member hw' hk hw ht.open_element, ?_,
        fun r hr => ?_⟩
      · rw [List.append_assoc, List.cons_append, ← hmore]
        exact hcs
      · obtain ⟨hlt₁, hcolon⟩ := scanColon_append hw (t ++ r)
        obtain ⟨hlt₂, hread⟩ := hreads r hr
        rw [List.append_assoc, List.cons_append]
        unfold Reads readMember
        rw [hcolon]
        dsimp only
        rw [hread]
        exact ⟨by omega, rfl⟩

theorem reads_members_closed {state : List (String × Json)} {first : Bool} {cs : List Char}
    {rest : Shorter cs} (h : nextMember first cs = .ok (.closed rest)) :
    Reads (readMembers id (readMember read) first state) cs state rest.1 := by
  unfold Reads readMembers
  rw [h]
  exact ⟨rest.2, rfl⟩

theorem reads_members_part {state next final : List (String × Json)} {first : Bool}
    {cs key afterKey more rest : List Char} {start : NoLonger cs}
    (h : nextMember first cs = .ok (.part start)) (hkey : Reads scanString start.1 key afterKey)
    (hmember : Reads (readMember read state key) afterKey next more)
    (hmembers : Reads (readMembers id (readMember read) false next) more final rest) :
    Reads (readMembers id (readMember read) first state) cs final rest := by
  obtain ⟨start, hle⟩ := start
  obtain ⟨hlt, hkey⟩ := hkey
  obtain ⟨hlt', hmember⟩ := hmember
  obtain ⟨hlt'', hmembers⟩ := hmembers
  unfold Reads readMembers
  rw [h]
  dsimp only at hlt hkey ⊢
  rw [hkey]
  dsimp only
  rw [hmember]
  dsimp only
  rw [hmembers]
  exact ⟨by omega, rfl⟩

/-- What the loop over members can do: it ends with the object, or it reads a key and what belongs to
it and goes on behind them. -/
theorem readMembers_cases {state final : List (String × Json)} {first : Bool} {cs : List Char}
    {rest : Shorter cs} (h : readMembers id (readMember read) first state cs = .ok (final, rest)) :
    (∃ closed : Shorter cs, nextMember first cs = .ok (.closed closed) ∧ final = state ∧
      rest.1 = closed.1) ∨
    ∃ (start : NoLonger cs) (afterKey : Shorter start.1) (more : Shorter afterKey.1)
      (last : Shorter more.1) (key : List Char) (next : List (String × Json)),
        nextMember first cs = .ok (.part start) ∧ scanString start.1 = .ok (key, afterKey) ∧
        readMember read state key afterKey.1 = .ok (next, more) ∧
        readMembers id (readMember read) false next more.1 = .ok (final, last) ∧
        rest.1 = last.1 := by
  unfold readMembers at h
  split at h
  · exact absurd h (by simp)
  · rename_i closed hnext
    obtain ⟨rfl, rfl⟩ := ok_inj h
    exact .inl ⟨closed, hnext, rfl, rfl⟩
  · rename_i start hle hnext
    split at h
    · exact absurd h (by simp)
    · rename_i key afterKey hlt hkey
      split at h
      · exact absurd h (by simp)
      · rename_i next more hlt' hmember
        split at h
        · exact absurd h (by simp)
        · rename_i last hlater
          obtain ⟨rfl, rfl⟩ := ok_inj h
          exact .inr ⟨⟨start, hle⟩, ⟨afterKey, hlt⟩, ⟨more, hlt'⟩, last, key, next, hnext, hkey,
            hmember, hlater, rfl⟩

/-- The end of an object is taken, as whatever it is with the white space before it. -/
theorem taken_of_members_closed {state : List (String × Json)} {first : Bool} {cs : List Char}
    {closed : Shorter cs} {P : List Char → Prop} (h : nextMember first cs = .ok (.closed closed))
    (hP : ∀ w, IsSpaces w → P (w ++ ['}'])) :
    Taken (readMembers id (readMember read) first state) P cs state closed.1 := by
  cases memberStep_of_nextMember h with
  | @closed w _ hw hcs =>
    refine ⟨w ++ ['}'], hP w hw, ?_, fun r _ => ?_⟩
    · rw [List.append_assoc]
      exact hcs
    · obtain ⟨hlt, hclosed⟩ := nextMember_closed hw first r
      rw [List.append_assoc]
      exact reads_members_closed hclosed

/-- A member is taken together with the members after it, behind whatever stands before the quote
that opens its key. The loop takes the same steps if the text is cut, since the cut is after the
brace. -/
theorem taken_of_members_part (hread : SoundReader read) {state next final : List (String × Json)}
    {first : Bool} {cs opening key rest : List Char} {start : NoLonger cs}
    {afterKey : Shorter start.1} {more : Shorter afterKey.1} {P : List Char → Prop}
    (hcs : cs = opening ++ '"' :: start.1)
    (hopening : ∀ x, ∃ h, nextMember first (opening ++ '"' :: x) = .ok (.part ⟨x, h⟩))
    (hkey : scanString start.1 = .ok (key, afterKey))
    (hmember : readMember read state key afterKey.1 = .ok (next, more))
    (hlater : Taken (readMembers id (readMember read) false next) (Completes .member .members '}')
      more.1 final rest)
    (hP : ∀ k t u, Literal ('"' :: k) → AfterKey t →
      (∀ x, Open .member x → Derives .members (x ++ u)) →
      P (opening ++ '"' :: (k ++ (t ++ (u ++ ['}']))))) :
    Taken (readMembers id (readMember read) first state) P cs final rest := by
  obtain ⟨k, hk, hstart, hkeys⟩ := taken_of_scanString hkey
  obtain ⟨t, ht, hafter, hreads⟩ := taken_of_readMember hread hmember
  obtain ⟨_, ⟨u, rfl, hu⟩, hmore, hreads'⟩ := hlater
  refine ⟨opening ++ '"' :: (k ++ (t ++ (u ++ ['}']))), hP k t u hk ht hu, ?_, fun r hr => ?_⟩
  · simp only [hcs, hstart, hafter, hmore, List.append_assoc, List.cons_append]
  · have hcut := prefix_of_eq_append hmore hr
    obtain ⟨hle, hpart⟩ := hopening (k ++ (t ++ (u ++ ['}'] ++ r)))
    rw [List.append_assoc, List.cons_append, List.append_assoc, List.append_assoc]
    exact reads_members_part hpart (hkeys _ (prefix_of_eq_append hafter hcut)) (hreads _ hcut)
      (hreads' r hr)

/-- The members after one that has been read complete its list. -/
theorem taken_of_readMembers_later (hread : SoundReader read) {state final : List (String × Json)}
    {cs : List Char} {rest : Shorter cs}
    (h : readMembers id (readMember read) false state cs = .ok (final, rest)) :
    Taken (readMembers id (readMember read) false state) (Completes .member .members '}') cs final
      rest.1 := by
  rcases readMembers_cases h with ⟨closed, hnext, rfl, hrest⟩ |
    ⟨start, afterKey, more, last, key, next, hnext, hkey, hmember, hlater, hrest⟩
  · rw [hrest]
    exact taken_of_members_closed hnext fun w hw => ⟨w, rfl, fun x hx => .lastMember (hx w hw)⟩
  · have hlater := taken_of_readMembers_later hread hlater
    rw [hrest]
    cases memberStep_of_nextMember hnext with
    | first hfirst => exact absurd hfirst Bool.false_ne_true
    | @later w w' _ _ hw hw' hcs =>
      rw [← List.cons_append, ← List.append_assoc] at hcs
      refine taken_of_members_part hread hcs ?_ hkey hmember hlater ?_
      · intro x
        rw [List.append_assoc, List.cons_append]
        exact nextMember_later hw hw' x
      · intro k t u hk ht hu
        refine ⟨w ++ ',' :: (w' ++ ('"' :: k ++ t) ++ u), ?_, ?_⟩
        · simp only [List.append_assoc, List.cons_append]
        · -- the white space before the comma completes the member that was open
          intro x hx
          rw [← List.append_assoc]
          exact .consMember (hx w hw) (hu _ (ht w' _ hw' hk))
termination_by cs.length
decreasing_by exact Nat.lt_of_lt_of_le (Nat.lt_trans more.2 afterKey.2) start.2

/-- The members from the first on, with the brace before them, are an object. -/
theorem taken_of_readMembers (hread : SoundReader read) {state final : List (String × Json)}
    {cs : List Char} {rest : Shorter cs}
    (h : readMembers id (readMember read) true state cs = .ok (final, rest)) :
    Taken (readMembers id (readMember read) true state) (fun t => Derives .object ('{' :: t)) cs
      final rest.1 := by
  rcases readMembers_cases h with ⟨closed, hnext, rfl, hrest⟩ |
    ⟨start, afterKey, more, last, key, next, hnext, hkey, hmember, hlater, hrest⟩
  · rw [hrest]
    exact taken_of_members_closed hnext fun w hw => .emptyObject hw
  · have hlater := taken_of_readMembers_later hread hlater
    rw [hrest]
    cases memberStep_of_nextMember hnext with
    | @first w _ _ hw hcs =>
      refine taken_of_members_part hread hcs (nextMember_first hw) hkey hmember hlater ?_
      intro k t u hk ht hu
      have hobject := Derives.object (hu _ (ht w _ hw hk))
      simpa only [List.append_assoc, List.cons_append] using hobject
    | later hfirst => exact absurd hfirst.symm Bool.false_ne_true

end Containers

end Draftsman.Json.Grammar
