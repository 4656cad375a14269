/-
Fragments of HTML, read back.

A reader takes a text apart into tags and the texts between them. It knows the tags of
explanations, without attributes, and the entities that escaping writes. A text is refused
if one of its characters `<` begins no tag or one of its characters `&` no entity, so
nothing is passed over. The reader gets back from a fragment the tags and the unescaped
texts of its tree (`read_chars`), and the tags it finds are balanced and nested
(`nested_enterAll`), whatever the texts in the fragment are.
-/
import Draftsman.Explanation.Html

set_option autoImplicit false

namespace Draftsman.Explanation

/-! ## Tags and entities -/

/-- A tag as it is written, at the beginning or at the end of an element. -/
inductive Mark where
  | opening (tag : Tag)
  | closing (tag : Tag)
deriving DecidableEq, Repr

/-- The text of a tag. -/
def Mark.chars : Mark → List Char
  | .opening tag => tag.opening
  | .closing tag => tag.closing

/-- All elements. -/
def tags : List Tag := [.h3, .h4, .p, .ul, .ol, .li, .strong, .em, .code, .i]

/-- All tags. -/
def marks : List Mark := tags.map .opening ++ tags.map .closing

/-- The entities and the characters that they stand for. -/
def entities : List (List Char × Char) :=
  [("&amp;".toList, '&'), ("&lt;".toList, '<'), ("&gt;".toList, '>'), ("&quot;".toList, '"')]

/-- The tag that a text begins with. -/
def markAt? (cs : List Char) : Option Mark := marks.find? fun mark => mark.chars.isPrefixOf cs

/-- The entity that a text begins with. -/
def entityAt? (cs : List Char) : Option (List Char × Char) :=
  entities.find? fun entity => entity.1.isPrefixOf cs

theorem Mark.chars_eq (mark : Mark) :
    ∃ rest, mark.chars = '<' :: rest ∧ '<' ∉ rest ∧ '&' ∉ rest := by
  cases mark with
  | opening tag => exact ⟨_, rfl, by cases tag <;> decide, by cases tag <;> decide⟩
  | closing tag => exact ⟨_, rfl, by cases tag <;> decide, by cases tag <;> decide⟩

/-- No tag begins another one, so the tag that was written is the one that is found. -/
theorem markAt?_chars (mark : Mark) (cs : List Char) : markAt? (mark.chars ++ cs) = some mark := by
  cases mark with
  | opening tag => cases tag <;> rfl
  | closing tag => cases tag <;> rfl

/-- A character is escaped to an entity that stands for it, or it is neither `<` nor `&`
and stands for itself. -/
theorem escapeChar_cases (c : Char) :
    (escapeChar c, c) ∈ entities ∨ (escapeChar c = [c] ∧ c ≠ '<' ∧ c ≠ '&') := by
  unfold escapeChar
  split <;> simp_all [entities]

theorem entity_eq {entity : List Char × Char} (h : entity ∈ entities) :
    ∃ rest, entity.1 = '&' :: rest ∧ '<' ∉ rest ∧ '&' ∉ rest := by
  simp only [entities, List.mem_cons, List.not_mem_nil, or_false] at h
  obtain rfl | rfl | rfl | rfl := h <;> exact ⟨_, rfl, by decide, by decide⟩

theorem entityAt?_append {entity : List Char × Char} (h : entity ∈ entities) (cs : List Char) :
    entityAt? (entity.1 ++ cs) = some entity := by
  simp only [entities, List.mem_cons, List.not_mem_nil, or_false] at h
  obtain rfl | rfl | rfl | rfl := h <;> rfl

/-! ## Where signs begin -/

/-- Every occurrence of a character in a text is the beginning of one of the signs. -/
def BeginsSigns (c : Char) (signs : List (List Char)) (cs : List Char) : Prop :=
  ∀ before after, cs = before ++ c :: after → ∃ sign ∈ signs, sign <+: c :: after

section BeginsSigns

variable {c : Char} {signs : List (List Char)}

theorem beginsSigns_of_not_mem {cs : List Char} (h : c ∉ cs) : BeginsSigns c signs cs := by
  rintro before after rfl
  exact absurd (by simp) h

theorem BeginsSigns.append {as bs : List Char} (ha : BeginsSigns c signs as)
    (hb : BeginsSigns c signs bs) : BeginsSigns c signs (as ++ bs) := by
  intro before after h
  obtain ⟨between, -, hafter⟩ | ⟨between, has, hafter⟩ := List.append_eq_append_iff.1 h
  · exact hb _ _ hafter
  · cases between with
    | nil => exact hb [] after hafter.symm
    | cons d between =>
        -- a sign of the first text still stands there in the whole
        obtain ⟨rfl, rfl⟩ := List.cons.inj hafter
        obtain ⟨sign, hmem, hpre⟩ := ha before between has
        exact ⟨sign, hmem, hpre.trans ⟨bs, rfl⟩⟩

theorem beginsSigns_sign {sign rest : List Char} (hmem : sign ∈ signs) (hsign : sign = c :: rest)
    (hrest : c ∉ rest) : BeginsSigns c signs sign := by
  intro before after h
  rw [hsign] at h
  cases before with
  | nil => exact ⟨sign, hmem, by rw [hsign, h]; exact List.prefix_rfl⟩
  | cons d before =>
      obtain ⟨rfl, rfl⟩ := List.cons.inj h
      exact absurd (by simp) hrest

end BeginsSigns

/-- A text in which every `<` begins a tag and every `&` an entity. -/
structure Signed (cs : List Char) : Prop where
  marks : BeginsSigns '<' (marks.map Mark.chars) cs
  entities : BeginsSigns '&' (entities.map Prod.fst) cs

theorem mem_marks (mark : Mark) : mark ∈ marks := by
  cases mark with
  | opening tag => cases tag <;> decide
  | closing tag => cases tag <;> decide

theorem Signed.append {as bs : List Char} (ha : Signed as) (hb : Signed bs) : Signed (as ++ bs) :=
  ⟨ha.marks.append hb.marks, ha.entities.append hb.entities⟩

theorem signed_nil : Signed [] :=
  ⟨beginsSigns_of_not_mem (by simp), beginsSigns_of_not_mem (by simp)⟩

theorem signed_mark (mark : Mark) : Signed mark.chars := by
  obtain ⟨rest, heq, hlt, hamp⟩ := mark.chars_eq
  refine ⟨beginsSigns_sign (List.mem_map_of_mem (mem_marks mark)) heq hlt,
    beginsSigns_of_not_mem ?_⟩
  rw [heq, List.mem_cons, not_or]
  exact ⟨by decide, hamp⟩

theorem signed_escapeChar (c : Char) : Signed (escapeChar c) := by
  obtain hmem | ⟨heq, hlt, hamp⟩ := escapeChar_cases c
  · obtain ⟨rest, hentity, hlt, hamp⟩ := entity_eq hmem
    refine ⟨beginsSigns_of_not_mem ?_,
      beginsSigns_sign (List.mem_map_of_mem hmem) hentity hamp⟩
    rw [show escapeChar c = '&' :: rest from hentity, List.mem_cons, not_or]
    exact ⟨by decide, hlt⟩
  · rw [heq]
    exact ⟨beginsSigns_of_not_mem (by simpa using hlt.symm),
      beginsSigns_of_not_mem (by simpa using hamp.symm)⟩

theorem signed_escape (text : String) : Signed (escape text) := by
  unfold escape
  induction text.toList with
  | nil => exact signed_nil
  | cons c cs ih => exact (signed_escapeChar c).append ih

mutual

theorem signed_chars : (piece : Html) → Signed piece.chars
  | .text content => by
      rw [Html.chars]
      exact signed_escape content
  | .element tag children => by
      rw [Html.chars]
      exact ((signed_mark (.opening tag)).append (signed_charsOfList children)).append
        (signed_mark (.closing tag))

theorem signed_charsOfList : (pieces : List Html) → Signed (Html.charsOfList pieces)
  | [] => signed_nil
  | piece :: rest => by
      rw [Html.charsOfList]
      exact (signed_chars piece).append (signed_charsOfList rest)

end

/-! ## The reader -/

/-- A text taken apart: what stands before the first tag, and every tag with what stands
between it and the next one. Entities are replaced by the characters that they stand for. -/
structure Reading where
  lead : List Char
  rest : List (Mark × List Char)
deriving DecidableEq, Repr

namespace Reading

/-- The reading of the empty text. -/
def empty : Reading := ⟨[], []⟩

/-- The reading with one more character in front. -/
def push (c : Char) (r : Reading) : Reading := ⟨c :: r.lead, r.rest⟩

/-- The reading with one more tag in front. -/
def mark (m : Mark) (r : Reading) : Reading := ⟨[], (m, r.lead) :: r.rest⟩

/-- The tags of a reading. -/
def marks (r : Reading) : List Mark := r.rest.map Prod.fst

end Reading

/-- The reading of a text without its first `skip` characters, which belong to a tag or
an entity that was read already. -/
def readFrom : Nat → List Char → Option Reading
  | _, [] => some .empty
  | skip + 1, _ :: cs => readFrom skip cs
  | 0, c :: cs =>
    if c = '<' then
      (markAt? (c :: cs)).bind fun mark =>
        (readFrom (mark.chars.length - 1) cs).map (Reading.mark mark)
    else if c = '&' then
      (entityAt? (c :: cs)).bind fun entity =>
        (readFrom (entity.1.length - 1) cs).map (Reading.push entity.2)
    else (readFrom 0 cs).map (Reading.push c)

/-- The reading of a text, if all its tags and entities are known ones. -/
def read (cs : List Char) : Option Reading := readFrom 0 cs

-- An entity is undone once. Other tags and a lone ampersand are refused.
example : read "<li>&amp;lt;</li>".toList =
    some ⟨[], [(.opening .li, "&lt;".toList), (.closing .li, [])]⟩ := by decide

example : read "<b>".toList = none ∧ read "a & b".toList = none := by decide

@[simp] theorem read_nil : read [] = some .empty := rfl

theorem readFrom_length_append (as bs : List Char) : readFrom as.length (as ++ bs) = read bs := by
  induction as with
  | nil => rfl
  | cons c as ih => exact ih

theorem read_mark (mark : Mark) (cs : List Char) :
    read (mark.chars ++ cs) = (read cs).map (Reading.mark mark) := by
  -- the tag is found at its first character, and its other characters are skipped
  have hfound := markAt?_chars mark cs
  obtain ⟨rest, heq, -, -⟩ := mark.chars_eq
  rw [heq, List.cons_append] at hfound ⊢
  rw [read, readFrom, if_pos rfl, hfound, Option.bind_some, heq]
  exact congrArg _ (readFrom_length_append rest cs)

theorem read_escapeChar (c : Char) (cs : List Char) :
    read (escapeChar c ++ cs) = (read cs).map (Reading.push c) := by
  obtain hmem | ⟨heq, hlt, hamp⟩ := escapeChar_cases c
  · have hfound := entityAt?_append hmem cs
    obtain ⟨rest, hentity, -, -⟩ := entity_eq hmem
    simp only at hentity hfound
    rw [hentity, List.cons_append] at hfound ⊢
    rw [read, readFrom, if_neg (by decide), if_pos rfl, hfound, Option.bind_some]
    exact congrArg _ (readFrom_length_append rest cs)
  · rw [heq, List.singleton_append, read, readFrom, if_neg hlt, if_neg hamp]
    rfl

/-! ## What is read from a fragment -/

mutual

/-- What is read from a piece that stands in front of a text, by what is read from the text. -/
def Html.enter : Html → Reading → Reading
  | .text content, r => ⟨content.toList ++ r.lead, r.rest⟩
  | .element tag children, r =>
    .mark (.opening tag) (enterAll children (.mark (.closing tag) r))

/-- What is read from pieces one after the other that stand in front of a text. -/
def Html.enterAll : List Html → Reading → Reading
  | [], r => r
  | piece :: rest, r => piece.enter (enterAll rest r)

end

theorem read_escape (text : String) (cs : List Char) :
    read (escape text ++ cs) = (read cs).map (Html.text text).enter := by
  unfold escape
  simp only [Html.enter]
  induction text.toList with
  | nil => simp
  | cons c content ih =>
      rw [List.flatMap_cons, List.append_assoc, read_escapeChar, ih, Option.map_map]
      rfl

mutual

theorem read_chars : (piece : Html) → (cs : List Char) →
    read (piece.chars ++ cs) = (read cs).map piece.enter
  | .text content, cs => by
      rw [Html.chars]
      exact read_escape content cs
  | .element tag children, cs => by
      rw [Html.chars, List.append_assoc, List.append_assoc]
      show read ((Mark.opening tag).chars ++ (_ ++ ((Mark.closing tag).chars ++ cs))) = _
      rw [read_mark, read_charsOfList children, read_mark, Option.map_map, Option.map_map]
      refine congrArg (Option.map · _) (funext fun r => ?_)
      simp only [Function.comp_apply, Html.enter]

theorem read_charsOfList : (pieces : List Html) → (cs : List Char) →
    read (Html.charsOfList pieces ++ cs) = (read cs).map (Html.enterAll pieces)
  | [], cs => by
      simp [Html.charsOfList, Html.enterAll]
  | piece :: rest, cs => by
      rw [Html.charsOfList, List.append_assoc, read_chars piece, read_charsOfList rest,
        Option.map_map]
      refine congrArg (Option.map · _) (funext fun r => ?_)
      simp only [Function.comp_apply, Html.enterAll]

end

theorem read_render (f : Fragment) : read f.render.toList = some (Html.enterAll f .empty) := by
  have h := read_charsOfList f []
  rw [List.append_nil] at h
  rw [Fragment.render, String.toList_ofList, h, read_nil, Option.map_some]

/-! ## Balance -/

/-- Whether every tag at the end of an element ends the element that was begun last and
has not been ended, and all elements are ended; `begun` are the elements that are open
already, the last one first. -/
def nested : List Tag → List Mark → Bool
  | [], [] => true
  | _ :: _, [] => false
  | begun, .opening tag :: rest => nested (tag :: begun) rest
  | [], .closing _ :: _ => false
  | last :: begun, .closing tag :: rest => last == tag && nested begun rest

mutual

/-- A piece leaves open what was open before it. -/
theorem nested_enter : (piece : Html) → (begun : List Tag) → (r : Reading) →
    nested begun (piece.enter r).marks = nested begun r.marks
  | .text content, begun, r => by
      rw [Html.enter]
      rfl
  | .element tag children, begun, r => by
      -- the first tag opens the element, the children leave it open, the last tag closes it
      rw [Html.enter]
      show nested begun (.opening tag :: _) = _
      rw [nested]
      refine (nested_enterAll children (tag :: begun) _).trans ?_
      show nested (tag :: begun) (.closing tag :: r.marks) = _
      rw [nested, beq_self_eq_true, Bool.true_and]

theorem nested_enterAll : (pieces : List Html) → (begun : List Tag) → (r : Reading) →
    nested begun (Html.enterAll pieces r).marks = nested begun r.marks
  | [], begun, r => by rw [Html.enterAll]
  | piece :: rest, begun, r => by
      rw [Html.enterAll, nested_enter piece, nested_enterAll rest]

end

end Draftsman.Explanation
