/-
Texts that are cut into pieces.

The pieces hold what stands between the cuts, and nothing that is a cut itself. A character
put behind a text joins its last piece, and two texts with a cut between them have the pieces
of the one and then those of the other. For lines this leaves one difference: the last line of
a text keeps a carriage return that it would lose in front of a line feed. What is the same for
a line with and without it can therefore be gathered from two texts apart
(`flatMap_lines_append`).
-/
import Draftsman.Text.Blank
import Mathlib.Data.List.Basic
import Mathlib.Data.List.TakeWhile

set_option autoImplicit false

namespace Draftsman.Text

/-! ## Pieces -/

section Pieces

variable {α : Type*} {p : α → Bool} {items piece : List α}

/-- The pieces between cuts hold items of the list that are no cuts. -/
theorem forall_mem_splitOnP (h : piece ∈ items.splitOnP p) :
    ∀ t ∈ piece, t ∈ items ∧ p t = false := by
  induction items generalizing piece with
  | nil =>
    rw [List.splitOnP_nil, List.mem_singleton] at h
    exact fun t ht => absurd (h ▸ ht) List.not_mem_nil
  | cons u items ih =>
    have later : ∀ piece ∈ items.splitOnP p, ∀ t ∈ piece, t ∈ u :: items ∧ p t = false :=
      fun piece hpiece t ht => ⟨List.mem_cons_of_mem u (ih hpiece t ht).1, (ih hpiece t ht).2⟩
    rw [List.splitOnP_cons_eq_if_modifyHead] at h
    split_ifs at h with hu
    · -- the item is a cut, and an empty piece stands in front of it
      rcases List.mem_cons.mp h with rfl | h
      · exact fun t ht => absurd ht List.not_mem_nil
      · exact later piece h
    · -- the item joins the first piece, whatever that is
      cases hpieces : items.splitOnP p with
      | nil => exact absurd hpieces (List.splitOnP_ne_nil p items)
      | cons first pieces =>
        rw [hpieces, List.modifyHead_cons] at h
        rcases List.mem_cons.mp h with rfl | h
        · intro t ht
          rcases List.mem_cons.mp ht with rfl | ht
          · exact ⟨List.mem_cons_self, Bool.eq_false_iff.mpr hu⟩
          · exact later first (by rw [hpieces]; exact List.mem_cons_self) t ht
        · exact later piece (by rw [hpieces]; exact List.mem_cons_of_mem first h)

/-- Pieces with a separator between them hold what the pieces and the separator hold. -/
theorem forall_mem_intercalate {P : α → Prop} {separator : List α} {pieces : List (List α)}
    (hseparator : ∀ t ∈ separator, P t) (h : ∀ piece ∈ pieces, ∀ t ∈ piece, P t) :
    ∀ t ∈ separator.intercalate pieces, P t := by
  induction pieces with
  | nil =>
    intro t ht
    exact absurd ht List.not_mem_nil
  | cons piece pieces ih =>
    have hpiece := h piece List.mem_cons_self
    have hrest := ih fun other hother => h other (List.mem_cons_of_mem piece hother)
    cases pieces with
    | nil => rwa [List.intercalate_singleton]
    | cons next pieces =>
      rw [List.intercalate_cons_cons]
      intro t ht
      rcases List.mem_append.mp ht with ht | ht
      · rcases List.mem_append.mp ht with ht | ht
        · exact hpiece t ht
        · exact hseparator t ht
      · exact hrest t ht

theorem takeWhile_concat {c : α} (hc : p c = false) (items : List α) :
    (items ++ [c]).takeWhile p = items.takeWhile p := by
  induction items with
  | nil => rw [List.nil_append, List.takeWhile_cons_of_neg (by simp [hc]), List.takeWhile_nil]
  | cons u items ih => rw [List.cons_append, List.takeWhile_cons, List.takeWhile_cons, ih]

theorem dropWhile_concat {c : α} (hc : p c = false) (items : List α) :
    (items ++ [c]).dropWhile p = items.dropWhile p ++ [c] := by
  induction items with
  | nil => exact List.dropWhile_cons_of_neg (by simp [hc])
  | cons u items ih =>
    rw [List.cons_append, List.dropWhile_cons, List.dropWhile_cons, ih]
    split_ifs
    · rfl
    · rfl

/-- An item that is no cut, put behind a list, joins the last piece. -/
theorem exists_splitOnP_concat {c : α} (hc : p c = false) (items : List α) :
    ∃ pieces last, items.splitOnP p = pieces ++ [last] ∧
      (items ++ [c]).splitOnP p = pieces ++ [last ++ [c]] := by
  induction items with
  | nil =>
    refine ⟨[], [], List.splitOnP_nil, ?_⟩
    exact List.splitOnP_eq_singleton fun d hd => List.mem_singleton.mp hd ▸ hc
  | cons u items ih =>
    obtain ⟨pieces, last, hpieces, hconcat⟩ := ih
    rw [List.cons_append, List.splitOnP_cons_eq_if_modifyHead, List.splitOnP_cons_eq_if_modifyHead,
      hpieces, hconcat]
    split_ifs
    · exact ⟨[] :: pieces, last, rfl, rfl⟩
    · cases pieces with
      | nil => exact ⟨[], u :: last, rfl, rfl⟩
      | cons first pieces => exact ⟨(u :: first) :: pieces, last, rfl, rfl⟩

/-- Items with a property, in front of a rest that does not begin with one. -/
theorem takeWhile_append_of_cut {a r : List α} (ha : ∀ t ∈ a, p t = true)
    (hr : ∀ t ∈ r.head?, p t = false) : (a ++ r).takeWhile p = a := by
  rw [List.takeWhile_append_of_pos ha]
  cases r with
  | nil => rw [List.takeWhile_nil, List.append_nil]
  | cons t r =>
    rw [List.takeWhile_cons_of_neg (by rw [hr t rfl]; exact Bool.false_ne_true), List.append_nil]

theorem dropWhile_append_of_cut {a r : List α} (ha : ∀ t ∈ a, p t = true)
    (hr : ∀ t ∈ r.head?, p t = false) : (a ++ r).dropWhile p = r := by
  rw [List.dropWhile_append_of_pos ha]
  cases r with
  | nil => rfl
  | cons t r => rw [List.dropWhile_cons_of_neg (by rw [hr t rfl]; exact Bool.false_ne_true)]

theorem dropEndWhile_append_of_cut {p : Char → Bool} {a r : List Char}
    (ha : ∀ t ∈ a.getLast?, p t = false) (hr : ∀ t ∈ r, p t = true) :
    dropEndWhile p (a ++ r) = a := by
  rw [dropEndWhile, List.reverse_append, dropWhile_append_of_cut, List.reverse_reverse]
  · exact fun t ht => hr t (List.mem_reverse.mp ht)
  · exact fun t ht => ha t (List.head?_reverse ▸ ht)

/-- Every list is items with a property, in front of a rest that does not begin with one. -/
theorem exists_cut (p : α → Bool) (items : List α) :
    ∃ a r, items = a ++ r ∧ (∀ t ∈ a, p t = true) ∧ ∀ t ∈ r.head?, p t = false := by
  refine ⟨items.takeWhile p, items.dropWhile p, List.takeWhile_append_dropWhile.symm,
    fun t ht => List.mem_takeWhile_imp ht, fun t ht => ?_⟩
  have h := List.head?_dropWhile_not p items
  rw [Option.mem_def.mp ht] at h
  simpa using h

/-- A list is cut in one way only into items with a property and a rest that does not begin
with one. -/
theorem append_inj_of_cut {a b r r' : List α} (ha : ∀ t ∈ a, p t = true)
    (hb : ∀ t ∈ b, p t = true) (hr : ∀ t ∈ r.head?, p t = false) (hr' : ∀ t ∈ r'.head?, p t = false)
    (h : a ++ r = b ++ r') : a = b ∧ r = r' := by
  have hpiece : a = b := by
    rw [← takeWhile_append_of_cut ha hr, h, takeWhile_append_of_cut hb hr']
  rw [hpiece] at h
  exact ⟨hpiece, List.append_cancel_left h⟩

/-- Two texts before a rest are the same if neither begins the other unless it is the other. -/
theorem append_inj_of_prefix {a b r r' : List α} (hab : a <+: b → a = b) (hba : b <+: a → b = a)
    (h : a ++ r = b ++ r') : a = b ∧ r = r' := by
  have heq : a = b := by
    have hprefix : b <+: a ++ r := h ▸ List.prefix_append b r'
    rcases List.prefix_or_prefix_of_prefix (List.prefix_append a r) hprefix with hp | hp
    · exact hab hp
    · exact (hba hp).symm
  rw [heq] at h
  exact ⟨heq, List.append_cancel_left h⟩

end Pieces

/-! ## Lines -/

/-- Lines of a text in front of a line feed all lose a carriage return, the last one too. -/
theorem lines_append (a b : List Char) :
    lines (a ++ '\n' :: b) = (a.splitOnP (· == '\n')).map dropReturn ++ lines b := by
  have hne : b.splitOnP (· == '\n') ≠ [] := List.splitOnP_ne_nil _ b
  rw [lines, List.splitOnP_append_cons (p := (· == '\n')) _ _ (beq_self_eq_true '\n')]
  rw [List.dropLast_append_of_ne_nil hne, List.getLast?_append_of_ne_nil _ hne, List.map_append,
    List.append_assoc]
  rfl

theorem lines_eq_of_splitOnP {a last : List Char} {pieces : List (List Char)}
    (h : a.splitOnP (· == '\n') = pieces ++ [last]) :
    lines a = pieces.map dropReturn ++ if last = [] then [] else [last] := by
  rw [lines, h, List.dropLast_concat, List.getLast?_concat]
  cases last with
  | nil => rfl
  | cons c last => rfl

/-- A text without line feeds is one line. -/
theorem lines_eq_singleton {line : List Char} (hne : line ≠ []) (h : ∀ c ∈ line, c ≠ '\n') :
    lines line = [line] := by
  have hpieces : line.splitOnP (· == '\n') = [] ++ [line] :=
    List.splitOnP_eq_singleton fun c hc => beq_eq_false_iff_ne.mpr (h c hc)
  rw [lines_eq_of_splitOnP hpieces, if_neg hne]
  rfl

/-- A text of one line is that line, with a line end behind it or without one. -/
theorem exists_lineEnd_of_lines {cs line : List Char} (h : lines cs = [line]) :
    ∃ ending, cs = line ++ ending ∧ ∀ c ∈ ending, c = '\r' ∨ c = '\n' := by
  obtain ⟨pieces, last, hpieces⟩ :=
    (List.eq_nil_or_concat' (cs.splitOnP (· == '\n'))).resolve_left (List.splitOnP_ne_nil _ cs)
  have hjoined : ['\n'].intercalate (pieces ++ [last]) = cs :=
    hpieces ▸ List.intercalate_splitOn '\n'
  rw [lines_eq_of_splitOnP hpieces] at h
  split_ifs at h with hlast
  · -- the only line is in front of a line feed
    rw [List.append_nil, List.map_eq_singleton_iff] at h
    obtain ⟨piece, rfl, rfl⟩ := h
    have hcs : cs = piece ++ ['\n'] := by
      rw [← hjoined, hlast]
      simp [List.intercalate_cons_cons]
    unfold dropReturn
    split
    · rename_i hreturn
      obtain ⟨line, rfl⟩ := List.getLast?_eq_some_iff.mp hreturn
      exact ⟨['\r', '\n'], by simpa using hcs, by simp⟩
    · exact ⟨['\n'], hcs, by simp⟩
  · have hnil : pieces = [] := by
      have hlength := congrArg List.length h
      simpa using hlength
    subst hnil
    have hline : last = line := by simpa using h
    exact ⟨[], by rw [← hjoined, hline]; simp, fun c hc => absurd hc List.not_mem_nil⟩

/-- **What is gathered line by line from two texts is gathered from each of them**, if an
empty line gives nothing and a carriage return at the end of a line makes no difference. -/
theorem flatMap_lines_append {β : Type*} {f : List Char → List β} (hempty : f [] = [])
    (hreturn : ∀ line, f (line ++ ['\r']) = f line) (a b : List Char) :
    (lines (a ++ '\n' :: b)).flatMap f = (lines a).flatMap f ++ (lines b).flatMap f := by
  obtain ⟨pieces, last, hpieces⟩ :=
    (List.eq_nil_or_concat' (a.splitOnP (· == '\n'))).resolve_left (List.splitOnP_ne_nil _ a)
  have hdropReturn : f (dropReturn last) = f last := by
    unfold dropReturn
    split
    · rename_i h
      obtain ⟨line, rfl⟩ := List.getLast?_eq_some_iff.mp h
      rw [List.dropLast_concat, hreturn]
    · rfl
  rw [lines_append, lines_eq_of_splitOnP hpieces, hpieces]
  simp only [List.map_append, List.map_cons, List.map_nil, List.flatMap_append,
    List.flatMap_singleton, hdropReturn]
  by_cases hlast : last = []
  · rw [if_pos hlast, hlast, hempty]
    rfl
  · rw [if_neg hlast, List.flatMap_singleton]

end Draftsman.Text
