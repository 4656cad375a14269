/-
What the smallest readers take off a text, and that nothing else decides how it is taken.

Every reader takes a piece off the front of its text. For each of them two things are said
at once, since both go by the same cases (`Taken`). The piece is what the grammar allows
there. And it is read alike if less follows it: what comes after a number ends it, so the
rest may be cut off anywhere, but not exchanged.
-/
import Draftsman.Json.Numeral
import Draftsman.Proofs.Json.Grammar

set_option autoImplicit false

namespace Draftsman.Json.Grammar

/-! ## What readers take -/

section Readers

variable {ε α : Type} {R : List Char → List Char → Prop}

/-- The reader reads `v` and leaves `rest`. -/
def Reads (read : (cs : List Char) → Except ε (α × { rest : List Char // R rest cs }))
    (cs : List Char) (v : α) (rest : List Char) : Prop := ∃ h, read cs = .ok (v, ⟨rest, h⟩)

/-- What the reader reads as `v`, leaving `rest`, is a piece with `P`, and the piece is read
the same if not all of what follows it is there. -/
def Taken (read : (cs : List Char) → Except ε (α × { rest : List Char // R rest cs }))
    (P : List Char → Prop) (cs : List Char) (v : α) (rest : List Char) : Prop :=
  ∃ t, P t ∧ cs = t ++ rest ∧ ∀ r, r <+: rest → Reads read (t ++ r) v r

/-- Two steps that succeed alike read the same and leave the same. -/
theorem ok_inj {β : Type} {a a' : α} {b b' : β}
    (h : (Except.ok (a, b) : Except ε (α × β)) = .ok (a', b')) : a = a' ∧ b = b' :=
  Prod.mk.inj (Except.ok.inj h)

/-- A text cut off after a piece is cut off after what precedes the piece. -/
theorem prefix_of_eq_append {t r more rest : List Char} (hmore : more = t ++ rest)
    (hr : r <+: rest) : t ++ r <+: more := hmore ▸ (List.prefix_append_right_inj t).mpr hr

end Readers

/-! ## Keywords -/

theorem eq_append_of_scanKeyword {letters cs : List Char} {rest : NoLonger cs}
    (h : scanKeyword letters cs = .ok rest) : cs = letters ++ rest.1 := by
  induction letters generalizing cs with
  | nil =>
    rw [scanKeyword] at h
    rw [← Except.ok.inj h]
    rfl
  | cons l letters ih =>
    cases cs with
    | nil => exact absurd h (by simp [scanKeyword])
    | cons c cs =>
      rw [scanKeyword] at h
      split at h
      · rename_i hc
        split at h
        · exact absurd h (by simp)
        · rename_i rest' hle hrest
          have htail := ih hrest
          rw [← Except.ok.inj h, hc]
          exact congrArg (c :: ·) htail
      · exact absurd h (by simp)

theorem scanKeyword_append (letters r : List Char) :
    ∃ h, scanKeyword letters (letters ++ r) = .ok ⟨r, h⟩ := by
  induction letters with
  | nil => exact ⟨_, rfl⟩
  | cons l letters ih =>
    obtain ⟨h, ih⟩ := ih
    rw [List.cons_append, scanKeyword, if_pos rfl, ih]
    exact ⟨_, rfl⟩

/-! ## String literals -/

theorem isHexDigit_of_hexValue? {c : Char} {n : Nat} (h : hexValue? c = some n) :
    isHexDigit c = true := by
  simp only [hexValue?, Bool.and_eq_true, decide_eq_true_eq] at h
  simp only [isHexDigit, Bool.or_eq_true, Bool.and_eq_true, decide_eq_true_eq, Char.isDigit]
  split at h
  · rename_i hdigit
    exact .inl (.inl hdigit)
  · split at h
    · rename_i hsmall
      exact .inl (.inr hsmall)
    · split at h
      · rename_i hlarge
        exact .inr hlarge
      · exact absurd h (by simp)

/-- An escape of four digits, without its beginning. -/
def IsCode (t : List Char) : Prop := LiteralChar ('\\' :: 'u' :: t)

theorem isCode_of_hexValue4? {a b c d : Char} {n : Nat} (h : hexValue4? a b c d = some n) :
    IsCode [a, b, c, d] := by
  simp only [hexValue4?, Option.bind_eq_bind, Option.bind_eq_some_iff] at h
  obtain ⟨va, ha, vb, hb, vc, hc, vd, hd, -⟩ := h
  refine .code fun x hx => ?_
  simp only [List.mem_cons, List.not_mem_nil, or_false] at hx
  rcases hx with rfl | rfl | rfl | rfl
  · exact isHexDigit_of_hexValue? ha
  · exact isHexDigit_of_hexValue? hb
  · exact isHexDigit_of_hexValue? hc
  · exact isHexDigit_of_hexValue? hd

theorem taken_of_scanHex {cs : List Char} {n : Nat} {rest : Shorter cs}
    (h : scanHex cs = .ok (n, rest)) : Taken scanHex IsCode cs n rest.1 := by
  unfold scanHex at h
  split at h
  · rename_i a b c d tail
    split at h
    · rename_i m hm
      obtain ⟨hn, hrest⟩ := ok_inj h
      rw [← hn, ← hrest]
      refine ⟨[a, b, c, d], isCode_of_hexValue4? hm, rfl, fun r _ => ?_⟩
      unfold Reads scanHex
      dsimp only [List.cons_append, List.nil_append]
      rw [hm]
      exact ⟨_, rfl⟩
    · exact absurd h (by simp)
  · split at h <;> exact absurd h (by simp)

theorem LiteralBody.of_char {x : List Char} (h : LiteralChar x) : LiteralBody x := by
  rw [← List.append_nil x]
  exact .cons h .nil

theorem LiteralBody.append {a b : List Char} (ha : LiteralBody a) (hb : LiteralBody b) :
    LiteralBody (a ++ b) := by
  induction ha with
  | nil => exact hb
  | cons hx _ ih =>
    rw [List.append_assoc]
    exact .cons hx ih

/-- One code, or two for a character beyond the first plane: either way the backslash and
the letter before it complete a piece of a literal. -/
theorem taken_of_scanCode {cs : List Char} {x : Char} {rest : Shorter cs}
    (h : scanCode cs = .ok (x, rest)) :
    Taken scanCode (fun t => LiteralBody ('\\' :: 'u' :: t)) cs x rest.1 := by
  unfold scanCode at h
  split at h
  · exact absurd h (by simp)
  · rename_i n tail hlt hn
    obtain ⟨t, ht, hcs, hreads⟩ := taken_of_scanHex hn
    split at h
    · exact absurd h (by simp)
    · rename_i htrailing
      split at h
      · -- a character of the first plane, which is one code
        rename_i hleading
        obtain ⟨hx, hrest⟩ := ok_inj h
        rw [← hx, ← hrest]
        refine ⟨t, .of_char ht, hcs, fun r hr => ?_⟩
        obtain ⟨hlt', hread⟩ := hreads r hr
        unfold Reads scanCode
        rw [hread]
        dsimp only
        rw [if_neg htrailing, if_pos hleading]
        exact ⟨_, rfl⟩
      · rename_i hleading
        split at h
        · exact absurd h (by simp)
        · rename_i more hlt'
          split at h
          · exact absurd h (by simp)
          · rename_i m tail' hlt'' hm
            obtain ⟨u, hu, hmore, hreads'⟩ := taken_of_scanHex hm
            split at h
            · -- a pair: the second escape belongs to the piece as a whole
              rename_i hpair
              obtain ⟨hx, hrest⟩ := ok_inj h
              rw [← hx, ← hrest]
              refine ⟨t ++ '\\' :: 'u' :: u, .cons ht (.of_char hu), ?_, fun r hr => ?_⟩
              · rw [List.append_assoc]
                exact hcs.trans (congrArg (t ++ '\\' :: 'u' :: ·) hmore)
              · have hcut : '\\' :: 'u' :: (u ++ r) <+: '\\' :: 'u' :: more :=
                  prefix_of_eq_append (t := ['\\', 'u']) rfl (prefix_of_eq_append hmore hr)
                obtain ⟨hlt₁, hread⟩ := hreads _ hcut
                obtain ⟨hlt₂, hread'⟩ := hreads' r hr
                rw [List.append_assoc, List.cons_append, List.cons_append]
                simp only [List.length_cons] at hlt₁
                refine ⟨by omega, ?_⟩
                simp only [scanCode, hread, hread', if_neg htrailing, if_neg hleading, if_pos hpair]
            · exact absurd h (by simp)
        · exact absurd h (by simp)
        · exact absurd h (by simp)

theorem mem_of_escapedChar? {c x : Char} (h : escapedChar? c = some x) :
    c ∈ ['"', '\\', '/', 'b', 'f', 'n', 'r', 't'] := by
  unfold escapedChar? at h
  split at h
  case h_9 => exact absurd h (by simp)
  all_goals decide

theorem reads_scanEscape_letter {letter c : Char} (hletter : escapedChar? letter = some c)
    (hu : letter ≠ 'u') (cs : List Char) : Reads scanEscape ([letter] ++ cs) c cs := by
  unfold Reads scanEscape
  dsimp only [List.cons_append, List.nil_append]
  rw [if_neg hu, hletter]
  exact ⟨Nat.lt_succ_self _, rfl⟩

theorem taken_of_scanEscape {cs : List Char} {x : Char} {rest : Shorter cs}
    (h : scanEscape cs = .ok (x, rest)) :
    Taken scanEscape (fun t => LiteralBody ('\\' :: t)) cs x rest.1 := by
  unfold scanEscape at h
  split at h
  · exact absurd h (by simp)
  · rename_i c tail
    split at h
    · rename_i hu
      split at h
      · exact absurd h (by simp)
      · rename_i y more hcode
        obtain ⟨t, ht, htail, hreads⟩ := taken_of_scanCode hcode
        obtain ⟨hx, hrest⟩ := ok_inj h
        rw [← hx, ← hrest, hu]
        refine ⟨'u' :: t, ht, congrArg ('u' :: ·) htail, fun r hr => ?_⟩
        obtain ⟨hlt, hread⟩ := hreads r hr
        unfold Reads scanEscape
        dsimp only [List.cons_append]
        rw [if_pos rfl, hread]
        exact ⟨_, rfl⟩
    · rename_i hu
      split at h
      · rename_i y hy
        obtain ⟨hx, hrest⟩ := ok_inj h
        rw [← hx, ← hrest]
        exact ⟨[c], .of_char (.escape (mem_of_escapedChar? hy)), rfl, fun r _ =>
          reads_scanEscape_letter hy hu r⟩
      · exact absurd h (by simp)

section Strings

variable {cs text : List Char}

theorem reads_scanString_quote (rest : List Char) : Reads scanString ('"' :: rest) [] rest := by
  unfold Reads scanString
  rw [if_pos rfl]
  exact ⟨Nat.lt_succ_self _, rfl⟩

/-- A character that stands for itself. -/
theorem reads_scanString_plain {c : Char} (hquote : c ≠ '"') (hbackslash : c ≠ '\\')
    (hcontrol : ¬c.toNat < 0x20) {rest : List Char}
    (h : Reads scanString cs text rest) :
    Reads scanString (c :: cs) (c :: text) rest := by
  obtain ⟨hlt, hread⟩ := h
  unfold Reads scanString
  rw [if_neg hquote, if_neg hbackslash, if_neg hcontrol, hread]
  exact ⟨Nat.lt_succ_of_lt hlt, rfl⟩

/-- A character that is written by an escape. -/
theorem reads_scanString_escape {escape : List Char} {c : Char}
    (hescape : Reads scanEscape (escape ++ cs) c cs) {rest : List Char}
    (h : Reads scanString cs text rest) :
    Reads scanString ('\\' :: (escape ++ cs)) (c :: text) rest := by
  obtain ⟨hlt, hescape⟩ := hescape
  obtain ⟨hlt', hread⟩ := h
  unfold Reads scanString
  rw [if_neg (by decide), if_pos rfl, hescape]
  dsimp only
  rw [hread]
  exact ⟨Nat.lt_succ_of_lt (Nat.lt_trans hlt' hlt), rfl⟩

/-- What the reader of a literal can do: it ends at a quote, or it reads an escape or a character that
stands for itself and goes on behind them. -/
theorem scanString_cases {rest : Shorter cs} (h : scanString cs = .ok (text, rest)) :
    (∃ tail, cs = '"' :: tail ∧ text = [] ∧ rest.1 = tail) ∨
    (∃ (tail : List Char) (more : Shorter tail) (last : Shorter more.1) (x : Char)
      (later : List Char), cs = '\\' :: tail ∧ scanEscape tail = .ok (x, more) ∧
        scanString more.1 = .ok (later, last) ∧ text = x :: later ∧ rest.1 = last.1) ∨
    ∃ (c : Char) (tail : List Char) (last : Shorter tail) (later : List Char), cs = c :: tail ∧
      c ≠ '"' ∧ c ≠ '\\' ∧ ¬c.toNat < 0x20 ∧ scanString tail = .ok (later, last) ∧
        text = c :: later ∧ rest.1 = last.1 := by
  cases cs with
  | nil =>
    unfold scanString at h
    exact absurd h (by simp)
  | cons c tail =>
    unfold scanString at h
    split at h
    · rename_i hquote
      obtain ⟨rfl, rfl⟩ := ok_inj h
      exact .inl ⟨tail, by rw [hquote], rfl, rfl⟩
    · rename_i hquote
      split at h
      · rename_i hbackslash
        split at h
        · exact absurd h (by simp)
        · rename_i x more hlt hescape
          split at h
          · exact absurd h (by simp)
          · rename_i later last hlater
            obtain ⟨rfl, rfl⟩ := ok_inj h
            exact .inr (.inl ⟨tail, ⟨more, hlt⟩, last, x, later, by rw [hbackslash], hescape, hlater,
              rfl, rfl⟩)
      · rename_i hbackslash
        split at h
        · exact absurd h (by simp)
        · rename_i hcontrol
          split at h
          · exact absurd h (by simp)
          · rename_i later last hlater
            obtain ⟨rfl, rfl⟩ := ok_inj h
            exact .inr (.inr ⟨c, tail, last, later, rfl, hquote, hbackslash, hcontrol, hlater, rfl,
              rfl⟩)

end Strings

/-- A literal stays one with more put before its body. -/
theorem Literal.prepend {t u : List Char} (hu : Literal ('"' :: u)) (ht : LiteralBody t) :
    Literal ('"' :: (t ++ u)) := by
  cases hu with
  | mk hbody =>
    rw [← List.append_assoc]
    exact .mk (ht.append hbody)

/-- **A string literal is read up to its closing quote.** -/
theorem taken_of_scanString {cs text : List Char} {rest : Shorter cs}
    (h : scanString cs = .ok (text, rest)) :
    Taken scanString (fun t => Literal ('"' :: t)) cs text rest.1 := by
  rcases scanString_cases h with ⟨tail, rfl, rfl, hrest⟩ |
    ⟨tail, more, last, x, later, rfl, hescape, hlater, rfl, hrest⟩ |
    ⟨c, tail, last, later, rfl, hquote, hbackslash, hcontrol, hlater, rfl, hrest⟩
  · -- the closing quote
    rw [hrest]
    exact ⟨['"'], .mk .nil, rfl, fun r _ => reads_scanString_quote r⟩
  · -- an escape, and the rest of the literal after it
    rw [hrest]
    obtain ⟨t, ht, htail, hreads⟩ := taken_of_scanEscape hescape
    obtain ⟨u, hu, hmore, hreads'⟩ := taken_of_scanString hlater
    refine ⟨'\\' :: (t ++ u), hu.prepend ht, ?_, fun r hr => ?_⟩
    · rw [List.cons_append, List.append_assoc, ← hmore, ← htail]
    · rw [List.cons_append, List.append_assoc]
      exact reads_scanString_escape (hreads _ (prefix_of_eq_append hmore hr)) (hreads' r hr)
  · -- a character that stands for itself
    rw [hrest]
    obtain ⟨t, ht, htail, hreads⟩ := taken_of_scanString hlater
    have hplain : LiteralBody [c] :=
      .of_char (.plain hquote hbackslash (Nat.le_of_not_lt hcontrol))
    exact ⟨c :: t, ht.prepend hplain, congrArg (c :: ·) htail, fun r hr =>
      reads_scanString_plain hquote hbackslash hcontrol (hreads r hr)⟩
termination_by cs.length
decreasing_by
  · subst_vars
    exact Nat.lt_succ_of_lt more.2
  · subst_vars
    exact Nat.lt_succ_self _

/-! ## Numbers -/

/-- Digits end where something else follows, or nothing. -/
theorem takeWhile_dropWhile_of_cut {p : Char → Bool} {ds cs r : List Char}
    (hds : ∀ d ∈ ds, p d = true) (hr : r <+: cs.dropWhile p) :
    (ds ++ r).takeWhile p = ds ∧ (ds ++ r).dropWhile p = r := by
  rw [List.takeWhile_append_of_pos hds, List.dropWhile_append_of_pos hds]
  cases r with
  | nil => exact ⟨List.append_nil ds, rfl⟩
  | cons c r =>
    obtain ⟨s, hs⟩ := hr
    -- `c` is where the digits ended before the cut
    have hc : p c = false := by
      have hhead := List.head?_dropWhile_not p cs
      rw [← hs, List.cons_append, List.head?_cons] at hhead
      simpa using hhead
    rw [List.takeWhile_cons_of_neg (by rw [hc]; exact Bool.false_ne_true),
      List.dropWhile_cons_of_neg (by rw [hc]; exact Bool.false_ne_true), List.append_nil]
    exact ⟨rfl, rfl⟩

theorem taken_of_scanDigits {cs ds : List Char} {rest : Shorter cs}
    (h : scanDigits cs = .ok (ds, rest)) : Taken scanDigits IsDigits cs ds rest.1 := by
  unfold scanDigits at h
  split at h
  · exact absurd h (by simp)
  · rename_i c tail
    split at h
    · rename_i hdigit
      obtain ⟨hds, hrest⟩ := ok_inj h
      rw [← hds, ← hrest]
      have hmore : ∀ d ∈ tail.takeWhile Char.isDigit, d.isDigit = true :=
        fun d hd => List.mem_takeWhile_imp hd
      refine ⟨c :: tail.takeWhile Char.isDigit, ⟨List.cons_ne_nil _ _, ?_⟩, ?_, fun r hr => ?_⟩
      · intro d hd
        rcases List.mem_cons.mp hd with rfl | hd
        · exact hdigit
        · exact hmore d hd
      · exact congrArg (c :: ·) List.takeWhile_append_dropWhile.symm
      · obtain ⟨htake, hdrop⟩ := takeWhile_dropWhile_of_cut hmore hr
        refine ⟨by simp only [List.cons_append, List.length_cons, List.length_append]; omega, ?_⟩
        simp only [List.cons_append, scanDigits, if_pos hdigit, htake, hdrop]
    · exact absurd h (by simp)

theorem scanWhole_eq_scanDigits {c : Char} (hc : c ≠ '0') (cs : List Char) :
    scanWhole (c :: cs) = scanDigits (c :: cs) :=
  scanWhole.eq_2 (c :: cs) fun _ h => hc (List.cons.inj h).1

theorem taken_of_scanWhole {cs ds : List Char} {rest : Shorter cs}
    (h : scanWhole cs = .ok (ds, rest)) : Taken scanWhole Whole cs ds rest.1 := by
  unfold scanWhole at h
  split at h
  · rename_i tail
    split at h
    · exact absurd h (by simp)
    · rename_i hnext
      obtain ⟨hds, hrest⟩ := ok_inj h
      rw [← hds, ← hrest]
      refine ⟨['0'], .zero, rfl, fun r hr => ⟨Nat.lt_succ_self _, ?_⟩⟩
      -- a cut adds no digit after the zero
      have hnext' : ¬ r.head?.any Char.isDigit = true := by
        cases r with
        | nil => exact Bool.false_ne_true
        | cons c r =>
          obtain ⟨s, hs⟩ := hr
          have htail : tail = c :: r ++ s := hs.symm
          rw [htail] at hnext
          exact hnext
      simp only [List.cons_append, List.nil_append, scanWhole, if_neg hnext']
      rfl
  · rename_i hzero
    obtain ⟨t, ht, hcs, hreads⟩ := taken_of_scanDigits h
    cases t with
    | nil => exact absurd rfl ht.ne_nil
    | cons d t =>
      have hd : d ≠ '0' := by
        rintro rfl
        exact hzero _ hcs
      refine ⟨d :: t, .digits hd ht, hcs, fun r hr => ?_⟩
      obtain ⟨hlt, hread⟩ := hreads r hr
      exact ⟨hlt, (scanWhole_eq_scanDigits hd (t ++ r)).trans hread⟩

theorem taken_of_scanFraction {cs ds : List Char} {rest : NoLonger cs}
    (h : scanFraction cs = .ok (ds, rest)) : Taken scanFraction Fraction cs ds rest.1 := by
  unfold scanFraction at h
  split at h
  · split at h
    · exact absurd h (by simp)
    · rename_i digits rest' hdigits
      obtain ⟨t, ht, htail, hreads⟩ := taken_of_scanDigits hdigits
      obtain ⟨hds, hrest⟩ := ok_inj h
      rw [← hds, ← hrest]
      refine ⟨'.' :: t, .digits ht, congrArg ('.' :: ·) htail, fun r hr => ?_⟩
      obtain ⟨hlt', hread⟩ := hreads r hr
      refine ⟨by simp only [List.cons_append, List.length_cons]; omega, ?_⟩
      simp only [List.cons_append, scanFraction, hread]
      rfl
  · -- no fraction: a cut brings no point to the front
    rename_i hpoint
    obtain ⟨hds, hrest⟩ := ok_inj h
    rw [← hds, ← hrest]
    refine ⟨[], .none, rfl, fun r hr => ?_⟩
    rw [List.nil_append]
    refine ⟨Nat.le_refl _, ?_⟩
    unfold scanFraction
    split
    · rename_i tail
      obtain ⟨s, hs⟩ := hr
      exact absurd hs.symm (hpoint (tail ++ s))
    · rfl

/-- Whether there is a sign does not depend on what follows the sign. -/
theorem taken_of_dropSign {cs : List Char} {negative : Bool} {rest : NoLonger cs}
    (h : dropSign cs = (negative, rest)) :
    ∃ sign, (sign = [] ∨ sign = ['+'] ∨ sign = ['-']) ∧ cs = sign ++ rest.1 ∧
      ∀ r, r <+: rest.1 → ∃ h, dropSign (sign ++ r) = (negative, ⟨r, h⟩) := by
  unfold dropSign at h
  split at h
  · obtain ⟨hneg, hrest⟩ := Prod.mk.inj h
    rw [← hneg, ← hrest]
    exact ⟨['+'], .inr (.inl rfl), rfl, fun r _ => ⟨Nat.le_succ _, rfl⟩⟩
  · obtain ⟨hneg, hrest⟩ := Prod.mk.inj h
    rw [← hneg, ← hrest]
    exact ⟨['-'], .inr (.inr rfl), rfl, fun r _ => ⟨Nat.le_succ _, rfl⟩⟩
  · rename_i hplus hminus
    obtain ⟨hneg, hrest⟩ := Prod.mk.inj h
    rw [← hneg, ← hrest]
    refine ⟨[], .inl rfl, rfl, fun r hr => ?_⟩
    obtain ⟨s, hs⟩ := hr
    rw [List.nil_append]
    refine ⟨Nat.le_refl _, ?_⟩
    unfold dropSign
    split
    · rename_i tail
      exact absurd hs.symm (hplus (tail ++ s))
    · rename_i tail
      exact absurd hs.symm (hminus (tail ++ s))
    · rfl

theorem taken_of_scanExponent {cs : List Char} {exponent : Option (Bool × List Char)}
    {rest : NoLonger cs} (h : scanExponent cs = .ok (exponent, rest)) :
    Taken scanExponent Exponent cs exponent rest.1 := by
  unfold scanExponent at h
  split at h
  · obtain ⟨hexp, hrest⟩ := ok_inj h
    rw [← hexp, ← hrest]
    refine ⟨[], .none, rfl, fun r hr => ?_⟩
    rw [List.prefix_nil.mp hr]
    exact ⟨Nat.le_refl _, rfl⟩
  · rename_i c tail
    split at h
    · rename_i hmark
      split at h
      rename_i negative unsigned hsign
      obtain ⟨sign, hsign, htail, hsigns⟩ := taken_of_dropSign hsign
      split at h
      · exact absurd h (by simp)
      · rename_i digits last hdigits
        obtain ⟨t, ht, hunsigned, hreads⟩ := taken_of_scanDigits hdigits
        obtain ⟨hexp, hrest⟩ := ok_inj h
        have hlast : rest.1 = last.1 := congrArg Subtype.val hrest.symm
        rw [← hexp, hlast]
        have hc : c = 'e' ∨ c = 'E' := by simpa using hmark
        refine ⟨c :: (sign ++ t), .digits hc hsign ht, ?_, fun r hr => ?_⟩
        · rw [List.cons_append, List.append_assoc, ← hunsigned]
          exact congrArg (c :: ·) htail
        · obtain ⟨hle₁, hdrop⟩ := hsigns _ (prefix_of_eq_append hunsigned hr)
          obtain ⟨hlt₁, hread⟩ := hreads r hr
          rw [List.cons_append, List.append_assoc]
          unfold Reads scanExponent
          dsimp only
          rw [if_pos hmark, hdrop]
          dsimp only
          rw [hread]
          exact ⟨by rw [List.length_cons]; omega, rfl⟩
    · -- no exponent: what is left begins with the same character, or is empty
      rename_i hmark
      obtain ⟨hexp, hrest⟩ := ok_inj h
      rw [← hexp, ← hrest]
      refine ⟨[], .none, rfl, fun r hr => ?_⟩
      rw [List.nil_append]
      refine ⟨Nat.le_refl _, ?_⟩
      rcases List.prefix_cons_iff.mp hr with rfl | ⟨r, rfl, -⟩
      · rfl
      · simp only [scanExponent, if_neg hmark]
        rfl

/-- The parts of a number without its sign. -/
inductive Unsigned : List Char → Prop
  | mk {whole fraction exponent : List Char} : Whole whole → Fraction fraction →
      Exponent exponent → Unsigned (whole ++ (fraction ++ exponent))

theorem taken_of_scanUnsigned {negative : Bool} {cs : List Char} {n : Numeral} {rest : Shorter cs}
    (h : scanUnsigned negative cs = .ok (n, rest)) :
    Taken (scanUnsigned negative) Unsigned cs n rest.1 := by
  unfold scanUnsigned at h
  split at h
  · exact absurd h (by simp)
  · rename_i whole rest₁ h₁
    obtain ⟨t, ht, hcs, hreads₁⟩ := taken_of_scanWhole h₁
    split at h
    · exact absurd h (by simp)
    · rename_i fraction rest₂ h₂
      obtain ⟨u, hu, hrest₁, hreads₂⟩ := taken_of_scanFraction h₂
      split at h
      · exact absurd h (by simp)
      · rename_i exponent rest₃ h₃
        obtain ⟨v, hv, hrest₂, hreads₃⟩ := taken_of_scanExponent h₃
        obtain ⟨hn, hrest⟩ := ok_inj h
        have hlast : rest.1 = rest₃.1 := congrArg Subtype.val hrest.symm
        rw [← hn, hlast]
        refine ⟨t ++ (u ++ v), .mk ht hu hv, ?_, fun r hr => ?_⟩
        · rw [List.append_assoc, List.append_assoc, ← hrest₂, ← hrest₁]
          exact hcs
        · -- the cut is after the exponent, so each part still has the next one after it
          have hcut := prefix_of_eq_append hrest₂ hr
          obtain ⟨hlt, hwhole⟩ := hreads₁ _ (prefix_of_eq_append hrest₁ hcut)
          obtain ⟨hle, hfraction⟩ := hreads₂ _ hcut
          obtain ⟨hle', hexponent⟩ := hreads₃ r hr
          rw [List.append_assoc, List.append_assoc]
          refine ⟨by omega, ?_⟩
          simp only [scanUnsigned, hwhole, hfraction, hexponent]
          rfl

theorem numberText_of_unsigned {sign t : List Char} (hsign : sign = [] ∨ sign = ['-'])
    (h : Unsigned t) : NumberText (sign ++ t) := by
  obtain ⟨hwhole, hfraction, hexponent⟩ := h
  exact .mk hsign hwhole hfraction hexponent

theorem taken_of_scanNumber {negative : Bool} {cs : List Char} {n : Number} {rest : Shorter cs}
    (h : scanNumber negative cs = .ok (n, rest)) :
    Taken (scanNumber negative) Unsigned cs n rest.1 := by
  unfold scanNumber at h
  split at h
  · exact absurd h (by simp)
  · rename_i numeral rest' hnumeral
    obtain ⟨t, ht, hcs, hreads⟩ := taken_of_scanUnsigned hnumeral
    split at h
    · exact absurd h (by simp)
    · rename_i value hvalue
      obtain ⟨hn, hrest⟩ := ok_inj h
      rw [← hn, ← hrest]
      refine ⟨t, ht, hcs, fun r hr => ?_⟩
      obtain ⟨hlt, hread⟩ := hreads r hr
      refine ⟨hlt, ?_⟩
      simp only [scanNumber, hread, hvalue]

end Draftsman.Json.Grammar
