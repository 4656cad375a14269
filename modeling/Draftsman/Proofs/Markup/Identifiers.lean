/-
What is declared under which identifier.

An alias is an identifier whatever the name holds, and it stays one with a number behind it.
The numbered forms of a base all differ, so a search along them comes to one that is not
taken after at most as many steps as there are identifiers taken (`exists_claim_eq`). The
rest is one invariant of the declaration of names: what is added to the declared names are
the new ones in their order, and each gets an identifier that was free until then
(`Adds`).
-/
import Draftsman.Markup.Name
import Mathlib.Data.List.Nodup
import Mathlib.Logic.Function.Basic

set_option autoImplicit false

namespace Draftsman.Markup

open Draftsman.Text

/-! ## What is an identifier -/

theorem isIdentifierPart_underscore : isIdentifierPart '_' = true := rfl

theorem isIdentifierPart_of_isPlainDigit {c : Char} (h : isPlainDigit c = true) :
    isIdentifierPart c = true := by
  rw [isPlainDigit] at h
  rw [isIdentifierPart, isPlainAlphanumeric, Char.isAlphanum, h, Bool.or_true, Bool.true_or]

theorem isIdentifierPart_of_isPlainLetter {c : Char} (h : isPlainLetter c = true) :
    isIdentifierPart c = true := by
  rw [isPlainLetter] at h
  rw [isIdentifierPart, isPlainAlphanumeric, Char.isAlphanum, h, Bool.true_or, Bool.true_or]

theorem not_isPlainDigit_of_isPlainLetter {c : Char} (h : isPlainLetter c = true) :
    isPlainDigit c = false := by
  by_contra hdigit
  simp only [isPlainDigit, Char.isDigit, Bool.not_eq_false, Bool.and_eq_true,
    decide_eq_true_eq] at hdigit
  have hhigh : c.val.toNat ≤ 57 := hdigit.2
  rcases Bool.or_eq_true_iff.mp h with hupper | hlower
  · have hlow : 65 ≤ c.val.toNat := (of_decide_eq_true hupper).1
    omega
  · have hlow : 97 ≤ c.val.toNat := of_decide_eq_true (Bool.and_eq_true_iff.mp hlower).1
    omega

/-- A part that is no digit may begin an identifier. -/
theorem isIdentifier_cons {c : Char} {cs : List Char} (hc : isIdentifierPart c = true)
    (hdigit : isPlainDigit c = false) (hcs : ∀ d ∈ cs, isIdentifierPart d = true) :
    isIdentifier (c :: cs) = true := by
  have hfirst : (isPlainLetter c || c == '_') = true := by
    rw [isPlainDigit] at hdigit
    rw [isIdentifierPart, isPlainAlphanumeric, Char.isAlphanum, hdigit, Bool.or_false] at hc
    exact hc
  rw [isIdentifier, hfirst, Bool.true_and]
  exact List.all_eq_true.mpr hcs

theorem isIdentifier_append {a b : List Char} (ha : isIdentifier a = true)
    (hb : ∀ c ∈ b, isIdentifierPart c = true) : isIdentifier (a ++ b) = true := by
  cases a with
  | nil => exact absurd ha Bool.false_ne_true
  | cons c cs =>
    rw [isIdentifier, Bool.and_eq_true] at ha
    rw [List.cons_append, isIdentifier, ha.1, Bool.true_and, List.all_append, ha.2, Bool.true_and]
    exact List.all_eq_true.mpr hb

theorem forall_mem_sanitize (name : String) : ∀ c ∈ sanitize name, isIdentifierPart c = true := by
  intro c hc
  obtain ⟨d, -, rfl⟩ := List.mem_map.mp hc
  split_ifs with hd
  · exact hd
  · exact isIdentifierPart_underscore

/-- **An alias is an identifier**, whatever the name holds. -/
theorem isIdentifier_aliasOf (name : String) : isIdentifier (aliasOf name) = true := by
  have hparts := forall_mem_sanitize name
  unfold aliasOf
  split
  · rfl
  · rename_i c cs hname
    rw [hname] at hparts
    have hcs : ∀ d ∈ cs, isIdentifierPart d = true := fun d hd =>
      hparts d (List.mem_cons_of_mem c hd)
    split_ifs with hdigit
    · exact isIdentifier_cons isIdentifierPart_underscore rfl hparts
    · exact isIdentifier_cons (hparts c List.mem_cons_self) (Bool.eq_false_iff.mpr hdigit) hcs

/-! ## Numbered identifiers -/

theorem numbered_succ (base : List Char) (n : Nat) :
    numbered base (n + 1) = base ++ '_' :: Nat.toDigits 10 (n + 2) := rfl

theorem isIdentifier_numbered {base : List Char} (h : isIdentifier base = true) (n : Nat) :
    isIdentifier (numbered base n) = true := by
  cases n with
  | zero => exact h
  | succ n =>
    rw [numbered_succ]
    refine isIdentifier_append h fun c hc => ?_
    rcases List.mem_cons.mp hc with rfl | hc
    · exact isIdentifierPart_underscore
    · refine isIdentifierPart_of_isPlainDigit ?_
      exact Nat.isDigit_of_mem_toDigits (by decide) (by decide) hc

/-- No identifier is tried twice: the numbers behind the base can be read back. -/
theorem numbered_injective (base : List Char) : Function.Injective (numbered base) := by
  have hne (n : Nat) : base ≠ numbered base (n + 1) := by
    intro h
    have hlength := congrArg List.length h
    rw [numbered_succ, List.length_append, List.length_cons] at hlength
    omega
  intro m n h
  match m, n with
  | 0, 0 => rfl
  | 0, n + 1 => exact absurd h (hne n)
  | m + 1, 0 => exact absurd h.symm (hne m)
  | m + 1, n + 1 =>
    rw [numbered_succ, numbered_succ] at h
    have hdigits := (List.cons.inj (List.append_cancel_left h)).2
    have hvalue := congrArg (Nat.ofDigitChars 10 · 0) hdigits
    simp only [Nat.ofDigitChars_ten_toDigits] at hvalue
    omega

/-! ## The search for a free identifier -/

/-- The search from the `n`th form on finds the first that is not taken. It strikes what it
passes from the identifiers taken, and since the forms differ, that never makes one free. -/
theorem exists_firstFree_eq (base : List Char) (n : Nat) (taken : List (List Char)) :
    ∃ k, n ≤ k ∧ k ≤ n + taken.length ∧ firstFree base n taken = numbered base k ∧
      numbered base k ∉ taken ∧ ∀ j, n ≤ j → j < k → numbered base j ∈ taken := by
  induction n, taken using firstFree.induct base with
  | case1 n taken htaken ih =>
    obtain ⟨k, hnk, hk, heq, hfree, hpassed⟩ := ih
    have hpos := List.length_pos_of_mem htaken
    rw [List.length_erase_of_mem htaken] at hk
    refine ⟨k, by omega, by omega, ?_, ?_, ?_⟩
    · rw [firstFree, dif_pos htaken, heq]
    · -- the form that is found is not the one that was struck
      have hne : numbered base k ≠ numbered base n := by
        intro h
        have hkn := numbered_injective base h
        omega
      rwa [List.mem_erase_of_ne hne] at hfree
    · intro j hnj hjk
      rcases Nat.eq_or_lt_of_le hnj with rfl | hlt
      · exact htaken
      · exact List.mem_of_mem_erase (hpassed j hlt hjk)
  | case2 n taken hfree =>
    refine ⟨n, Nat.le_refl n, by omega, ?_, hfree, ?_⟩
    · rw [firstFree, dif_neg hfree]
    · intro j hnj hjn
      omega

/-- **The search for an identifier ends**, whatever is taken: after no more forms than there
are identifiers taken, with the first form that is not among them. -/
theorem exists_claim_eq (base : List Char) (taken : List (List Char)) :
    ∃ n ≤ taken.length, claim base taken = numbered base n ∧ numbered base n ∉ taken ∧
      ∀ k < n, numbered base k ∈ taken := by
  obtain ⟨n, -, hn, heq, hfree, hpassed⟩ := exists_firstFree_eq base 0 taken
  exact ⟨n, by omega, heq, hfree, fun k hk => hpassed k (Nat.zero_le k) hk⟩

/-! ## Declaring names -/

section Declaring

variable {base : String → List Char}

theorem isSome_lookup_iff {declared : Declared} {name : String} :
    (declared.lookup name).isSome = true ↔ name ∈ declared.map Prod.fst := by
  induction declared with
  | nil => simp
  | cons d rest ih =>
    rw [List.lookup_cons, List.map_cons, List.mem_cons]
    by_cases hname : name = d.1
    · simp [hname]
    · rw [beq_eq_false_iff_ne.mpr hname, ih]
      simp [hname]

theorem nodup_eraseDups (names : List String) : names.eraseDups.Nodup := by
  induction hlength : names.length using Nat.strongRecOn generalizing names with
  | ind n ih =>
    cases names with
    | nil =>
      rw [List.eraseDups_nil]
      exact List.nodup_nil
    | cons name names =>
      have hshorter : (names.filter fun other => !other == name).length < n := by
        rw [← hlength, List.length_cons]
        exact Nat.lt_succ_of_le (List.length_filter_le _ names)
      rw [List.eraseDups_cons]
      refine List.nodup_cons.mpr ⟨fun hmem => ?_, ih _ hshorter _ rfl⟩
      have hname := (List.mem_filter.mp (List.mem_eraseDups.mp hmem)).2
      simp at hname

theorem removeAll_concat (names known : List String) (name : String) :
    names.removeAll (known ++ [name]) =
      (names.removeAll known).filter fun other => !other == name := by
  rw [List.removeAll, List.removeAll, List.filter_filter]
  refine List.filter_congr fun other _ => ?_
  by_cases hother : other = name
  · simp [hother]
  · simp [hother]

/-- What the declaration of some names adds to the names declared before: those that are new,
each once and in order, under identifiers that were not taken and that differ. -/
structure Adds (base : String → List Char) (declared : Declared) (taken : List (List Char))
    (names : List String) (new : Declared) : Prop where
  declared_eq : (declare base declared taken names).1 = declared ++ new
  taken_eq : (declare base declared taken names).2 = (new.map Prod.snd).reverse ++ taken
  names_eq : new.map Prod.fst = (names.removeAll (declared.map Prod.fst)).eraseDups
  ids_nodup : (new.map Prod.snd).Nodup
  ids_free : ∀ id ∈ new.map Prod.snd, id ∉ taken
  ids_numbered : ∀ d ∈ new, ∃ n, d.2 = numbered (base d.1) n

theorem Adds.nil (declared : Declared) (taken : List (List Char)) :
    Adds base declared taken [] [] := by
  refine ⟨?_, rfl, rfl, List.nodup_nil, ?_, ?_⟩
  · rw [declare, List.append_nil]
  · exact fun id hid => absurd hid List.not_mem_nil
  · exact fun d hd => absurd hd List.not_mem_nil

/-- A name that is declared already adds nothing. -/
theorem Adds.cons_of_mem {declared new : Declared} {taken : List (List Char)} {name : String}
    {names : List String} (hname : name ∈ declared.map Prod.fst)
    (h : Adds base declared taken names new) : Adds base declared taken (name :: names) new := by
  have hdeclare : declare base declared taken (name :: names) =
      declare base declared taken names := by
    rw [declare, if_pos (isSome_lookup_iff.mpr hname)]
  refine ⟨?_, ?_, ?_, h.ids_nodup, h.ids_free, h.ids_numbered⟩
  · rw [hdeclare, h.declared_eq]
  · rw [hdeclare, h.taken_eq]
  · rw [List.cons_removeAll, if_neg (by simpa using hname), h.names_eq]

/-- A new name comes first among what is added, and its identifier is taken for the rest. -/
theorem Adds.cons_of_not_mem {declared new : Declared} {taken : List (List Char)} {name : String}
    {names : List String} (hname : name ∉ declared.map Prod.fst)
    (h : Adds base (declared ++ [(name, claim (base name) taken)])
      (claim (base name) taken :: taken) names new) :
    Adds base declared taken (name :: names) ((name, claim (base name) taken) :: new) := by
  obtain ⟨n, -, hclaim, hfree, -⟩ := exists_claim_eq (base name) taken
  have hdeclare : declare base declared taken (name :: names) =
      declare base (declared ++ [(name, claim (base name) taken)])
        (claim (base name) taken :: taken) names := by
    rw [declare, if_neg (by rwa [isSome_lookup_iff])]
  refine ⟨?_, ?_, ?_, ?_, ?_, ?_⟩
  · rw [hdeclare, h.declared_eq, List.append_assoc, List.singleton_append]
  · rw [hdeclare, h.taken_eq, List.map_cons, List.reverse_cons, List.append_assoc,
      List.singleton_append]
  · have hnew : (declared.map Prod.fst).contains name = false := by simpa using hname
    rw [List.map_cons, h.names_eq, List.map_append, List.map_singleton, removeAll_concat,
      List.cons_removeAll, if_pos hnew, List.eraseDups_cons]
  · rw [List.map_cons]
    refine List.nodup_cons.mpr ⟨fun hmem => ?_, h.ids_nodup⟩
    exact h.ids_free _ hmem List.mem_cons_self
  · intro id hid
    rcases List.mem_cons.mp hid with rfl | hid
    · rwa [hclaim]
    · exact fun hmem => h.ids_free id hid (List.mem_cons_of_mem _ hmem)
  · intro d hd
    rcases List.mem_cons.mp hd with rfl | hd
    · exact ⟨n, hclaim⟩
    · exact h.ids_numbered d hd

/-- **Declaring names adds the new ones under identifiers of their own.** The induction is on
the names, with everything declared and taken so far left open. -/
theorem exists_adds (base : String → List Char) (declared : Declared) (taken : List (List Char))
    (names : List String) : ∃ new, Adds base declared taken names new := by
  induction names generalizing declared taken with
  | nil => exact ⟨[], .nil declared taken⟩
  | cons name names ih =>
    by_cases hname : name ∈ declared.map Prod.fst
    · obtain ⟨new, hnew⟩ := ih declared taken
      exact ⟨new, hnew.cons_of_mem hname⟩
    · obtain ⟨new, hnew⟩ := ih _ _
      exact ⟨_, hnew.cons_of_not_mem hname⟩

/-- After a declaration the base of every name is taken, if not by the name itself then before
it. -/
theorem base_mem_taken {declared : Declared} {taken : List (List Char)} {names : List String}
    (h : ∀ d ∈ declared, base d.1 ∈ taken) :
    ∀ name ∈ names, base name ∈ (declare base declared taken names).2 := by
  have hkept (declared : Declared) (taken : List (List Char)) (names : List String) :
      taken ⊆ (declare base declared taken names).2 := by
    obtain ⟨new, hnew⟩ := exists_adds base declared taken names
    rw [hnew.taken_eq]
    exact List.subset_append_right _ _
  induction names generalizing declared taken with
  | nil => exact fun name hname => absurd hname List.not_mem_nil
  | cons first names ih =>
    rw [declare]
    split_ifs with hfirst
    · obtain ⟨d, hd, rfl⟩ := List.mem_map.mp (isSome_lookup_iff.mp hfirst)
      intro name hname
      rcases List.mem_cons.mp hname with rfl | hname
      · exact hkept declared taken names (h d hd)
      · exact ih h name hname
    · -- the search tries the base itself before all other forms
      have hbase : base first ∈ claim (base first) taken :: taken := by
        obtain ⟨n, -, hclaim, -, hpassed⟩ := exists_claim_eq (base first) taken
        cases n with
        | zero => exact hclaim ▸ List.mem_cons_self
        | succ n => exact List.mem_cons_of_mem _ (hpassed 0 (Nat.succ_pos n))
      have hdeclared : ∀ d ∈ declared ++ [(first, claim (base first) taken)],
          base d.1 ∈ claim (base first) taken :: taken := by
        intro d hd
        rcases List.mem_append.mp hd with hd | hd
        · exact List.mem_cons_of_mem _ (h d hd)
        · exact List.mem_singleton.mp hd ▸ hbase
      intro name hname
      rcases List.mem_cons.mp hname with rfl | hname
      · exact hkept _ _ names hbase
      · exact ih hdeclared name hname

/-- What is declared goes by the identifier that it was declared under. -/
theorem identifier_of_mem {declared : Declared} (hnames : (declared.map Prod.fst).Nodup)
    {d : String × List Char} (hd : d ∈ declared) : declared.identifier base d.1 = d.2 := by
  obtain ⟨before, after, rfl⟩ := List.append_of_mem hd
  rw [List.map_append, List.map_cons] at hnames
  have hfirst : ∀ e ∈ before, (d.1 != e.1) = true := by
    intro e he
    have hne : d.1 ≠ e.1 := fun h =>
      (List.nodup_append.mp hnames).2.2 e.1 (List.mem_map_of_mem he) d.1 List.mem_cons_self h.symm
    exact bne_iff_ne.mpr hne
  rw [Declared.identifier, List.lookup_eq_some_iff.mpr ⟨before, after, rfl, hfirst⟩,
    Option.getD_some]

/-- Every name goes by an identifier, declared or not. -/
theorem isIdentifier_identifier {declared : Declared}
    (hdeclared : ∀ d ∈ declared, isIdentifier d.2 = true)
    (hbase : ∀ name, isIdentifier (base name) = true) (name : String) :
    isIdentifier (declared.identifier base name) = true := by
  rw [Declared.identifier]
  cases hlookup : declared.lookup name with
  | none => exact hbase name
  | some id =>
    obtain ⟨before, after, rfl, -⟩ := List.lookup_eq_some_iff.mp hlookup
    exact hdeclared (name, id) (List.mem_append_right before List.mem_cons_self)

end Declaring

end Draftsman.Markup
