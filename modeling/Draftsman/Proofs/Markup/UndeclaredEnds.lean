/-
Ends of edges that were not declared.

An edge looks its ends up among the elements that were declared. An end that is not there goes
by its plain identifier, the one that a declared element of its name would be tried with first,
and nothing is asked about whether that one is taken. So it can be the identifier of an element
of another name, as a space and a hyphen show (`hyphen_for_space_attaches`), and it is exactly
if an element has the same plain identifier or was numbered to it (`undeclared_end_attached_iff`).
The identifiers of use cases all have a mark in front, so among the ends that are not declared
only an actor can meet that of the boundary. An actor who reads like the boundary does so in every
model that does not declare that actor (`identifier_eq_boundary_iff`), and the edge then starts
at the box around the use cases (`undeclared_system_attaches`).
-/
import Draftsman.Proofs.Markup.Participants
import Draftsman.Proofs.Markup.UseCases

set_option autoImplicit false

namespace Draftsman.Markup

open Draftsman.Text

/-! ## Ends of edges -/

/-- What an edge begins or ends at. -/
inductive EdgeEnd where
  | actor (name : String)
  | useCase (name : String)
deriving DecidableEq, Repr

namespace EdgeEnd

/-- The identifier that is tried first for an element. -/
def plain : EdgeEnd → List Char
  | actor name => aliasOf name
  | useCase name => useCaseBase name

/-- The model lists an element of this kind and name. -/
def DeclaredIn (m : UseCaseModel) : EdgeEnd → Prop
  | actor name => name ∈ m.actors
  | useCase name => name ∈ m.useCases

end EdgeEnd

/-- The identifier that is written for an end of an edge. -/
def Elements.identifier (e : Elements) : EdgeEnd → List Char
  | .actor name => e.actor name
  | .useCase name => e.useCase name

/-! ## The identifier of the boundary -/

theorem eq_of_forall₂_alike {a b : List Char} (h : List.Forall₂ Alike a b)
    (hb : ∀ c ∈ b, isPlainAlphanumeric c = true) : a = b := by
  induction h with
  | nil => rfl
  | cons hcd h ih =>
    have hd := hb _ List.mem_cons_self
    rcases hcd with rfl | ⟨-, hnot⟩
    · rw [ih fun c hc => hb c (List.mem_cons_of_mem _ hc)]
    · exact absurd (hd.symm.trans hnot) (by decide)

/-- Only a name that reads like the boundary has its identifier for an alias. -/
theorem tidy_eq_of_aliasOf_eq {name : String} (h : aliasOf name = boundary) :
    tidy name = boundary := by
  have hsystem : grounded (tidy "System") = boundary := by decide
  have hlook : LookAlike name "System" := by
    rw [← aliasOf_eq_iff, h]
    decide
  have hgrounded : grounded (tidy name) = boundary := by
    rw [LookAlike, hsystem] at hlook
    exact eq_of_forall₂_alike hlook (List.all_eq_true.mp (by decide))
  cases hname : tidy name with
  | nil =>
    rw [hname] at hgrounded
    exact absurd hgrounded (by decide)
  | cons c cs =>
    rw [hname, grounded] at hgrounded
    split_ifs at hgrounded
    · exact absurd (List.cons.inj hgrounded).1 (by decide)
    · exact hgrounded

/-- A name is written like the boundary exactly if it reads like it. -/
theorem aliasOf_eq_boundary_iff {name : String} :
    aliasOf name = boundary ↔ tidy name = boundary := by
  refine ⟨tidy_eq_of_aliasOf_eq, fun h => ?_⟩
  rw [aliasOf_eq_map, h]
  decide

theorem useCaseBase_ne_boundary (name : String) : useCaseBase name ≠ boundary := by
  intro h
  have hfirst : 'U' = 'S' := (List.cons.inj h).1
  exact absurd hfirst (by decide)

/-! ## Declared elements -/

section Elements

variable {m : UseCaseModel}

/-- The identifiers that were given out are those that are written for declared elements. -/
theorem mem_ids_iff {id : List Char} :
    id ∈ ((declareElements m).actors ++ (declareElements m).useCases).map Prod.snd ↔
      ∃ x : EdgeEnd, x.DeclaredIn m ∧ (declareElements m).identifier x = id := by
  have h := wellFormed_declareElements m
  have hactor (name : String) :
      name ∈ m.actors ↔ ∃ d ∈ (declareElements m).actors, d.1 = name := by
    rw [← List.mem_map, h.actors, List.mem_eraseDups]
  have huseCase (name : String) :
      name ∈ m.useCases ↔ ∃ d ∈ (declareElements m).useCases, d.1 = name := by
    rw [← List.mem_map, h.useCases, List.mem_eraseDups]
  rw [List.mem_map]
  constructor
  · rintro ⟨d, hd, rfl⟩
    rcases List.mem_append.mp hd with hd | hd
    · exact ⟨.actor d.1, (hactor d.1).mpr ⟨d, hd, rfl⟩, h.actor_eq d hd⟩
    · exact ⟨.useCase d.1, (huseCase d.1).mpr ⟨d, hd, rfl⟩, h.useCase_eq d hd⟩
  · rintro ⟨x, hx, rfl⟩
    cases x with
    | actor name =>
      obtain ⟨d, hd, rfl⟩ := (hactor name).mp hx
      exact ⟨d, List.mem_append_left _ hd, (h.actor_eq d hd).symm⟩
    | useCase name =>
      obtain ⟨d, hd, rfl⟩ := (huseCase name).mp hx
      exact ⟨d, List.mem_append_right _ hd, (h.useCase_eq d hd).symm⟩

/-- A declared element has its plain identifier or a numbered form of it. -/
theorem exists_identifier_eq {x : EdgeEnd} (hx : x.DeclaredIn m) :
    ∃ n, (declareElements m).identifier x = numbered x.plain n := by
  have h := wellFormed_declareElements m
  obtain ⟨hactors, huseCases⟩ := adds_declareElements m
  cases x with
  | actor name =>
    have hname : name ∈ (declareElements m).actors.map Prod.fst := by
      rwa [h.actors, List.mem_eraseDups]
    obtain ⟨d, hd, rfl⟩ := List.mem_map.mp hname
    obtain ⟨n, hn⟩ := hactors.ids_numbered d hd
    exact ⟨n, (h.actor_eq d hd).trans hn⟩
  | useCase name =>
    have hname : name ∈ (declareElements m).useCases.map Prod.fst := by
      rwa [h.useCases, List.mem_eraseDups]
    obtain ⟨d, hd, rfl⟩ := List.mem_map.mp hname
    obtain ⟨n, hn⟩ := huseCases.ids_numbered d hd
    exact ⟨n, (h.useCase_eq d hd).trans hn⟩

/-- The plain identifier of a declared element is taken, by the boundary or by an element. -/
theorem plain_taken {x : EdgeEnd} (hx : x.DeclaredIn m) :
    x.plain = boundary ∨
      x.plain ∈ ((declareElements m).actors ++ (declareElements m).useCases).map Prod.snd := by
  obtain ⟨hactors, huseCases⟩ := adds_declareElements m
  rw [List.map_append, List.mem_append]
  cases x with
  | actor name =>
    have hnone : ∀ d ∈ ([] : Declared), aliasOf d.1 ∈ [boundary] := fun d hd =>
      absurd hd List.not_mem_nil
    have htaken := base_mem_taken hnone name hx
    rw [hactors.taken_eq, List.mem_append, List.mem_reverse, List.mem_singleton] at htaken
    exact htaken.elim (fun hid => .inr (.inl hid)) .inl
  | useCase name =>
    have hnone : ∀ d ∈ ([] : Declared), useCaseBase d.1 ∈
        ((declareElements m).actors.map Prod.snd).reverse ++ [boundary] := fun d hd =>
      absurd hd List.not_mem_nil
    have htaken := base_mem_taken hnone name hx
    rw [huseCases.taken_eq, List.mem_append, List.mem_reverse, List.mem_append, List.mem_reverse,
      List.mem_singleton] at htaken
    exact htaken.elim (fun hid => .inr (.inr hid)) fun h => h.elim (fun hid => .inr (.inl hid)) .inl

/-! ## Undeclared ends -/

theorem Declared.identifier_eq_base {declared : Declared} {base : String → List Char}
    {name : String} (h : name ∉ declared.map Prod.fst) :
    declared.identifier base name = base name := by
  have hnone : declared.lookup name = none :=
    Option.not_isSome_iff_eq_none.mp (isSome_lookup_iff.not.mpr h)
  rw [Declared.identifier, hnone, Option.getD_none]

/-- What was not declared goes by its plain identifier. -/
theorem identifier_eq_plain {x : EdgeEnd} (hx : ¬ x.DeclaredIn m) :
    (declareElements m).identifier x = x.plain := by
  have h := wellFormed_declareElements m
  cases x with
  | actor name =>
    have hname : name ∉ (declareElements m).actors.map Prod.fst := by
      rwa [h.actors, List.mem_eraseDups]
    exact Declared.identifier_eq_base hname
  | useCase name =>
    have hname : name ∉ (declareElements m).useCases.map Prod.fst := by
      rwa [h.useCases, List.mem_eraseDups]
    exact Declared.identifier_eq_base hname

/-- What was not declared is drawn as the boundary exactly if it is an actor who reads like it:
that identifier was kept from the declared elements and from nothing else. -/
theorem identifier_eq_boundary_iff {x : EdgeEnd} (hx : ¬ x.DeclaredIn m) :
    (declareElements m).identifier x = boundary ↔
      ∃ name, x = .actor name ∧ tidy name = boundary := by
  rw [identifier_eq_plain hx]
  constructor
  · intro hplain
    cases x with
    | actor name => exact ⟨name, rfl, aliasOf_eq_boundary_iff.mp hplain⟩
    | useCase name => exact absurd hplain (useCaseBase_ne_boundary name)
  · rintro ⟨name, rfl, hname⟩
    rw [EdgeEnd.plain, aliasOf_eq_boundary_iff, hname]

end Elements

/-- **What an end that was not declared is attached to.** Every edge is written between the
identifiers of its two ends, and an end that was not declared goes by its plain identifier. That
is the identifier of the boundary only for an actor whose name reads like it. It is the
identifier of a declared element exactly if one of them has the same plain identifier, which is
then taken by that one or another, or if one of them was numbered to it. -/
theorem undeclared_end_attached_iff (m : UseCaseModel) :
    let id := (declareElements m).identifier
    (∃ front, body (.useCases m) = front
      ++ m.associations.map (fun a =>
        id (.actor a.actor) ++ " --> ".toList ++ id (.useCase a.useCase))
      ++ m.includes.map (fun l =>
        id (.useCase l.source) ++ " ..> ".toList ++ id (.useCase l.target)
          ++ " : <<include>>".toList)
      ++ m.extensions.map (fun l =>
        id (.useCase l.source) ++ " ..> ".toList ++ id (.useCase l.target)
          ++ " : <<extend>>".toList)) ∧
    ∀ x : EdgeEnd, ¬ x.DeclaredIn m →
      id x = x.plain ∧
      (id x = "System".toList → ∃ name, x = .actor name ∧ tidy name = "System".toList) ∧
      ((∃ y : EdgeEnd, y.DeclaredIn m ∧ id y = id x) ↔
        (∃ y : EdgeEnd, y.DeclaredIn m ∧ y.plain = x.plain ∧ x.plain ≠ "System".toList) ∨
        ∃ (y : EdgeEnd) (n : Nat), y.DeclaredIn m ∧ id y = numbered y.plain (n + 1) ∧
          numbered y.plain (n + 1) = x.plain) := by
  intro id
  have h := wellFormed_declareElements m
  refine ⟨?_, fun x hx => ⟨identifier_eq_plain hx, (identifier_eq_boundary_iff hx).mp, ?_⟩⟩
  · refine ⟨((.direction :: ((declareElements m).actors.map
      (fun a => .actor (enquote (tidy a.1)) a.2)
        ++ boundaryStatements (declareElements m).useCases)).map UseCaseStatement.line), ?_⟩
    rw [body, useCaseDiagram]
    simp only [List.map_cons, List.map_append, List.map_map, List.cons_append]
    rfl
  · rw [show id x = x.plain from identifier_eq_plain hx]
    constructor
    · rintro ⟨y, hy, hid⟩
      obtain ⟨n, hn⟩ := exists_identifier_eq hy
      cases n with
      | zero =>
        -- the element has its plain identifier, which is therefore not that of the boundary
        refine .inl ⟨y, hy, hn.symm.trans hid, fun hboundary => ?_⟩
        obtain ⟨d, hd, hdid⟩ := List.mem_map.mp (mem_ids_iff.mpr ⟨y, hy, hid⟩)
        exact h.ids_ne_boundary d hd (hdid.trans hboundary)
      | succ n => exact .inr ⟨y, n, hy, hn, hn.symm.trans hid⟩
    · rintro (⟨y, hy, hplain, hboundary⟩ | ⟨y, n, hy, hn, hplain⟩)
      · rcases plain_taken hy with htaken | htaken
        · exact absurd (hplain.symm.trans htaken) hboundary
        · exact mem_ids_iff.mp (hplain ▸ htaken)
      · exact ⟨y, hy, hn.trans hplain⟩

/-- Two actors look alike, so the second is numbered, and an actor who was not declared has that
number in the name. -/
theorem undeclared_end_attached_iff_numbered :
    let m : UseCaseModel := ⟨["Web Shop", "Web-Shop"], ["Pay"], [⟨"Web Shop 2", "Pay"⟩], [], []⟩
    ¬ (EdgeEnd.actor "Web Shop 2").DeclaredIn m ∧
    (declareElements m).identifier (.actor "Web Shop 2") = "Web_Shop_2".toList ∧
    ∃ y : EdgeEnd, y.DeclaredIn m ∧
      (declareElements m).identifier y = (declareElements m).identifier (.actor "Web Shop 2") := by
  intro m
  have hx : ¬ (EdgeEnd.actor "Web Shop 2").DeclaredIn m := by simp [m, EdgeEnd.DeclaredIn]
  have hy : (EdgeEnd.actor "Web-Shop").DeclaredIn m := by simp [m, EdgeEnd.DeclaredIn]
  obtain ⟨hid, -, hattached⟩ := (undeclared_end_attached_iff m).2 (.actor "Web Shop 2") hx
  refine ⟨hx, hid.trans (by decide +kernel), hattached.mpr (.inr ⟨.actor "Web-Shop", 0, hy, ?_⟩)⟩
  decide +kernel

/-- A space and a hyphen: an actor takes part in a use case and was not declared, and the edge
is drawn from another actor, who was. -/
theorem hyphen_for_space_attaches :
    let m : UseCaseModel := ⟨["Web Shop"], ["Pay"], [⟨"Web-Shop", "Pay"⟩], [], []⟩
    ¬ (EdgeEnd.actor "Web-Shop").DeclaredIn m ∧ (EdgeEnd.actor "Web Shop").DeclaredIn m ∧
    (declareElements m).identifier (.actor "Web-Shop") =
      (declareElements m).identifier (.actor "Web Shop") ∧
    body (.useCases m) = ["left to right direction".toList,
      "actor \"Web Shop\" as Web_Shop".toList, "rectangle System \x7b".toList,
      "  usecase \"Pay\" as UC_Pay".toList, "\x7d".toList, "Web_Shop --> UC_Pay".toList] := by
  refine ⟨?_, ?_, ?_⟩
  · simp [EdgeEnd.DeclaredIn]
  · simp [EdgeEnd.DeclaredIn]
  · decide +kernel

/-- The name of the boundary: an actor of that name was not declared, and the edge starts at the
box around the use cases. -/
theorem undeclared_system_attaches :
    let m : UseCaseModel := ⟨["A"], ["Pay"], [⟨"System", "Pay"⟩], [], []⟩
    ¬ (EdgeEnd.actor "System").DeclaredIn m ∧
    (declareElements m).identifier (.actor "System") = boundary ∧
    body (.useCases m) = ["left to right direction".toList, "actor \"A\" as A".toList,
      "rectangle System \x7b".toList, "  usecase \"Pay\" as UC_Pay".toList, "\x7d".toList,
      "System --> UC_Pay".toList] := by
  intro m
  have hx : ¬ (EdgeEnd.actor "System").DeclaredIn m := by simp [m, EdgeEnd.DeclaredIn]
  refine ⟨hx, (identifier_eq_boundary_iff hx).mpr ⟨"System", rfl, by decide⟩, ?_⟩
  decide +kernel

end Draftsman.Markup
