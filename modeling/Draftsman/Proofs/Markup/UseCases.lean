/-
How the elements of a use-case diagram are told apart.

Different names can lead to one identifier, and the number that tells them apart can make it
that of a third. What counts is therefore not how an identifier is made but from where it is
taken: actors and use cases draw on one supply in which that of the boundary is taken from
the start. So all identifiers differ, and an edge, which looks its ends up among what was
declared, is drawn between the elements that it names (`useCaseDiagram_identifiers`).
-/
import Draftsman.Markup.Diagram
import Draftsman.Proofs.Markup.Identifiers

set_option autoImplicit false

namespace Draftsman.Markup

open Draftsman.Text

theorem isIdentifier_useCaseBase (name : String) : isIdentifier (useCaseBase name) = true :=
  isIdentifier_append rfl (forall_mem_sanitize name)

/-! ## The elements -/

/-- The elements of a diagram: every name once and in order, and for all of them together
different identifiers, none of them that of the boundary. -/
structure Elements.WellFormed (e : Elements) (m : UseCaseModel) : Prop where
  actors : e.actors.map Prod.fst = m.actors.eraseDups
  useCases : e.useCases.map Prod.fst = m.useCases.eraseDups
  ids_nodup : ((e.actors ++ e.useCases).map Prod.snd).Nodup
  ids_ne_boundary : ∀ d ∈ e.actors ++ e.useCases, d.2 ≠ boundary
  ids_isIdentifier : ∀ d ∈ e.actors ++ e.useCases, isIdentifier d.2 = true

theorem removeAll_nil (names : List String) : names.removeAll [] = names := by
  simp [List.removeAll]

theorem Adds.isIdentifier {base : String → List Char} {declared new : Declared}
    {taken : List (List Char)} {names : List String}
    (hbase : ∀ name, isIdentifier (base name) = true) (h : Adds base declared taken names new) :
    ∀ d ∈ new, Markup.isIdentifier d.2 = true := by
  intro d hd
  obtain ⟨n, hn⟩ := h.ids_numbered d hd
  rw [hn]
  exact isIdentifier_numbered (hbase d.1) n

/-- The actors find the identifier of the boundary taken, and the use cases those of the actors
too. -/
theorem adds_declareElements (m : UseCaseModel) :
    Adds aliasOf [] [boundary] m.actors (declareElements m).actors ∧
      Adds useCaseBase [] (((declareElements m).actors.map Prod.snd).reverse ++ [boundary])
        m.useCases (declareElements m).useCases := by
  obtain ⟨actors, hactors⟩ := exists_adds aliasOf [] [boundary] m.actors
  obtain ⟨useCases, huseCases⟩ :=
    exists_adds useCaseBase [] ((actors.map Prod.snd).reverse ++ [boundary]) m.useCases
  have hdeclared : declareElements m = ⟨actors, useCases⟩ := by
    have hfirst : declare aliasOf [] [boundary] m.actors =
        (actors, (actors.map Prod.snd).reverse ++ [boundary]) :=
      Prod.ext hactors.declared_eq hactors.taken_eq
    rw [declareElements, hfirst]
    exact congrArg (Elements.mk actors) huseCases.declared_eq
  rw [hdeclared]
  exact ⟨hactors, huseCases⟩

/-- **All elements have identifiers of their own.** -/
theorem wellFormed_declareElements (m : UseCaseModel) : (declareElements m).WellFormed m := by
  obtain ⟨hactors, huseCases⟩ := adds_declareElements m
  generalize declareElements m = e at hactors huseCases
  obtain ⟨actors, useCases⟩ := e
  dsimp only at hactors huseCases
  have hfree : ∀ d ∈ useCases, d.2 ∉ actors.map Prod.snd ∧ d.2 ≠ boundary := by
    intro d hd
    have h := huseCases.ids_free d.2 (List.mem_map_of_mem hd)
    rw [List.mem_append, List.mem_reverse, List.mem_singleton, not_or] at h
    exact h
  refine ⟨?_, ?_, ?_, fun d hd => ?_, fun d hd => ?_⟩
  · rw [hactors.names_eq, List.map_nil, removeAll_nil]
  · rw [huseCases.names_eq, List.map_nil, removeAll_nil]
  · rw [List.map_append]
    refine List.nodup_append.mpr
      ⟨hactors.ids_nodup, huseCases.ids_nodup, fun id hid id' hid' h => ?_⟩
    obtain ⟨d, hd, rfl⟩ := List.mem_map.mp hid'
    exact (hfree d hd).1 (h ▸ hid)
  · rcases List.mem_append.mp hd with hd | hd
    · intro h
      exact hactors.ids_free d.2 (List.mem_map_of_mem hd) (List.mem_singleton.mpr h)
    · exact (hfree d hd).2
  · rcases List.mem_append.mp hd with hd | hd
    · exact hactors.isIdentifier isIdentifier_aliasOf d hd
    · exact huseCases.isIdentifier isIdentifier_useCaseBase d hd

section Elements

variable {e : Elements} {m : UseCaseModel} (h : e.WellFormed m)
include h

theorem Elements.WellFormed.actor_eq : ∀ d ∈ e.actors, e.actor d.1 = d.2 := by
  intro d hd
  refine identifier_of_mem ?_ hd
  rw [h.actors]
  exact nodup_eraseDups m.actors

theorem Elements.WellFormed.useCase_eq : ∀ d ∈ e.useCases, e.useCase d.1 = d.2 := by
  intro d hd
  refine identifier_of_mem ?_ hd
  rw [h.useCases]
  exact nodup_eraseDups m.useCases

theorem Elements.WellFormed.isIdentifier_actor (name : String) :
    isIdentifier (e.actor name) = true :=
  isIdentifier_identifier (fun d hd => h.ids_isIdentifier d (List.mem_append_left _ hd))
    isIdentifier_aliasOf name

theorem Elements.WellFormed.isIdentifier_useCase (name : String) :
    isIdentifier (e.useCase name) = true :=
  isIdentifier_identifier (fun d hd => h.ids_isIdentifier d (List.mem_append_right _ hd))
    isIdentifier_useCaseBase name

/-- The boundary is drawn if the model has use cases at all. -/
theorem Elements.WellFormed.useCases_isEmpty : e.useCases.isEmpty = true ↔ m.useCases = [] := by
  rw [← List.isEmpty_map (f := Prod.fst), h.useCases]
  cases m.useCases with
  | nil => simp
  | cons name names => simp [List.eraseDups_cons]

end Elements

/-! ## The diagram -/

/-- **Elements and edges of every use-case diagram.** Each distinct actor and each distinct use
case of the model is declared once, in the order of the model, under an identifier. All these
identifiers differ, and none is that of the boundary. An edge refers to an element by the very
identifier under which it is declared. The search for an identifier always ends: it passes
over those of its candidates that are taken, of which there are no more than are taken in
all, and stops at the first that is not. -/
theorem useCaseDiagram_identifiers (m : UseCaseModel) :
    ∃ (actors useCases : Declared) (actorId useCaseId : String → List Char),
      actors.map Prod.fst = m.actors.eraseDups ∧
      useCases.map Prod.fst = m.useCases.eraseDups ∧
      ((actors ++ useCases).map Prod.snd).Nodup ∧
      (∀ d ∈ actors ++ useCases, d.2 ≠ "System".toList ∧ isIdentifier d.2 = true) ∧
      (∀ d ∈ actors, actorId d.1 = d.2) ∧
      (∀ d ∈ useCases, useCaseId d.1 = d.2) ∧
      body (.useCases m) = List.map UseCaseStatement.line
        (.direction :: (actors.map (fun d => .actor (enquote (tidy d.1)) d.2)
          ++ (if m.useCases = [] then []
            else .opening :: (useCases.map (fun d => .useCase (enquote (tidy d.1)) d.2)
              ++ [.closing]))
          ++ m.associations.map (fun a => .association (actorId a.actor) (useCaseId a.useCase))
          ++ m.includes.map (fun l => .inclusion (useCaseId l.source) (useCaseId l.target))
          ++ m.extensions.map (fun l => .extension (useCaseId l.source) (useCaseId l.target)))) ∧
      ∀ base taken, ∃ n ≤ taken.length, claim base taken = numbered base n ∧
        numbered base n ∉ taken ∧ ∀ k < n, numbered base k ∈ taken := by
  have h := wellFormed_declareElements m
  refine ⟨(declareElements m).actors, (declareElements m).useCases, (declareElements m).actor,
    (declareElements m).useCase, h.actors, h.useCases, h.ids_nodup, fun d hd => ?_, h.actor_eq,
    h.useCase_eq, ?_, exists_claim_eq⟩
  · exact ⟨h.ids_ne_boundary d hd, h.ids_isIdentifier d hd⟩
  · have hboundary : boundaryStatements (declareElements m).useCases =
        if m.useCases = [] then []
        else .opening :: ((declareElements m).useCases.map
          (fun d => .useCase (enquote (tidy d.1)) d.2) ++ [.closing]) := by
      rw [boundaryStatements]
      exact if_congr h.useCases_isEmpty rfl rfl
    rw [body, useCaseDiagram, hboundary]

end Draftsman.Markup
