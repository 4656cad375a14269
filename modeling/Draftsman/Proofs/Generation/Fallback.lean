/-
What a generation comes to, stage by stage.

An answer of the service has five stages to pass before it is a model: it arrives, it holds
text, the text holds a payload, the payload has the shape of the diagram, and it can be read.
How far an answer gets is a chain of predicates, each with the one before it as its base
(`Answered` to `Decoded`), and the reason for a fallback is the first stage that is not
passed (`FirstFault`). Either all stages are passed or there is a first that is not, and a
generation ends accordingly (`generate_outcome`). Whatever the end is, the model is of the
kind that was asked for, and canonical if the current model was.
-/
import Draftsman.Proofs.Extraction.Draft
import Draftsman.Proofs.Generation.Decoding

set_option autoImplicit false

namespace Draftsman

/-! ## Drawing a model as what it is -/

@[simp] theorem DiagramKind.parse?_name (kind : DiagramKind) : parse? kind.name = some kind := by
  cases kind <;> decide

/-- A model that is drawn as the kind of diagram that it is of is drawn. -/
theorem Markup.renderAs_name (m : Model) : renderAs m m.kind.name = render m := by
  rw [renderAs, bodyAs, DiagramKind.parse?_name]
  dsimp only
  rw [if_pos rfl, render]

namespace Generation

open Draftsman.Service Draftsman.Text

/-! ## How far an answer gets -/

section Stages

variable (deadline : Nat) (kind : DiagramKind) (reaction : Reaction)

/-- The service answers in time. -/
structure Answered (response : Response) : Prop where
  inTime : reaction.delay ≤ deadline
  answer : reaction.result = .ok response

/-- The answer holds text. -/
structure Worded (response : Response) : Prop extends Answered deadline reaction response where
  notBlank : allBlank response.text.toList = false

/-- The text holds a payload. -/
structure Interpreted (response : Response) (payload : Json) : Prop
    extends Worded deadline reaction response where
  interpreted : Reply.interpret response.text = .ok payload

/-- The payload has the shape of the diagram. -/
structure Fitting (response : Response) (payload : Json) : Prop
    extends Interpreted deadline reaction response payload where
  fits : kind.fits payload = true

/-- The payload is read as a model. -/
structure Decoded (response : Response) (payload : Json) (m : Model) : Prop
    extends Fitting deadline kind reaction response payload where
  decoded : Model.ofJson kind payload = .ok m

end Stages

/-- The first stage that a generation does not pass, with the reason that it gives. Without a
service there is no reaction at all. -/
inductive FirstFault (deadline : Nat) (kind : DiagramKind) : Option Reaction → Fallback → Prop
  | absent : FirstFault deadline kind none .unavailable
  | late {reaction : Reaction} (hfault : deadline < reaction.delay) :
      FirstFault deadline kind (some reaction) (.completion (.timedOut (deadline / 1000)))
  | failed {reaction : Reaction} {fault : ServiceError} (h : reaction.delay ≤ deadline)
      (hfault : reaction.result = .error fault) :
      FirstFault deadline kind (some reaction) (.completion fault)
  | blank {reaction : Reaction} {response : Response} (h : Answered deadline reaction response)
      (hfault : allBlank response.text.toList = true) :
      FirstFault deadline kind (some reaction) (.completion .emptyCompletion)
  | unreadable {reaction : Reaction} {response : Response} {fault : Reply.InterpretError}
      (h : Worded deadline reaction response)
      (hfault : Reply.interpret response.text = .error fault) :
      FirstFault deadline kind (some reaction) (.interpretation fault)
  | misshapen {reaction : Reaction} {response : Response} {payload : Json}
      (h : Interpreted deadline reaction response payload) (hfault : kind.fits payload = false) :
      FirstFault deadline kind (some reaction) (.incompatible kind)
  | undecodable {reaction : Reaction} {response : Response} {payload : Json} {fault : Json.Mismatch}
      (h : Fitting deadline kind reaction response payload)
      (hfault : Model.ofJson kind payload = .error fault) :
      FirstFault deadline kind (some reaction) (.undecodable fault.message)

/-! ## From a reaction to a candidate -/

section Candidates

variable {deadline : Nat} {kind : DiagramKind} {reaction : Reaction} {response : Response}

theorem Answered.completion_eq (h : Answered deadline reaction response) :
    reaction.completion deadline = response.completion := by
  rw [Reaction.completion, if_neg (Nat.not_lt.mpr h.inTime), h.answer]
  rfl

theorem Worded.completion_eq (h : Worded deadline reaction response) :
    reaction.completion deadline = .ok response.text := by
  rw [h.toAnswered.completion_eq, Response.completion,
    if_neg (by rw [h.notBlank]; exact Bool.false_ne_true)]

theorem Interpreted.candidate_eq {payload : Json}
    (h : Interpreted deadline reaction response payload) :
    candidate kind (reaction.completion deadline) =
      if kind.fits payload then
        match Model.ofJson kind payload with
        | .error fault => .error (.undecodable fault.message)
        | .ok model => .ok model
      else .error (.incompatible kind) := by
  rw [h.toWorded.completion_eq]
  cases hread : Model.ofJson kind payload with
  | error fault => simp [candidate, h.interpreted, hread]
  | ok model => simp [candidate, h.interpreted, hread]

/-- An answer that passes all stages is the candidate. -/
theorem Decoded.candidate_eq {payload : Json} {m : Model}
    (h : Decoded deadline kind reaction response payload m) :
    candidate kind (reaction.completion deadline) = .ok m := by
  rw [h.toInterpreted.candidate_eq, if_pos h.fits, h.decoded]

/-- The first stage that an answer does not pass gives the reason. -/
theorem FirstFault.candidate_eq {reason : Fallback}
    (h : FirstFault deadline kind (some reaction) reason) :
    candidate kind (reaction.completion deadline) = .error reason := by
  cases h with
  | late hfault => rw [Reaction.completion, if_pos hfault, candidate]
  | failed h hfault =>
    rw [Reaction.completion, if_neg (Nat.not_lt.mpr h), hfault]
    rfl
  | blank h hfault => rw [h.completion_eq, Response.completion, if_pos hfault, candidate]
  | unreadable h hfault => rw [h.completion_eq, candidate, hfault]
  | misshapen h hfault =>
    rw [h.candidate_eq, if_neg (by rw [hfault]; exact Bool.false_ne_true)]
  | undecodable h hfault => rw [h.toInterpreted.candidate_eq, if_pos h.fits, hfault]

/-- **An answer passes all stages, or there is a first that it does not pass.** -/
theorem decoded_or_firstFault (deadline : Nat) (kind : DiagramKind) (reaction : Reaction) :
    (∃ response payload m, Decoded deadline kind reaction response payload m) ∨
      ∃ reason, FirstFault deadline kind (some reaction) reason := by
  -- stage after stage: a fault ends the chain, and what is passed is kept for the next one
  by_cases hlate : deadline < reaction.delay
  · exact .inr ⟨_, .late hlate⟩
  have htime : reaction.delay ≤ deadline := Nat.not_lt.mp hlate
  cases hanswer : reaction.result with
  | error fault => exact .inr ⟨_, .failed htime hanswer⟩
  | ok response =>
    have answered : Answered deadline reaction response := ⟨htime, hanswer⟩
    cases hblank : allBlank response.text.toList with
    | true => exact .inr ⟨_, .blank answered hblank⟩
    | false =>
      have worded : Worded deadline reaction response := ⟨answered, hblank⟩
      cases hinterpret : Reply.interpret response.text with
      | error fault => exact .inr ⟨_, .unreadable worded hinterpret⟩
      | ok payload =>
        have interpreted : Interpreted deadline reaction response payload := ⟨worded, hinterpret⟩
        cases hfits : kind.fits payload with
        | false => exact .inr ⟨_, .misshapen interpreted hfits⟩
        | true =>
          have fitting : Fitting deadline kind reaction response payload := ⟨interpreted, hfits⟩
          cases hdecode : Model.ofJson kind payload with
          | error fault => exact .inr ⟨_, .undecodable fitting hdecode⟩
          | ok m => exact .inl ⟨response, payload, m, fitting, hdecode⟩

theorem candidate_eq_ok_iff {m : Model} :
    candidate kind (reaction.completion deadline) = .ok m ↔
      ∃ response payload, Decoded deadline kind reaction response payload m := by
  constructor
  · intro h
    rcases decoded_or_firstFault deadline kind reaction with ⟨response, payload, m', hm⟩ | ⟨e, he⟩
    · rw [hm.candidate_eq] at h
      exact ⟨response, payload, Except.ok.inj h ▸ hm⟩
    · exact absurd (h.symm.trans he.candidate_eq) (by simp)
  · rintro ⟨response, payload, hm⟩
    exact hm.candidate_eq

theorem candidate_eq_error_iff {reason : Fallback} :
    candidate kind (reaction.completion deadline) = .error reason ↔
      FirstFault deadline kind (some reaction) reason := by
  constructor
  · intro h
    rcases decoded_or_firstFault deadline kind reaction with ⟨response, payload, m, hm⟩ | ⟨e, he⟩
    · exact absurd (h.symm.trans hm.candidate_eq) (by simp)
    · rw [he.candidate_eq] at h
      exact Except.error.inj h ▸ he
  · exact FirstFault.candidate_eq

end Candidates

/-! ## Every outcome -/

section Outcomes

theorem kind_draft (text : String) (kind : DiagramKind) :
    (Extraction.draft text kind).kind = kind := by
  cases kind <;> rfl

theorem canonical_empty (kind : DiagramKind) : (Model.empty kind).Canonical := by
  cases kind with
  | classes => exact ⟨nofun, nofun⟩
  | useCases => exact ⟨nofun, nofun, nofun, nofun, nofun⟩
  | sequence => exact ⟨nofun, nofun, nofun⟩

/-- **Every draft is canonical.** -/
theorem canonical_draft (text : String) (kind : DiagramKind) :
    (Extraction.draft text kind).Canonical := by
  cases kind with
  | classes => exact (Extraction.wellFormed_extract text).canonical
  | useCases => exact canonical_empty .useCases
  | sequence => exact canonical_empty .sequence

namespace Task

variable (t : Task)

theorem kind_seed {m : Model} (h : t.seed = some m) : m.kind = t.kind := by
  simpa using (Option.filter_eq_some_iff.mp h).2

theorem kind_fallBack (reason : Fallback) : (t.fallBack reason).model.kind = t.kind := by
  unfold fallBack
  split
  · rename_i m hseed
    exact t.kind_seed hseed
  · exact kind_draft t.text t.kind

theorem canonical_fallBack (hcurrent : ∀ m ∈ t.current, m.Canonical) (reason : Fallback) :
    (t.fallBack reason).model.Canonical := by
  unfold fallBack
  split
  · rename_i m hseed
    exact hcurrent m (Option.filter_eq_some_iff.mp hseed).1
  · exact canonical_draft t.text t.kind

theorem kind_conclude (deadline : Nat) (reaction : Reaction) :
    (t.conclude (candidate t.kind (reaction.completion deadline))).model.kind = t.kind := by
  cases h : candidate t.kind (reaction.completion deadline) with
  | error reason => exact t.kind_fallBack reason
  | ok m =>
    obtain ⟨_, _, hm⟩ := candidate_eq_ok_iff.mp h
    exact Model.kind_ofJson hm.decoded

theorem canonical_conclude (hcurrent : ∀ m ∈ t.current, m.Canonical) (deadline : Nat)
    (reaction : Reaction) :
    (t.conclude (candidate t.kind (reaction.completion deadline))).model.Canonical := by
  cases h : candidate t.kind (reaction.completion deadline) with
  | error reason => exact t.canonical_fallBack hcurrent reason
  | ok m =>
    obtain ⟨_, _, hm⟩ := candidate_eq_ok_iff.mp h
    exact Model.canonical_ofJson hm.decoded

end Task

section Runs

variable (hasService : Bool) (tuning : Tuning) (task : Task) (ask : Request → Id Reaction)

/-- Every outcome is of the kind that was asked for. -/
theorem kind_run : (Id.run ((generate hasService tuning task).run ask)).kind = task.kind := by
  cases hasService with
  | false => exact task.kind_fallBack .unavailable
  | true => exact task.kind_conclude tuning.deadline _

/-- **Every outcome is canonical**, if the current model is. -/
theorem canonical_run (hcurrent : ∀ m ∈ task.current, m.Canonical) :
    (Id.run ((generate hasService tuning task).run ask)).model.Canonical := by
  cases hasService with
  | false => exact task.canonical_fallBack hcurrent .unavailable
  | true => exact task.canonical_conclude hcurrent tuning.deadline _

end Runs

end Outcomes

/-! ## Whole generations -/

/-- Completes an attempt with a service that reacts as given, and notes what the service is
asked. -/
def logged (react : Request → Reaction) (g : Attempt) : Outcome × List Request :=
  let ask (request : Request) : StateM (List Request) Reaction := do
    modify fun asked => asked ++ [request]
    return react request
  Id.run ((g.run ask).run [])

theorem logged_generate_absent (react : Request → Reaction) (tuning : Tuning) (task : Task) :
    logged react (generate false tuning task) = (task.fallBack .unavailable, []) :=
  rfl

theorem logged_generate_present (react : Request → Reaction) (tuning : Tuning) (task : Task) :
    logged react (generate true tuning task) =
      (task.conclude (candidate task.kind ((react (task.request tuning)).completion tuning.deadline)),
        [task.request tuning]) :=
  rfl

theorem kind_logged (hasService : Bool) (react : Request → Reaction) (tuning : Tuning)
    (task : Task) : (logged react (generate hasService tuning task)).1.model.kind = task.kind := by
  cases hasService with
  | false => exact task.kind_fallBack .unavailable
  | true => exact task.kind_conclude tuning.deadline _

/-- What is asked is the prompt for the seed, if there is one. -/
theorem prompt_of_mem_logged {hasService : Bool} {react : Request → Reaction} {tuning : Tuning}
    {task : Task} {request : Request}
    (h : request ∈ (logged react (generate hasService tuning task)).2) :
    request.prompt = prompt task.text task.kind task.draft task.seed := by
  cases hasService with
  | false =>
    rw [logged_generate_absent] at h
    exact absurd h List.not_mem_nil
  | true =>
    rw [logged_generate_present] at h
    rw [List.mem_singleton.mp h]
    rfl

/-! ## How a generation ends -/

namespace Task

variable {t : Task} {reason : Fallback}

theorem fallBack_inj {reason' : Fallback} (h : t.fallBack reason = t.fallBack reason') :
    reason = reason' := by
  have hfallback := congrArg Outcome.fallback h
  simpa using hfallback

/-- An outcome that gives a reason is not the candidate. -/
theorem fallback_fallBack_ne_none : (t.fallBack reason).fallback ≠ none := by
  intro hnone
  exact absurd (hnone.symm.trans (t.fallback_fallBack reason)) (by simp)

/-- An outcome that is the candidate gives no reason, and one that gives a reason is not the
candidate. -/
theorem conclude_eq_candidate_iff {result : Except Fallback Model} {m : Model} :
    ((t.conclude result).source = .candidate ∧ (t.conclude result).fallback = none ∧
      (t.conclude result).model = m) ↔ result = .ok m := by
  cases result with
  | ok m' => simp [conclude]
  | error reason => simp [conclude]

theorem conclude_eq_fallBack_iff {result : Except Fallback Model} :
    t.conclude result = t.fallBack reason ↔ result = .error reason := by
  constructor
  · intro h
    have hfallback := congrArg Outcome.fallback h
    rw [fallback_fallBack] at hfallback
    exact (t.fallback_conclude result reason).mp hfallback
  · rintro rfl
    rfl

/-- Without a service there is one fault, and an outcome has but one reason. -/
theorem firstFault_none_iff {deadline : Nat} {kind : DiagramKind} :
    FirstFault deadline kind none reason ↔ t.fallBack .unavailable = t.fallBack reason := by
  constructor
  · rintro ⟨⟩
    rfl
  · intro h
    rw [← fallBack_inj h]
    exact .absent

/-- With a service the outcome is the candidate, or there is a fault. -/
theorem conclude_or_firstFault (t : Task) (deadline : Nat) (reaction : Reaction) :
    let o := t.conclude (candidate t.kind (reaction.completion deadline))
    o.source = .candidate ∧ o.fallback = none ∨
      ∃ reason, FirstFault deadline t.kind (some reaction) reason := by
  intro o
  rcases decoded_or_firstFault deadline t.kind reaction with ⟨response, payload, m, hm⟩ | hfault
  · have hcandidate : o = t.conclude (.ok m) := congrArg t.conclude hm.candidate_eq
    rw [hcandidate]
    exact .inl ⟨rfl, rfl⟩
  · exact .inr hfault

end Task

/-- **What every generation comes to.** A service is asked once if there is one, and nothing is
asked if there is none. The model is the candidate, and no reason is given, exactly if the
answer passes all stages. Otherwise there is a first stage that is not passed; it gives the
reason, and the model is the current one if that is of the kind asked for, and else the
draft. In any case the model is of that kind, its diagram is the model drawn as that kind, and
its explanation explains it. -/
theorem generate_outcome (hasService : Bool) (react : Request → Reaction) (tuning : Tuning)
    (text : String) (kind : DiagramKind) (current : Option Model) :
    let task : Task := ⟨text, kind, current⟩
    let seed := current.filter fun m => m.kind = kind
    let reaction := if hasService then some (react (task.request tuning)) else none
    let o := (logged react (generate hasService tuning task)).1
    let asked := (logged react (generate hasService tuning task)).2
    asked = (if hasService then [task.request tuning] else []) ∧
    (∀ m, o.source = .candidate ∧ o.fallback = none ∧ o.model = m ↔
      ∃ r ∈ reaction, ∃ response payload, Decoded tuning.deadline kind r response payload m) ∧
    (∀ reason, FirstFault tuning.deadline kind reaction reason ↔
      o = match seed with
        | some m => ⟨m, .seed, some reason⟩
        | none => ⟨Extraction.draft text kind, .draft, some reason⟩) ∧
    (o.source = .candidate ∧ o.fallback = none ∨
      ∃ reason, FirstFault tuning.deadline kind reaction reason) ∧
    (o.model.kind = kind ∧ o.kind = kind) ∧
    (o.diagram = Markup.renderAs o.model kind.name ∧ o.diagram = Markup.render o.model) ∧
    o.explanation = Explanation.explain o.model := by
  intro task seed reaction o asked
  have hkind : o.model.kind = kind := kind_logged hasService react tuning task
  have hdiagram : o.diagram = Markup.renderAs o.model kind.name := by
    rw [← hkind, Markup.renderAs_name]
    rfl
  refine ⟨?_, ?_, ?_, ?_, ⟨hkind, hkind⟩, ⟨hdiagram, rfl⟩, rfl⟩
  · cases hasService with
    | false => rfl
    | true => rfl
  · intro m
    cases hasService with
    | false =>
      -- there is no reaction, and a reason is given
      refine iff_of_false ?_ (by simp [reaction])
      rintro ⟨-, hnone, -⟩
      exact Task.fallback_fallBack_ne_none hnone
    | true =>
      have hreaction : reaction = some (react (task.request tuning)) := rfl
      rw [hreaction]
      simp only [Option.mem_some_iff, exists_eq_left']
      exact Task.conclude_eq_candidate_iff.trans candidate_eq_ok_iff
  · intro reason
    cases hasService with
    | false => exact Task.firstFault_none_iff (t := task)
    | true => exact (Task.conclude_eq_fallBack_iff.trans candidate_eq_error_iff).symm
  · cases hasService with
    | false => exact .inr ⟨_, .absent⟩
    | true => exact task.conclude_or_firstFault tuning.deadline (react (task.request tuning))

end Generation

end Draftsman
