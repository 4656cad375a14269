/-
What a store holds after any run of requests to sessions.

Requests are executed one after the other over a store of which every call may fail, and a
call that fails changes nothing. A run keeps a record of its steps: what was requested, what
the service was asked, and what was answered. The record alone says which turns a session has
had since it was last reset, and the store holds the last of these, no more and no less
(`Consistent`). That is an invariant of every step, and so of every run, and each request to
generate therefore edits the model of the latest turn of its kind (`run_histories`).
-/
import Draftsman.Session.Session
import Draftsman.Proofs.Generation.Fallback
import Mathlib.Data.List.DropRight

set_option autoImplicit false

namespace Draftsman.Session

open Draftsman.Service Draftsman.Generation Draftsman.Session.History

/-! ## Runs -/

/-- What is requested of a session. -/
inductive Action where
  | submit (text : String) (kind : DiagramKind)
  | history
  | reset
deriving DecidableEq

/-- What surrounds a request: the calls of the store that fail, and how the service reacts. -/
structure Conditions where
  load : Option StoreError
  save : Option StoreError
  remove : Option StoreError
  react : Request → Reaction

/-- A request to a session under some conditions. -/
structure Event where
  id : String
  action : Action
  conditions : Conditions

/-- What a request is answered. -/
inductive Answer where
  | outcome (outcome : Outcome)
  | history (history : History)
  | reset (removed : Bool)

/-- What requests change: the store, and the list of what the service was asked. -/
structure World where
  store : Store
  asked : List Request

/-- Carries out the calls that do not fail. -/
def Conditions.means (c : Conditions) : Means (StateM World) where
  load id := do
    match c.load with
    | some fault => return .error fault
    | none => return .ok ((← get).store.get? id)
  save id history := do
    match c.save with
    | some fault => return .error fault
    | none =>
      modify fun world => { world with store := world.store.put id history }
      return .ok ()
  remove id := do
    match c.remove with
    | some fault => return .error fault
    | none =>
      let found := ((← get).store.get? id).isSome
      modify fun world => { world with store := world.store.delete id }
      return .ok found
  ask request := do
    modify fun world => { world with asked := world.asked ++ [request] }
    return c.react request

/-- Executes a request. -/
def Event.perform (context : Context) (e : Event) : StateM World Answer :=
  match e.action with
  | .submit text kind => .outcome <$> (context.submit e.id text kind).run e.conditions.means
  | .history => .history <$> (Session.history e.id).run e.conditions.means
  | .reset => .reset <$> (Session.reset e.id).run e.conditions.means

/-- A request that was executed: what the service was asked for it, and what was answered. -/
structure Step where
  event : Event
  asked : List Request
  answer : Answer

/-- A run so far: the store, and the steps that were made. -/
structure Progress where
  store : Store
  steps : List Step

/-- The run after one more request. -/
def Progress.next (context : Context) (p : Progress) (e : Event) : Progress :=
  let (answer, world) := Id.run ((e.perform context).run ⟨p.store, []⟩)
  ⟨world.store, p.steps ++ [⟨e, world.asked, answer⟩]⟩

/-- The run of the requests over a store that is empty at first. -/
def run (context : Context) (events : List Event) : Progress :=
  events.foldl (Progress.next context) ⟨.empty, []⟩

/-! ## The record of a run -/

namespace Step

/-- The turn that a step records: a request to generate does if its history could be read and
written. -/
def turn? (s : Step) : Option Turn :=
  match s.event.action, s.answer with
  | .submit text kind, .outcome o =>
    if s.event.conditions.load.isNone && s.event.conditions.save.isNone then
      some (.ofOutcome text kind o)
    else none
  | _, _ => none

/-- Whether the step resets its session. -/
def resets (s : Step) : Bool := s.event.action == .reset && s.event.conditions.remove.isNone

end Step

/-- The turns that were recorded for a session since its last reset. -/
def recorded (id : String) (steps : List Step) : List Turn :=
  ((steps.filter fun s => s.event.id == id).rtakeWhile fun s => !s.resets).filterMap Step.turn?

theorem recorded_append (id : String) (steps : List Step) (s : Step) :
    recorded id (steps ++ [s]) =
      if s.event.id = id then
        if s.resets then [] else recorded id steps ++ s.turn?.toList
      else recorded id steps := by
  unfold recorded
  rw [List.filter_append]
  by_cases hid : s.event.id = id
  · -- the step is the latest of the session: it ends the record, or comes last in it
    rw [if_pos hid, List.filter_cons_of_pos (by rw [hid, beq_self_eq_true]), List.filter_nil,
      List.rtakeWhile_concat]
    cases hresets : s.resets with
    | true => rfl
    | false =>
      rw [if_pos Bool.not_false, if_neg Bool.false_ne_true, List.filterMap_append]
      cases hturn : s.turn? with
      | none => rw [List.filterMap_cons_none hturn, List.filterMap_nil, Option.toList_none]
      | some turn => rw [List.filterMap_cons_some hturn, List.filterMap_nil, Option.toList_some]
  · rw [if_neg hid, List.filter_cons_of_neg (by simpa using hid), List.filter_nil, List.append_nil]

/-- The history of a session with the given turns: none if there are none, and at most so many
as are kept. -/
def kept (turns : List Turn) : Option History :=
  if turns = [] then none else some ⟨lastOf maxTurns turns⟩

theorem turns_kept (turns : List Turn) :
    ((kept turns).getD .empty).turns = lastOf maxTurns turns := by
  unfold kept
  split_ifs with h
  · rw [h]
    rfl
  · rfl

/-- Forgetting the oldest turns before a new one and after it is forgetting them once. -/
theorem lastOf_lastOf_append {α : Type} (n : Nat) (items : List α) (item : α) :
    lastOf n (lastOf n items ++ [item]) = lastOf n (items ++ [item]) := by
  have hmiddle : lastOf n items ++ [item] = (items ++ [item]).drop (items.length - n) := by
    rw [lastOf, List.drop_append_of_le_length (Nat.sub_le _ _)]
  -- what is dropped before and after the new item adds up to what is dropped at once
  have hcut : items.length - n + ((items ++ [item]).length - (items.length - n) - n)
      = (items ++ [item]).length - n := by
    rw [List.length_append, List.length_singleton]
    omega
  rw [hmiddle, lastOf, List.length_drop, List.drop_drop, hcut, lastOf]

theorem push_kept (turns : List Turn) (turn : Turn) :
    some (((kept turns).getD .empty).push turn) = kept (turns ++ [turn]) := by
  rw [push, turns_kept, lastOf_lastOf_append, kept, if_neg (by simp)]

/-! ## One step -/

section Steps

variable (conditions : Conditions) (context : Context)

theorem run_ofGeneration {α : Type} (next : Outcome → Procedure α) (g : Attempt)
    (world : World) :
    ((Procedure.ofGeneration next g).run conditions.means).run world =
      ((next (logged conditions.react g).1).run conditions.means).run
        { world with asked := world.asked ++ (logged conditions.react g).2 } := by
  cases g with
  | settled outcome =>
    have hnone : (logged conditions.react (.settled outcome)).2 = [] := rfl
    rw [hnone, List.append_nil]
    rfl
  | waiting request conclude => rfl

/-- A request to generate whose history cannot be read leaves the store alone. -/
theorem next_submit_unreadable {id text : String} {kind : DiagramKind} {fault : StoreError}
    (hload : conditions.load = some fault) (p : Progress) :
    p.next context ⟨id, .submit text kind, conditions⟩ =
      let g := logged conditions.react (context.generation text kind none)
      ⟨p.store, p.steps ++ [⟨⟨id, .submit text kind, conditions⟩, g.2, .outcome g.1⟩]⟩ := by
  have hrun : ((context.submit id text kind).run conditions.means).run ⟨p.store, []⟩ =
      ((Procedure.ofGeneration .done (context.generation text kind none)).run
        conditions.means).run ⟨p.store, []⟩ := by
    simp [Context.submit, Procedure.run, Conditions.means, hload]
  rw [run_ofGeneration] at hrun
  simp only [Progress.next, Event.perform]
  rw [StateT.run_map, hrun]
  rfl

/-- Otherwise the turn is added to the history, and the history written if it can be. -/
theorem next_submit_readable {id text : String} {kind : DiagramKind}
    (hload : conditions.load = none) (p : Progress) :
    p.next context ⟨id, .submit text kind, conditions⟩ =
      let h := (p.store.get? id).getD .empty
      let g := logged conditions.react (context.generation text kind (some h))
      ⟨if conditions.save.isSome then p.store
        else p.store.put id (h.push (.ofOutcome text kind g.1)),
        p.steps ++ [⟨⟨id, .submit text kind, conditions⟩, g.2, .outcome g.1⟩]⟩ := by
  have hrun : ((context.submit id text kind).run conditions.means).run ⟨p.store, []⟩ =
      ((Procedure.ofGeneration
        (fun o => .save id (((p.store.get? id).getD .empty).push (.ofOutcome text kind o)) fun _ =>
          .done o)
        (context.generation text kind (some ((p.store.get? id).getD .empty)))).run
          conditions.means).run ⟨p.store, []⟩ := by
    simp [Context.submit, Procedure.run, Conditions.means, hload]
  rw [run_ofGeneration] at hrun
  simp only [Progress.next, Event.perform]
  rw [StateT.run_map, hrun]
  cases hsave : conditions.save with
  | some fault => simp [Procedure.run, Conditions.means, hsave]
  | none => simp [Procedure.run, Conditions.means, hsave]

/-- A request for a history reads it, if it can be read. -/
theorem next_history {id : String} (p : Progress) :
    p.next context ⟨id, .history, conditions⟩ =
      ⟨p.store, p.steps ++ [⟨⟨id, .history, conditions⟩, [],
        .history (if conditions.load.isSome then .empty else (p.store.get? id).getD .empty)⟩]⟩ := by
  simp only [Progress.next, Event.perform, Session.history]
  cases hload : conditions.load with
  | some fault => simp [Procedure.run, Conditions.means, hload]
  | none => simp [Procedure.run, Conditions.means, hload]

/-- A request to reset a session deletes its history, if it can be deleted. -/
theorem next_reset {id : String} (p : Progress) :
    p.next context ⟨id, .reset, conditions⟩ =
      ⟨if conditions.remove.isSome then p.store else p.store.delete id,
        p.steps ++ [⟨⟨id, .reset, conditions⟩, [],
          .reset (conditions.remove.isNone && (p.store.get? id).isSome)⟩]⟩ := by
  simp only [Progress.next, Event.perform, Session.reset]
  cases hremove : conditions.remove with
  | some fault => simp [Procedure.run, Conditions.means, hremove]
  | none => simp [Procedure.run, Conditions.means, hremove]

end Steps

/-! ## Every step, and every run -/

/-- The store holds the last of the turns that the record has of each session, and every turn of
the record holds a model of its kind. -/
structure Consistent (p : Progress) : Prop where
  store : ∀ id, p.store.get? id = kept (recorded id p.steps)
  models : ∀ s ∈ p.steps, ∀ turn, s.turn? = some turn → turn.model.kind = turn.kind

theorem consistent_empty : Consistent ⟨.empty, []⟩ := by
  refine ⟨fun id => ?_, fun s hs => absurd hs List.not_mem_nil⟩
  rw [recorded, List.filter_nil, List.rtakeWhile_nil, List.filterMap_nil]
  rfl

/-- A step that records no turn, resets nothing and leaves the store alone. -/
theorem Consistent.idle {p : Progress} (h : Consistent p) {s : Step} (hturn : s.turn? = none)
    (hresets : s.resets = false) : Consistent ⟨p.store, p.steps ++ [s]⟩ := by
  refine ⟨fun id => ?_, fun s' hs' turn hturn' => ?_⟩
  · rw [recorded_append, hresets, hturn, if_neg Bool.false_ne_true, Option.toList_none,
      List.append_nil, ite_self, h.store]
  · rcases List.mem_append.mp hs' with hs' | hs'
    · exact h.models s' hs' turn hturn'
    · rw [List.mem_singleton.mp hs', hturn] at hturn'
      exact absurd hturn' (by simp)

/-- A step that records a turn and puts it into the store. -/
theorem Consistent.record {p : Progress} (h : Consistent p) {s : Step} {turn : Turn}
    (hturn : s.turn? = some turn) (hresets : s.resets = false)
    (hmodel : turn.model.kind = turn.kind) :
    Consistent ⟨p.store.put s.event.id (((p.store.get? s.event.id).getD .empty).push turn),
      p.steps ++ [s]⟩ := by
  refine ⟨fun id => ?_, fun s' hs' turn' hturn' => ?_⟩
  · rw [Store.get?_put, recorded_append, hresets, hturn, if_neg Bool.false_ne_true,
      Option.toList_some]
    by_cases hid : id = s.event.id
    · rw [if_pos hid, if_pos hid.symm, h.store, push_kept, hid]
    · rw [if_neg hid, if_neg (Ne.symm hid), h.store]
  · rcases List.mem_append.mp hs' with hs' | hs'
    · exact h.models s' hs' turn' hturn'
    · rw [List.mem_singleton.mp hs', hturn] at hturn'
      exact Option.some.inj hturn' ▸ hmodel

/-- A step that resets a session and deletes its history. -/
theorem Consistent.reset {p : Progress} (h : Consistent p) {s : Step} (hturn : s.turn? = none)
    (hresets : s.resets = true) : Consistent ⟨p.store.delete s.event.id, p.steps ++ [s]⟩ := by
  refine ⟨fun id => ?_, fun s' hs' turn hturn' => ?_⟩
  · rw [Store.get?_delete, recorded_append, hresets, if_pos rfl]
    by_cases hid : id = s.event.id
    · rw [if_pos hid, if_pos hid.symm]
      rfl
    · rw [if_neg hid, if_neg (Ne.symm hid), h.store]
  · rcases List.mem_append.mp hs' with hs' | hs'
    · exact h.models s' hs' turn hturn'
    · rw [List.mem_singleton.mp hs', hturn] at hturn'
      exact absurd hturn' (by simp)

/-- **Every request keeps a run consistent**, whatever fails while it is executed. -/
theorem Consistent.next {p : Progress} (h : Consistent p) (context : Context) (e : Event) :
    Consistent (p.next context e) := by
  obtain ⟨id, action, conditions⟩ := e
  cases action with
  | submit text kind =>
    cases hload : conditions.load with
    | some fault =>
      rw [next_submit_unreadable conditions context hload]
      exact h.idle (by simp [Step.turn?, hload]) rfl
    | none =>
      rw [next_submit_readable conditions context hload]
      cases hsave : conditions.save with
      | some fault => exact h.idle (by simp [Step.turn?, hsave]) rfl
      | none =>
        -- only here is a turn recorded, and its model is of the kind that was asked for
        have hrecords (asked : List Request) (o : Outcome) :
            (Step.mk ⟨id, .submit text kind, conditions⟩ asked (.outcome o)).turn? =
              some (.ofOutcome text kind o) := by
          simp [Step.turn?, hload, hsave]
        refine h.record (hrecords _ _) rfl ?_
        exact kind_logged context.hasService conditions.react context.tuning _
  | history =>
    rw [next_history]
    exact h.idle rfl rfl
  | reset =>
    rw [next_reset]
    cases hremove : conditions.remove with
    | some fault => exact h.idle rfl (by simp [Step.resets, hremove])
    | none =>
      have hresets (asked : List Request) (removed : Bool) :
          (Step.mk ⟨id, .reset, conditions⟩ asked (.reset removed)).resets = true := by
        simp [Step.resets, hremove]
      exact h.reset rfl (hresets _ _)

/-- Every run is consistent. -/
theorem consistent_run (context : Context) (events : List Event) :
    Consistent (run context events) :=
  List.foldlRecOn events _ consistent_empty fun _ h e _ => h.next context e

theorem run_append (context : Context) (events : List Event) (e : Event) :
    run context (events ++ [e]) = (run context events).next context e := by
  rw [run, List.foldl_append]
  rfl

/-! ## Turns -/

/-- A recorded turn holds what was requested, the model that came of it, and its diagram. -/
theorem Step.eq_of_turn? {s : Step} {turn : Turn} (h : s.turn? = some turn) :
    s.event.action = .submit turn.prompt turn.kind ∧ s.event.conditions.load = none ∧
      s.event.conditions.save = none ∧ turn.diagram = Markup.render turn.model := by
  unfold Step.turn? at h
  split at h
  · rename_i text kind o haction hanswer
    split_ifs at h with hfaults
    simp only [Bool.and_eq_true, Option.isNone_iff_eq_none] at hfaults
    rw [← Option.some.inj h]
    exact ⟨haction, hfaults.1, hfaults.2, rfl⟩
  · exact absurd h (by simp)

theorem exists_step_of_mem_recorded {id : String} {steps : List Step} {turn : Turn}
    (h : turn ∈ recorded id steps) : ∃ s ∈ steps, s.event.id = id ∧ s.turn? = some turn := by
  obtain ⟨s, hs, hturn⟩ := List.mem_filterMap.mp h
  obtain ⟨hmem, hid⟩ := List.mem_filter.mp ((List.rtakeWhile_suffix _ _).subset hs)
  exact ⟨s, hmem, beq_iff_eq.mp hid, hturn⟩

theorem mem_of_mem_lastOf {α : Type} {n : Nat} {items : List α} {a : α} (h : a ∈ lastOf n items) :
    a ∈ items :=
  List.mem_of_mem_drop h

/-- The last turn of a kind is one that no other of the kind follows. -/
theorem last?_eq_some_iff {h : History} {kind : DiagramKind} {m : Model} :
    h.last? kind = some m ↔ ∃ before turn after, h.turns = before ++ turn :: after ∧
      turn.kind = kind ∧ turn.model = m ∧ ∀ t ∈ after, t.kind ≠ kind := by
  unfold History.last?
  rw [Option.map_eq_some_iff]
  constructor
  · rintro ⟨turn, hfind, rfl⟩
    -- the turns are searched from the last one, so what was passed over comes after
    obtain ⟨hkind, after, before, hsplit, hafter⟩ := List.find?_eq_some_iff_append.mp hfind
    refine ⟨before.reverse, turn, after.reverse, ?_, of_decide_eq_true hkind, rfl, ?_⟩
    · rw [← List.reverse_reverse h.turns, hsplit]
      simp
    · intro t ht
      simpa using hafter t (List.mem_reverse.mp ht)
  · rintro ⟨before, turn, after, hsplit, hkind, rfl, hafter⟩
    refine ⟨turn, List.find?_eq_some_iff_append.mpr ⟨decide_eq_true hkind, after.reverse,
      before.reverse, ?_, fun t ht => ?_⟩, rfl⟩
    · rw [hsplit]
      simp
    · simpa using hafter t (List.mem_reverse.mp ht)

theorem isSome_last?_iff {h : History} {kind : DiagramKind} :
    (h.last? kind).isSome = true ↔ ∃ turn ∈ h.turns, turn.kind = kind := by
  simp [History.last?]

/-! ## What a session edits -/

section Seeds

variable (context : Context) (events : List Event) (id : String)

/-- The history that a session has after a run. -/
def historyAfter : History := ⟨lastOf maxTurns (recorded id (run context events).steps)⟩

theorem getD_get?_run :
    ((run context events).store.get? id).getD .empty = historyAfter context events id := by
  have hturns := turns_kept (recorded id (run context events).steps)
  rw [← (consistent_run context events).store id] at hturns
  exact congrArg History.mk hturns

theorem kind_of_mem_historyAfter {turn : Turn} (h : turn ∈ (historyAfter context events id).turns) :
    turn.model.kind = turn.kind := by
  obtain ⟨s, hs, -, hturn⟩ := exists_step_of_mem_recorded (mem_of_mem_lastOf h)
  exact (consistent_run context events).models s hs turn hturn

/-- The model of the last turn of a kind is a model of that kind. -/
theorem seed_last? (text : String) (kind : DiagramKind) :
    Task.seed ⟨text, kind, (historyAfter context events id).last? kind⟩ =
      (historyAfter context events id).last? kind := by
  cases hlast : (historyAfter context events id).last? kind with
  | none => rfl
  | some m =>
    obtain ⟨before, turn, after, hsplit, hkind, rfl, -⟩ := last?_eq_some_iff.mp hlast
    have hmem : turn ∈ (historyAfter context events id).turns := by simp [hsplit]
    refine Option.filter_eq_some_iff.mpr ⟨rfl, decide_eq_true ?_⟩
    rw [kind_of_mem_historyAfter context events id hmem, hkind]

/-- What a request to generate edits: nothing if the history cannot be read, and else the model
of the last turn of its kind. -/
def seedAfter (kind : DiagramKind) (conditions : Conditions) : Option Model :=
  if conditions.load.isSome then none else (historyAfter context events id).last? kind

theorem seedAfter_of_unreadable {kind : DiagramKind} {conditions : Conditions} {fault : StoreError}
    (hload : conditions.load = some fault) : seedAfter context events id kind conditions = none := by
  rw [seedAfter, hload]
  rfl

theorem seedAfter_of_readable {kind : DiagramKind} {conditions : Conditions}
    (hload : conditions.load = none) :
    seedAfter context events id kind conditions = (historyAfter context events id).last? kind := by
  rw [seedAfter, hload]
  rfl

/-- The model that is edited is of the kind that is asked for, so no generation drops it. -/
theorem seed_seedAfter (text : String) (kind : DiagramKind) (conditions : Conditions) :
    Task.seed ⟨text, kind, seedAfter context events id kind conditions⟩ =
      seedAfter context events id kind conditions := by
  cases hload : conditions.load with
  | some fault =>
    rw [seedAfter_of_unreadable context events id hload]
    rfl
  | none => rw [seedAfter_of_readable context events id hload, seed_last?]

/-- A request to generate is the generation that edits its seed. -/
theorem steps_run_submit (text : String) (kind : DiagramKind) (conditions : Conditions) :
    (run context (events ++ [⟨id, .submit text kind, conditions⟩])).steps =
      let g := logged conditions.react (generate context.hasService context.tuning
        ⟨text, kind, seedAfter context events id kind conditions⟩)
      (run context events).steps ++ [⟨⟨id, .submit text kind, conditions⟩, g.2, .outcome g.1⟩] := by
  rw [run_append]
  cases hload : conditions.load with
  | some fault =>
    rw [next_submit_unreadable conditions context hload,
      seedAfter_of_unreadable context events id hload]
    rfl
  | none =>
    rw [next_submit_readable conditions context hload, getD_get?_run,
      seedAfter_of_readable context events id hload]
    rfl

end Seeds

/-- **What any run leaves in the store, and what every request to generate starts from.** After
a run each session has the last twenty of the turns that were recorded for it since it was
last reset, and no history if there are none. Each of them was requested with its text and
its kind when the history could be read and written, and holds a model of that kind and its
diagram. The next request to generate is a generation that edits a model exactly if the
history can be read and has a turn of the kind, and then the model of the last such turn. -/
theorem run_histories (context : Context) (events : List Event) (id : String) :
    let r := run context events
    let turns := lastOf 20 (recorded id r.steps)
    ((r.store.get? id).getD .empty).turns = turns ∧
    (r.store.get? id = none ↔ recorded id r.steps = []) ∧
    (∀ turn ∈ turns, turn.model.kind = turn.kind ∧ turn.diagram = Markup.render turn.model ∧
      ∃ s ∈ r.steps, s.turn? = some turn ∧ s.event.id = id ∧
        s.event.action = .submit turn.prompt turn.kind ∧
        s.event.conditions.load = none ∧ s.event.conditions.save = none) ∧
    ∀ text kind conditions, ∃ seed : Option Model,
      let task : Task := ⟨text, kind, seed⟩
      let g := logged conditions.react (generate context.hasService context.tuning task)
      (run context (events ++ [⟨id, .submit text kind, conditions⟩])).steps =
        r.steps ++ [⟨⟨id, .submit text kind, conditions⟩, g.2, .outcome g.1⟩] ∧
      task.seed = seed ∧
      (∀ request ∈ g.2, request.prompt = Generation.prompt text kind task.draft seed) ∧
      (seed.isSome ↔ conditions.load = none ∧ ∃ turn ∈ turns, turn.kind = kind) ∧
      (∀ m, seed = some m ↔ conditions.load = none ∧
        ∃ before turn after, turns = before ++ turn :: after ∧ turn.kind = kind ∧
          turn.model = m ∧ ∀ t ∈ after, t.kind ≠ kind) := by
  intro r turns
  refine ⟨?_, ?_, fun turn hturn => ?_, fun text kind conditions => ?_⟩
  · exact congrArg History.turns (getD_get?_run context events id)
  · rw [(consistent_run context events).store id, kept]
    split_ifs with h
    · exact iff_of_true rfl h
    · exact iff_of_false (by simp) h
  · obtain ⟨s, hs, hid, hrecorded⟩ := exists_step_of_mem_recorded (mem_of_mem_lastOf hturn)
    obtain ⟨haction, hload, hsave, hdiagram⟩ := Step.eq_of_turn? hrecorded
    exact ⟨kind_of_mem_historyAfter context events id hturn, hdiagram, s, hs, hrecorded, hid, haction,
      hload, hsave⟩
  · have hseed := seed_seedAfter context events id text kind conditions
    refine ⟨seedAfter context events id kind conditions,
      steps_run_submit context events id text kind conditions, hseed, fun request hrequest => ?_, ?_⟩
    · rw [prompt_of_mem_logged hrequest, hseed]
    · cases hload : conditions.load with
      | some fault =>
        rw [seedAfter_of_unreadable context events id hload]
        simp
      | none =>
        rw [seedAfter_of_readable context events id hload]
        refine ⟨?_, fun m => ?_⟩
        · rw [isSome_last?_iff, eq_self, true_and]
          rfl
        · rw [last?_eq_some_iff, eq_self, true_and]
          rfl

end Draftsman.Session
