/-
What a store holds after requests to one session that overlap.

A request is a procedure, and requests that overlap take turns making its calls: a schedule
says whose call is next. A single call is never torn, but nothing keeps a request from storing
a history that it read before another request wrote. What the requests do to the store is
therefore read off the trace of their calls. Each of them writes once, either what it makes of
the history it read, or nothing at all if it resets the session (`Explained`).

From the trace alone it follows what the session has in the end: what some of the requests
leave that are executed one after the other, in the order in which they wrote and with the
last one among them. It is what all of them leave if after the last reset no request stored a
history over one that it had not read (`Settled`). Both are inductions on the trace, and the
trace of every schedule is explained by an induction on the schedule
(`interleave_histories`).
-/
import Draftsman.Proofs.Session.Histories
import Mathlib.Data.List.Permutation

set_option autoImplicit false

namespace Draftsman.Session

open Draftsman.Service Draftsman.Generation Draftsman.Session.History

/-! ## Procedures in steps -/

namespace Procedure

variable {α β : Type}

/-- A procedure whose result is changed when it is done. -/
def map (f : α → β) : Procedure α → Procedure β
  | done result => .done (f result)
  | load id next => .load id fun answer => (next answer).map f
  | save id history next => .save id history fun answer => (next answer).map f
  | remove id next => .remove id fun answer => (next answer).map f
  | ask request next => .ask request fun reaction => (next reaction).map f

/-- Makes the next call of a procedure. One that is done has none. -/
def step {m : Type → Type} [Monad m] (means : Means m) : Procedure α → m (Procedure α)
  | done result => pure (.done result)
  | load id next => next <$> means.load id
  | save id history next => next <$> means.save id history
  | remove id next => next <$> means.remove id
  | ask request next => next <$> means.ask request

/-- Whether no call is left. -/
def isDone : Procedure α → Bool
  | done _ => true
  | _ => false

theorem run_map {m : Type → Type} [Monad m] [LawfulMonad m] (means : Means m) (f : α → β)
    (p : Procedure α) : (p.map f).run means = f <$> p.run means := by
  induction p with
  | done result => simp [map, run]
  | load id next ih => simp [map, run, ih]
  | save id history next ih => simp [map, run, ih]
  | remove id next ih => simp [map, run, ih]
  | ask request next ih => simp [map, run, ih]

end Procedure

/-- A request as a procedure. -/
def Event.procedure (context : Context) (e : Event) : Procedure Answer :=
  match e.action with
  | .submit text kind => (context.submit e.id text kind).map .outcome
  | .history => (Session.history e.id).map .history
  | .reset => (Session.reset e.id).map .reset

/-- A request is executed by making all its calls. -/
theorem perform_eq (context : Context) (e : Event) :
    e.perform context = (e.procedure context).run e.conditions.means := by
  unfold Event.perform Event.procedure
  cases e.action with
  | submit text kind => exact (Procedure.run_map _ _ _).symm
  | history => exact (Procedure.run_map _ _ _).symm
  | reset => exact (Procedure.run_map _ _ _).symm

/-! ## Interleavings -/

/-- The calls of a store. -/
inductive StoreCall where
  | load
  | save
  | remove
deriving DecidableEq, Repr

/-- The call to the store that a procedure makes next, and the id that it is about. -/
def Procedure.storeCall? {α : Type} : Procedure α → Option (StoreCall × String)
  | .load id _ => some (.load, id)
  | .save id _ _ => some (.save, id)
  | .remove id _ => some (.remove, id)
  | _ => none

/-- A call that was made: which request made it, and the history that was in the store when it
did. -/
structure Access where
  job : Nat
  call : StoreCall
  found : Option History
deriving DecidableEq

/-- A request that is being executed, and what is left of it. -/
structure Strand where
  event : Event
  rest : Procedure Answer

/-- Requests that overlap: what they share, what is left of each, and the calls of the store
that they made. -/
structure Pool where
  world : World
  strands : List Strand
  trace : List Access

namespace Pool

/-- Requests of which none has made a call yet. -/
def start (context : Context) (store : Store) (events : List Event) : Pool :=
  ⟨⟨store, []⟩, events.map fun e => ⟨e, e.procedure context⟩, []⟩

/-- The next call of the request with the given number. -/
def next (p : Pool) (i : Nat) : Pool :=
  match p.strands[i]? with
  | none => p
  | some s =>
    let (rest, world) := Id.run ((s.rest.step s.event.conditions.means).run p.world)
    ⟨world, p.strands.set i { s with rest := rest },
      p.trace ++ (s.rest.storeCall?.map fun c => ⟨i, c.1, p.world.store.get? c.2⟩).toList⟩

/-- Whether no request has a call left. -/
def finished (p : Pool) : Bool := p.strands.all fun s => s.rest.isDone

end Pool

/-- The requests over a store, with their calls in the order of a schedule. -/
def interleave (context : Context) (store : Store) (events : List Event) (schedule : List Nat) :
    Pool :=
  schedule.foldl Pool.next (Pool.start context store events)

/-- The requests over a store, one after the other. -/
def runFrom (context : Context) (store : Store) (events : List Event) : Progress :=
  events.foldl (Progress.next context) ⟨store, []⟩

/-! ## Requests that write -/

/-- What is requested of a session that may change its history. -/
inductive Call where
  | submit (text : String) (kind : DiagramKind)
  | reset

/-- A request that may change a history, and how the service reacts to it. -/
structure Job where
  call : Call
  react : Request → Reaction

namespace Job

/-- The request to a session, over a store that never fails. -/
def event (id : String) (j : Job) : Event :=
  ⟨id, match j.call with | .submit text kind => .submit text kind | .reset => .reset,
    ⟨none, none, none, j.react⟩⟩

/-- The history that a request leaves, if it has found the given one. -/
def stored (context : Context) (j : Job) (found : Option History) : Option History :=
  match j.call with
  | .submit text kind =>
    let h := found.getD .empty
    some (h.push (.ofOutcome text kind
      (logged j.react (context.generation text kind (some h))).1))
  | .reset => none

end Job

section Sequences

variable (context : Context) {id : String}

theorem get?_next (p : Progress) (j : Job) :
    (p.next context (j.event id)).store.get? id = j.stored context (p.store.get? id) := by
  obtain ⟨call, react⟩ := j
  cases call with
  | submit text kind =>
    show (p.next context ⟨id, .submit text kind, ⟨none, none, none, react⟩⟩).store.get? id = _
    rw [next_submit_readable _ context rfl]
    exact (Store.get?_put ..).trans (if_pos rfl)
  | reset =>
    show (p.next context ⟨id, .reset, ⟨none, none, none, react⟩⟩).store.get? id = _
    rw [next_reset]
    exact (Store.get?_delete ..).trans (if_pos rfl)

/-- What jobs leave one after the other. -/
def replay (first : Option History) (jobs : List Job) : Option History :=
  jobs.foldl (fun found j => j.stored context found) first

theorem replay_concat (first : Option History) (jobs : List Job) (j : Job) :
    replay context first (jobs ++ [j]) = j.stored context (replay context first jobs) := by
  rw [replay, List.foldl_append]
  rfl

theorem get?_runFrom (store : Store) (jobs : List Job) :
    (runFrom context store (jobs.map (Job.event id))).store.get? id =
      replay context (store.get? id) jobs := by
  induction jobs using List.reverseRecOn with
  | nil => rfl
  | append_singleton jobs j ih =>
    rw [replay_concat, ← ih, ← get?_next, List.map_append, runFrom, List.foldl_append]
    rfl

/-! ### Turns -/

/-- The turns of a session after some steps: those that it had, unless it was reset, and those
that were recorded since. -/
def turnsAfter (id : String) (turns : List Turn) (steps : List Step) : List Turn :=
  (if steps.any Step.resets then [] else turns) ++ recorded id steps

omit context in
theorem turnsAfter_append (turns : List Turn) (steps : List Step) {s : Step}
    (hs : s.event.id = id) :
    turnsAfter id turns (steps ++ [s]) =
      if s.resets then [] else turnsAfter id turns steps ++ s.turn?.toList := by
  rw [turnsAfter, recorded_append, if_pos hs, List.any_append, List.any_cons, List.any_nil,
    Bool.or_false]
  cases hresets : s.resets with
  | true => rw [Bool.or_true, if_pos rfl, if_pos rfl, if_pos rfl, List.nil_append]
  | false =>
    rw [Bool.or_false, if_neg Bool.false_ne_true, if_neg Bool.false_ne_true, turnsAfter,
      List.append_assoc]

/-- A request in a sequence is one more step: a reset, which leaves nothing, or one that puts its
turn into the history. -/
theorem exists_step (id : String) (p : Progress) (j : Job) :
    ∃ s : Step, (p.next context (j.event id)).steps = p.steps ++ [s] ∧ s.event.id = id ∧
      ((s.resets = true ∧ j.stored context (p.store.get? id) = none) ∨
        (s.resets = false ∧ ∃ turn, s.turn? = some turn ∧
          j.stored context (p.store.get? id) =
            some (((p.store.get? id).getD .empty).push turn))) := by
  obtain ⟨call, react⟩ := j
  cases call with
  | submit text kind =>
    refine ⟨_, congrArg Progress.steps (next_submit_readable _ context ?_ p), rfl, .inr ?_⟩
    · rfl
    · exact ⟨rfl, _, rfl, rfl⟩
  | reset =>
    exact ⟨_, congrArg Progress.steps (next_reset _ context p), rfl, .inl ⟨rfl, rfl⟩⟩

/-- **One more request keeps the last of the turns**, if a turn that is put into the history before
it comes after all the turns. -/
theorem kept_turnsAfter_next {p : Progress} {turns : List Turn}
    (h : ∀ turn, some (((p.store.get? id).getD .empty).push turn) =
      kept (turnsAfter id turns p.steps ++ [turn])) (j : Job) :
    (p.next context (j.event id)).store.get? id =
      kept (turnsAfter id turns (p.next context (j.event id)).steps) := by
  obtain ⟨s, hsteps, hid, ⟨hresets, hstored⟩ | ⟨hresets, turn, hturn, hstored⟩⟩ :=
    exists_step context id p j
  · rw [get?_next, hstored, hsteps, turnsAfter_append turns p.steps hid, if_pos hresets]
    rfl
  · rw [get?_next, hstored, h, hsteps, turnsAfter_append turns p.steps hid, hturn,
      if_neg (Bool.eq_false_iff.mp hresets), Option.toList_some]

theorem kept_turnsAfter_runFrom (store : Store) {jobs : List Job} (hne : jobs ≠ []) :
    (runFrom context store (jobs.map (Job.event id))).store.get? id =
      kept (turnsAfter id ((store.get? id).getD .empty).turns
        (runFrom context store (jobs.map (Job.event id))).steps) := by
  induction jobs using List.reverseRecOn with
  | nil => exact absurd rfl hne
  | append_singleton jobs j ih =>
    rw [List.map_append, runFrom, List.foldl_append]
    refine kept_turnsAfter_next context (fun turn => ?_) j
    by_cases hjobs : jobs = []
    · -- the first request finds what the session had at first
      subst hjobs
      have hfirst : turnsAfter id ((store.get? id).getD .empty).turns [] =
          ((store.get? id).getD .empty).turns := List.append_nil _
      show some (((store.get? id).getD .empty).push turn) = kept (turnsAfter id _ [] ++ [turn])
      rw [hfirst, kept, if_neg (by simp)]
      rfl
    · have hstore := ih hjobs
      rw [runFrom] at hstore
      rw [hstore]
      exact push_kept _ turn

end Sequences

/-! ## Traces -/

/-- The requests that wrote, in the order in which they did. -/
def writers (trace : List Access) : List Nat :=
  (trace.filter fun a => a.call != .load).map Access.job

/-- The calls after the last reset. -/
def sinceReset (trace : List Access) : List Access :=
  trace.rtakeWhile fun a => a.call != .remove

/-- After the last reset every request that stored a history found the one that it had read. -/
def Settled (trace : List Access) : Prop :=
  ∀ a ∈ sinceReset trace, a.call = .save → ⟨a.job, .load, a.found⟩ ∈ trace

instance (trace : List Access) : Decidable (Settled trace) :=
  inferInstanceAs
    (Decidable (∀ a ∈ sinceReset trace, a.call = .save → ⟨a.job, .load, a.found⟩ ∈ trace))

theorem writers_append (trace more : List Access) :
    writers (trace ++ more) = writers trace ++ writers more := by
  rw [writers, List.filter_append, List.map_append]
  rfl

theorem sinceReset_concat (trace : List Access) {a : Access} (ha : a.call ≠ .remove) :
    sinceReset (trace ++ [a]) = sinceReset trace ++ [a] := by
  rw [sinceReset, List.rtakeWhile_concat, if_pos (by simpa using ha), sinceReset]

section Traces

variable (context : Context) (jobs : List Job) (first : Option History)

/-- A trace of requests to one session, and the history that it leaves: each request reads once
before it writes, and writes once. What it writes is what it makes of the history that it read,
whatever is in the store by then. -/
inductive Explained : List Access → Option History → Prop
  | start : Explained [] first
  | load {trace : List Access} {found : Option History} {i : Nat} (h : Explained trace found)
      (hload : ∀ f, ⟨i, .load, f⟩ ∉ trace) (hwrite : i ∉ writers trace) :
      Explained (trace ++ [⟨i, .load, found⟩]) found
  | save {trace : List Access} {found read : Option History} {i : Nat} {j : Job}
      (h : Explained trace found) (hj : jobs[i]? = some j) (hload : ⟨i, .load, read⟩ ∈ trace)
      (hwrite : i ∉ writers trace) :
      Explained (trace ++ [⟨i, .save, found⟩]) (j.stored context read)
  | remove {trace : List Access} {found : Option History} {i : Nat} {j : Job}
      (h : Explained trace found) (hj : jobs[i]? = some j) (hwrite : i ∉ writers trace)
      (hreset : ∀ f, j.stored context f = none) :
      Explained (trace ++ [⟨i, .remove, found⟩]) none

/-- The requests that wrote, in the order in which they did, as jobs. -/
def order (jobs : List Job) (trace : List Access) : List Job :=
  (writers trace).filterMap fun i => jobs[i]?

variable {context jobs first} {trace : List Access} {found : Option History}

theorem writers_concat_load (i : Nat) (found : Option History) :
    writers (trace ++ [⟨i, .load, found⟩]) = writers trace := by
  rw [writers_append]
  exact List.append_nil _

theorem writers_concat_write (i : Nat) {call : StoreCall} (hcall : call ≠ .load)
    (found : Option History) : writers (trace ++ [⟨i, call, found⟩]) = writers trace ++ [i] := by
  rw [writers_append]
  simp [writers, hcall]

theorem order_concat_load (i : Nat) (found : Option History) :
    order jobs (trace ++ [⟨i, .load, found⟩]) = order jobs trace := by
  rw [order, writers_concat_load, order]

theorem order_concat_write {i : Nat} {j : Job} (hj : jobs[i]? = some j) {call : StoreCall}
    (hcall : call ≠ .load) (found : Option History) :
    order jobs (trace ++ [⟨i, call, found⟩]) = order jobs trace ++ [j] := by
  rw [order, writers_concat_write i hcall, List.filterMap_append, order,
    List.filterMap_cons_some hj, List.filterMap_nil]

/-- No request writes twice. -/
theorem Explained.nodup_writers (h : Explained context jobs first trace found) :
    (writers trace).Nodup := by
  induction h with
  | start => exact List.nodup_nil
  | load h hload hwrite ih => rwa [writers_concat_load]
  | save h hj hload hwrite ih =>
    rw [writers_concat_write _ (by decide), ← List.concat_eq_append]
    exact ih.concat hwrite
  | remove h hj hwrite hreset ih =>
    rw [writers_concat_write _ (by decide), ← List.concat_eq_append]
    exact ih.concat hwrite

/-- Only requests that there are write. -/
theorem Explained.lt_of_mem_writers (h : Explained context jobs first trace found) {i : Nat}
    (hi : i ∈ writers trace) : i < jobs.length := by
  induction h with
  | start => exact absurd hi List.not_mem_nil
  | load h hload hwrite ih =>
    rw [writers_concat_load] at hi
    exact ih hi
  | save h hj hload hwrite ih =>
    rw [writers_concat_write _ (by decide)] at hi
    rcases List.mem_append.mp hi with hi | hi
    · exact ih hi
    · rw [List.mem_singleton.mp hi]
      exact (List.getElem?_eq_some_iff.mp hj).1
  | remove h hj hwrite hreset ih =>
    rw [writers_concat_write _ (by decide)] at hi
    rcases List.mem_append.mp hi with hi | hi
    · exact ih hi
    · rw [List.mem_singleton.mp hi]
      exact (List.getElem?_eq_some_iff.mp hj).1

/-- No request reads twice. -/
theorem Explained.load_unique (h : Explained context jobs first trace found) {i : Nat}
    {read read' : Option History} (hread : ⟨i, .load, read⟩ ∈ trace)
    (hread' : ⟨i, .load, read'⟩ ∈ trace) : read = read' := by
  induction h with
  | start => exact absurd hread List.not_mem_nil
  | load h hload hwrite ih =>
    rcases List.mem_append.mp hread with hread | hread <;>
      rcases List.mem_append.mp hread' with hread' | hread'
    · exact ih hread hread'
    · simp only [List.mem_singleton, Access.mk.injEq] at hread'
      exact absurd (hread'.1 ▸ hread) (hload read)
    · simp only [List.mem_singleton, Access.mk.injEq] at hread
      exact absurd (hread.1 ▸ hread') (hload read')
    · simp only [List.mem_singleton, Access.mk.injEq] at hread hread'
      rw [hread.2.2, hread'.2.2]
  | save h hj hload hwrite ih =>
    exact ih (by simpa using hread) (by simpa using hread')
  | remove h hj hwrite hreset ih =>
    exact ih (by simpa using hread) (by simpa using hread')

/-- What a request has just stored is what it makes of the history that it read, whatever it
found in the store. -/
theorem Explained.eq_stored {i : Nat} {found' read : Option History}
    (h : Explained context jobs first (trace ++ [⟨i, .save, found'⟩]) found)
    (hread : ⟨i, .load, read⟩ ∈ trace) :
    ∃ j, jobs[i]? = some j ∧ found = j.stored context read := by
  generalize htrace : trace ++ [⟨i, .save, found'⟩] = trace' at h
  cases h with
  | start => exact absurd htrace (by simp)
  | load => exact absurd (List.append_inj' htrace rfl).2 (by simp)
  | remove => exact absurd (List.append_inj' htrace rfl).2 (by simp)
  | save h hj hload =>
    obtain ⟨rfl, hlast⟩ := List.append_inj' htrace rfl
    simp only [List.cons.injEq, Access.mk.injEq, and_true] at hlast
    obtain ⟨rfl, -⟩ := hlast
    exact ⟨_, hj, by rw [h.load_unique hread hload]⟩

/-- **What the session has at any time is what some of the requests leave one after the other**,
in the order in which they wrote, and the last of them is the last one to write. What a request
reads is such a history too. -/
theorem Explained.exists_chain (h : Explained context jobs first trace found) :
    (∃ chain, chain.Sublist (order jobs trace) ∧ chain.getLast? = (order jobs trace).getLast? ∧
      found = replay context first chain) ∧
    ∀ i read, ⟨i, .load, read⟩ ∈ trace → ∃ chain, chain.Sublist (order jobs trace) ∧
      read = replay context first chain := by
  induction h with
  | start =>
    exact ⟨⟨[], List.Sublist.refl _, rfl, rfl⟩, fun i read h => absurd h List.not_mem_nil⟩
  | load h hload hwrite ih =>
    rw [order_concat_load]
    refine ⟨ih.1, fun i read hread => ?_⟩
    rcases List.mem_append.mp hread with hread | hread
    · exact ih.2 i read hread
    · simp only [List.mem_singleton, Access.mk.injEq] at hread
      obtain ⟨chain, hchain, -, hfound⟩ := ih.1
      exact ⟨chain, hchain, hread.2.2.trans hfound⟩
  | save h hj hload hwrite ih =>
    -- the chain of what was read goes on with the request that writes
    rw [order_concat_write hj (by decide)]
    obtain ⟨chain, hchain, hread⟩ := ih.2 _ _ hload
    refine ⟨⟨chain ++ [_], hchain.append (List.Sublist.refl _), ?_, ?_⟩, fun i read hread' => ?_⟩
    · rw [List.getLast?_concat, List.getLast?_concat]
    · rw [replay_concat, ← hread]
    · obtain ⟨chain', hchain', heq⟩ := ih.2 i read (by simpa using hread')
      exact ⟨chain', hchain'.trans (List.sublist_append_left _ _), heq⟩
  | remove h hj hwrite hreset ih =>
    rw [order_concat_write hj (by decide)]
    refine ⟨⟨_, List.Sublist.refl _, rfl, ?_⟩, fun i read hread => ?_⟩
    · rw [replay_concat, hreset]
    · obtain ⟨chain, hchain, heq⟩ := ih.2 i read (by simpa using hread)
      exact ⟨chain, hchain.trans (List.sublist_append_left _ _), heq⟩

/-- A longer trace without a reset at its end is settled only if the shorter one is. -/
theorem Settled.of_concat {a : Access} (h : Settled (trace ++ [a])) (ha : a.call ≠ .remove)
    (hload : a.call = .load → a.job ∉ writers trace) : Settled trace := by
  intro b hb hsave
  have hmem := h b (by rw [sinceReset_concat trace ha]; exact List.mem_append_left _ hb) hsave
  rcases List.mem_append.mp hmem with hmem | hmem
  · exact hmem
  · -- the request would have to read after it has written
    rw [List.mem_singleton] at hmem
    have hwriter : b.job ∈ writers trace := by
      have hb' : b ∈ trace := (List.rtakeWhile_suffix _ _).subset hb
      exact List.mem_map.mpr ⟨b, List.mem_filter.mpr ⟨hb', by rw [hsave]; rfl⟩, rfl⟩
    rw [← hmem] at hload
    exact absurd hwriter (hload rfl)

/-- The last request of a settled trace, if it stored a history, had read the one that it found. -/
theorem Settled.read_of_concat {i : Nat} (h : Settled (trace ++ [⟨i, .save, found⟩])) :
    ⟨i, .load, found⟩ ∈ trace := by
  have hlast : ⟨i, .save, found⟩ ∈ sinceReset (trace ++ [⟨i, .save, found⟩]) := by
    rw [sinceReset_concat trace (by simp)]
    exact List.mem_append_right _ (List.mem_singleton_self _)
  simpa using h _ hlast rfl

/-- **What a settled trace leaves is what all its requests leave one after the other**, in the
order in which they wrote. -/
theorem Explained.eq_replay (h : Explained context jobs first trace found)
    (hsettled : Settled trace) : found = replay context first (order jobs trace) := by
  induction h with
  | start => rfl
  | load h hload hwrite ih =>
    rw [order_concat_load]
    exact ih (hsettled.of_concat (by simp) fun _ => hwrite)
  | save h hj hload hwrite ih =>
    -- what the request found is what it read, and by induction what all before it leave
    have hfound := ih (hsettled.of_concat (by simp) (by simp))
    rw [order_concat_write hj (by decide), replay_concat, ← hfound]
    rw [h.load_unique hload hsettled.read_of_concat]
  | remove h hj hwrite hreset ih => rw [order_concat_write hj (by decide), replay_concat, hreset]

end Traces

/-! ## What a schedule does

A request to generate has read nothing yet, or it is on its way from what it has read to what
it stores, or it is done. A request to reset is done after one call. -/

section Schedules

variable (context : Context) (id : String)

/-- What is left of a request that has read a history: it stores what it makes of that one,
perhaps after it has asked the service. -/
inductive Pending (j : Job) (read : Option History) : Procedure Answer → Prop
  | saving {h : History} {answer : Answer} (hstored : j.stored context read = some h) :
      Pending j read (.save id h fun _ => .done answer)
  | asking {request : Request} {next : Reaction → Procedure Answer}
      (hnext : Pending j read (next (j.react request))) : Pending j read (.ask request next)

/-- What is left of the request with the given number, by what the trace has of it. -/
inductive Stage (j : Job) (i : Nat) (trace : List Access) : Procedure Answer → Prop
  | fresh (hload : ∀ f, ⟨i, .load, f⟩ ∉ trace) (hwrite : i ∉ writers trace) :
      Stage j i trace ((j.event id).procedure context)
  | pending {read : Option History} {rest : Procedure Answer} (hload : ⟨i, .load, read⟩ ∈ trace)
      (hwrite : i ∉ writers trace) (hrest : Pending context id j read rest) : Stage j i trace rest
  | finished {answer : Answer} (hwrite : i ∈ writers trace) : Stage j i trace (.done answer)

variable {context id}

/-- The calls of other requests do not change the stage of a request. -/
theorem Stage.append {j : Job} {i : Nat} {trace more : List Access} {rest : Procedure Answer}
    (h : Stage context id j i trace rest) (hmore : ∀ a ∈ more, a.job ≠ i) :
    Stage context id j i (trace ++ more) rest := by
  have hwriters : i ∈ writers (trace ++ more) ↔ i ∈ writers trace := by
    rw [writers_append, List.mem_append]
    refine or_iff_left fun hmem => ?_
    obtain ⟨a, ha, rfl⟩ := List.mem_map.mp hmem
    exact hmore a (List.mem_filter.mp ha).1 rfl
  have hreads (f : Option History) :
      ⟨i, .load, f⟩ ∈ trace ++ more ↔ ⟨i, .load, f⟩ ∈ trace := by
    rw [List.mem_append]
    exact or_iff_left fun hmem => hmore _ hmem rfl
  cases h with
  | fresh hload hwrite =>
    exact .fresh (fun f => (hreads f).not.mpr (hload f)) (hwriters.not.mpr hwrite)
  | pending hload hwrite hrest =>
    exact .pending ((hreads _).mpr hload) (hwriters.not.mpr hwrite) hrest
  | finished hwrite => exact .finished (hwriters.mpr hwrite)

/-- The trace of the calls made so far explains what the session has, and the stage of every
request. -/
structure Pool.Explained (context : Context) (id : String) (jobs : List Job)
    (first : Option History) (p : Pool) : Prop where
  events : p.strands.map Strand.event = jobs.map (Job.event id)
  trace : Session.Explained context jobs first p.trace (p.world.store.get? id)
  stages : ∀ i s j, p.strands[i]? = some s → jobs[i]? = some j →
    Stage context id j i p.trace s.rest

variable {jobs : List Job} {first : Option History} {p : Pool}

theorem Pool.explained_start (store : Store) :
    (Pool.start context store (jobs.map (Job.event id))).Explained context id jobs
      (store.get? id) := by
  refine ⟨?_, .start, fun i s j hs hj => ?_⟩
  · rw [Pool.start, List.map_map]
    exact List.map_id _
  · rw [Pool.start, List.getElem?_map, List.getElem?_map, hj] at hs
    rw [← Option.some.inj hs]
    exact .fresh (fun f => List.not_mem_nil) List.not_mem_nil

/-- The next call of a request, if the trace goes on to explain what the session has and what is
left of the request. -/
theorem Pool.Explained.advance (h : p.Explained context id jobs first) {i : Nat} {s : Strand}
    {j : Job} (hs : p.strands[i]? = some s) (hj : jobs[i]? = some j) {rest : Procedure Answer}
    {world : World} {more : List Access} (hmore : ∀ a ∈ more, a.job = i)
    (htrace : Session.Explained context jobs first (p.trace ++ more) (world.store.get? id))
    (hstage : Stage context id j i (p.trace ++ more) rest) :
    Pool.Explained context id jobs first
      ⟨world, p.strands.set i { s with rest := rest }, p.trace ++ more⟩ := by
  refine ⟨?_, htrace, fun k s' j' hs' hj' => ?_⟩
  · rw [List.map_set, ← h.events]
    refine List.ext_getElem? fun k => ?_
    rw [List.getElem?_set]
    split_ifs with hk hlt
    · rw [← hk, List.getElem?_map, hs]
      rfl
    · rw [← hk, List.getElem?_eq_none (Nat.not_lt.mp hlt)]
    · rfl
  · rw [List.getElem?_set] at hs'
    split_ifs at hs' with hk hlt
    · subst hk
      rw [← Option.some.inj hs', ← Option.some.inj (hj.symm.trans hj')]
      exact hstage
    · exact (h.stages k s' j' hs' hj').append fun a ha hak => hk ((hmore a ha).symm.trans hak)

/-- What a step of a request does. -/
theorem Pool.next_eq {i : Nat} {s : Strand} (hs : p.strands[i]? = some s) {rest : Procedure Answer}
    {world : World}
    (hstep : Id.run ((s.rest.step s.event.conditions.means).run p.world) = (rest, world)) :
    p.next i = ⟨world, p.strands.set i { s with rest := rest },
      p.trace ++ (s.rest.storeCall?.map fun c => ⟨i, c.1, p.world.store.get? c.2⟩).toList⟩ := by
  simp only [Pool.next, hs, hstep]

/-- A request that has read and not yet written makes its next call. -/
theorem Pool.Explained.next_pending (h : p.Explained context id jobs first) {i : Nat} {s : Strand}
    {j : Job} (hs : p.strands[i]? = some s) (hj : jobs[i]? = some j) (hevent : s.event = j.event id)
    {read : Option History} (hload : ⟨i, .load, read⟩ ∈ p.trace) (hwrite : i ∉ writers p.trace)
    (hrest : Pending context id j read s.rest) :
    (p.next i).Explained context id jobs first := by
  obtain ⟨event, rest⟩ := s
  dsimp only at hevent hrest
  subst hevent
  cases hrest with
  | asking hnext =>
    -- the service is asked, and the store does not change
    rw [Pool.next_eq hs rfl]
    refine h.advance hs hj (fun a ha => absurd ha List.not_mem_nil) ?_ ?_
    · exact (List.append_nil p.trace).symm ▸ h.trace
    · exact (List.append_nil p.trace).symm ▸ .pending hload hwrite hnext
  | saving hstored =>
    rw [Pool.next_eq hs rfl]
    refine h.advance hs hj (fun a ha => by rw [List.mem_singleton.mp ha]) ?_ ?_
    · refine (Store.get?_put p.world.store id id _).trans (if_pos rfl) ▸ ?_
      rw [← hstored]
      exact .save h.trace hj hload hwrite
    · refine .finished ?_
      rw [writers_append]
      exact List.mem_append_right _ (List.mem_singleton_self i)

/-- What is left of a request to generate that has read a history. -/
theorem pending_ofGeneration (text : String) (kind : DiagramKind) (react : Request → Reaction)
    (read : Option History) :
    Pending context id ⟨.submit text kind, react⟩ read
      ((Procedure.ofGeneration
        (fun o => .save id ((read.getD .empty).push (.ofOutcome text kind o)) fun _ => .done o)
        (context.generation text kind (some (read.getD .empty)))).map .outcome) := by
  have hstored : Job.stored context ⟨.submit text kind, react⟩ read =
      some ((read.getD .empty).push (.ofOutcome text kind
        (logged react (context.generation text kind (some (read.getD .empty)))).1)) := rfl
  cases hgeneration : context.generation text kind (some (read.getD .empty)) with
  | settled outcome =>
    rw [hgeneration] at hstored
    exact .saving hstored
  | waiting request conclude =>
    rw [hgeneration] at hstored
    exact .asking (.saving hstored)

/-- A request that has made no call makes its first one. -/
theorem Pool.Explained.next_fresh (h : p.Explained context id jobs first) {i : Nat} {s : Strand}
    {j : Job} (hs : p.strands[i]? = some s) (hj : jobs[i]? = some j) (hevent : s.event = j.event id)
    (hload : ∀ f, ⟨i, .load, f⟩ ∉ p.trace) (hwrite : i ∉ writers p.trace)
    (hrest : s.rest = (j.event id).procedure context) :
    (p.next i).Explained context id jobs first := by
  obtain ⟨event, rest⟩ := s
  obtain ⟨call, react⟩ := j
  dsimp only at hevent hrest
  subst hevent hrest
  cases call with
  | submit text kind =>
    rw [Pool.next_eq hs rfl]
    refine h.advance hs hj (fun a ha => by rw [List.mem_singleton.mp ha]) ?_ ?_
    · exact .load h.trace hload hwrite
    · refine .pending (List.mem_append_right _ (List.mem_singleton_self _)) ?_
        (pending_ofGeneration text kind react _)
      exact (writers_concat_load i _).symm ▸ hwrite
  | reset =>
    rw [Pool.next_eq hs rfl]
    refine h.advance hs hj (fun a ha => by rw [List.mem_singleton.mp ha]) ?_ ?_
    · refine (Store.get?_delete p.world.store id id).trans (if_pos rfl) ▸ ?_
      exact .remove h.trace hj hwrite fun _ => rfl
    · refine .finished ?_
      rw [writers_append]
      exact List.mem_append_right _ (List.mem_singleton_self i)

/-- A request that is done makes no call. -/
theorem Pool.Explained.next_finished (h : p.Explained context id jobs first) {i : Nat} {s : Strand}
    {j : Job} (hs : p.strands[i]? = some s) (hj : jobs[i]? = some j) {answer : Answer}
    (hrest : s.rest = .done answer) (hwrite : i ∈ writers p.trace) :
    (p.next i).Explained context id jobs first := by
  obtain ⟨event, rest⟩ := s
  dsimp only at hrest
  subst hrest
  rw [Pool.next_eq hs rfl]
  refine h.advance hs hj (fun a ha => absurd ha List.not_mem_nil) ?_ ?_
  · exact (List.append_nil p.trace).symm ▸ h.trace
  · exact (List.append_nil p.trace).symm ▸ .finished hwrite

/-- **Every call keeps the trace explained**, whichever request makes it. -/
theorem Pool.Explained.next (h : p.Explained context id jobs first) (i : Nat) :
    (p.next i).Explained context id jobs first := by
  cases hs : p.strands[i]? with
  | none =>
    have hidle : p.next i = p := by simp only [Pool.next, hs]
    rw [hidle]
    exact h
  | some s =>
    have hevents := congrArg (fun events => events[i]?) h.events
    simp only [List.getElem?_map, hs, Option.map_some] at hevents
    obtain ⟨j, hj, hevent⟩ := Option.map_eq_some_iff.mp hevents.symm
    have hstage := h.stages i s j hs hj
    generalize hrest : s.rest = rest at hstage
    cases hstage with
    | fresh hload hwrite => exact h.next_fresh hs hj hevent.symm hload hwrite hrest
    | pending hload hwrite hpending =>
      exact h.next_pending hs hj hevent.symm hload hwrite (hrest ▸ hpending)
    | finished hwrite => exact h.next_finished hs hj hrest hwrite

/-- **Every schedule has an explained trace.** -/
theorem explained_interleave (context : Context) (id : String) (jobs : List Job) (store : Store)
    (schedule : List Nat) :
    (interleave context store (jobs.map (Job.event id)) schedule).Explained context id jobs
      (store.get? id) :=
  List.foldlRecOn schedule _ (Pool.explained_start store) fun _ h i _ => h.next i

/-! ## When all requests are done -/

theorem filterMap_range_getElem? {α : Type} (items : List α) :
    (List.range items.length).filterMap (fun i => items[i]?) = items := by
  induction items using List.reverseRecOn with
  | nil => rfl
  | append_singleton items item ih =>
    have hbefore : ∀ i ∈ List.range items.length, (items ++ [item])[i]? = items[i]? := fun i hi =>
      List.getElem?_append_left (List.mem_range.mp hi)
    have hlast : (items ++ [item])[items.length]? = some item := List.getElem?_concat_length
    rw [List.length_append, List.length_singleton, List.range_succ, List.filterMap_append,
      List.filterMap_congr hbefore, ih, List.filterMap_cons_some hlast, List.filterMap_nil]

/-- A request that has no call left has written. -/
theorem Stage.mem_writers {j : Job} {i : Nat} {trace : List Access} {rest : Procedure Answer}
    (h : Stage context id j i trace rest) (hdone : rest.isDone = true) : i ∈ writers trace := by
  cases h with
  | fresh hload hwrite =>
    obtain ⟨call, react⟩ := j
    cases call with
    | submit text kind => exact absurd hdone Bool.false_ne_true
    | reset => exact absurd hdone Bool.false_ne_true
  | pending hload hwrite hrest =>
    cases hrest with
    | saving => exact absurd hdone Bool.false_ne_true
    | asking => exact absurd hdone Bool.false_ne_true
  | finished hwrite => exact hwrite

/-- **When all requests are done, each has written once.** -/
theorem Pool.Explained.order_perm (h : p.Explained context id jobs first)
    (hfinished : p.finished = true) : (order jobs p.trace).Perm jobs := by
  have hlength : p.strands.length = jobs.length := by
    simpa only [List.length_map] using congrArg List.length h.events
  have hwriters : (writers p.trace).Perm (List.range jobs.length) := by
    refine (List.perm_ext_iff_of_nodup h.trace.nodup_writers List.nodup_range).mpr fun i => ?_
    rw [List.mem_range]
    refine ⟨h.trace.lt_of_mem_writers, fun hi => ?_⟩
    have hs : p.strands[i]? = some p.strands[i] := List.getElem?_eq_getElem (hlength ▸ hi)
    have hdone := List.all_eq_true.mp hfinished _ (List.mem_of_getElem? hs)
    exact (h.stages i _ _ hs (List.getElem?_eq_getElem hi)).mem_writers hdone
  have horder := hwriters.filterMap fun i => jobs[i]?
  rwa [filterMap_range_getElem?] at horder

end Schedules

/-- **What overlapping requests to one session leave**, for every schedule of their calls. It is
what some of the requests leave that are executed one after the other, in the order in which
they wrote, and with the last one to write among them. A request that has just stored a history
leaves its turn after those that it read: what was written since is lost, and what a reset has
removed since is there again. If after the last reset no request stored a history over one that
it had not read, it is what all requests that wrote leave in that order: the last twenty of the
turns that the session had and of those that they added, all of them since the last reset. When
every request is done, each of them has written once. -/
theorem interleave_histories (context : Context) (id : String) (jobs : List Job) (store : Store)
    (schedule : List Nat) :
    let p := interleave context store (jobs.map (Job.event id)) schedule
    let written := order jobs p.trace
    let sequence := runFrom context store (written.map (Job.event id))
    (p.finished = true → written.Perm jobs) ∧
    (∃ chain : List Job, chain.Sublist written ∧ chain.getLast? = written.getLast? ∧
      p.world.store.get? id =
        (runFrom context store (chain.map (Job.event id))).store.get? id) ∧
    (∀ before i found read, p.trace = before ++ [⟨i, .save, found⟩] →
      ⟨i, .load, read⟩ ∈ before →
        ∃ j, jobs[i]? = some j ∧ p.world.store.get? id = j.stored context read) ∧
    (Settled p.trace →
      p.world.store.get? id = sequence.store.get? id ∧
      (written ≠ [] → p.world.store.get? id =
        kept (turnsAfter id ((store.get? id).getD .empty).turns sequence.steps))) := by
  intro p written sequence
  have h : p.Explained context id jobs (store.get? id) :=
    explained_interleave context id jobs store schedule
  obtain ⟨⟨chain, hchain, hlast, hfound⟩, -⟩ := h.trace.exists_chain
  refine ⟨h.order_perm, ⟨chain, hchain, hlast, ?_⟩, fun before i found read htrace hread => ?_,
    fun hsettled => ?_⟩
  · rw [get?_runFrom]
    exact hfound
  · exact (htrace ▸ h.trace).eq_stored hread
  · have hsequence : p.world.store.get? id = sequence.store.get? id :=
      (h.trace.eq_replay hsettled).trans (get?_runFrom context store written).symm
    exact ⟨hsequence, fun hne => hsequence.trans (kept_turnsAfter_runFrom context store hne)⟩

/-- A service that never answers in time. -/
def lateService : Context := ⟨true, ⟨0, defaultTemperature, defaultMaxTokens⟩⟩

/-- A request for use cases to that service. -/
def lateSubmit (text : String) : Job :=
  ⟨.submit text .useCases, fun _ => ⟨1, .error .emptyCompletion⟩⟩

/-- A request to reset a session. -/
def plainReset : Job := ⟨.reset, fun _ => ⟨1, .error .emptyCompletion⟩⟩

/-- Of two requests that overlap the second stores its history over that of the first, but a
reset follows both of them, and one more request follows the reset. -/
theorem interleave_histories_of_late_reset :
    let jobs := [lateSubmit "Pay", lateSubmit "Ship", plainReset, lateSubmit "Return"]
    let p := interleave lateService .empty (jobs.map (Job.event "shop"))
      [0, 1, 0, 1, 0, 1, 2, 3, 3, 3]
    let written := order jobs p.trace
    let sequence := runFrom lateService .empty (written.map (Job.event "shop"))
    (p.finished = true ∧ written.Perm jobs) ∧
      (p.trace = p.trace.dropLast ++ [⟨3, .save, none⟩] ∧ ⟨3, .load, none⟩ ∈ p.trace.dropLast ∧
        ∃ j, jobs[3]? = some j ∧ p.world.store.get? "shop" = j.stored lateService none) ∧
      Settled p.trace ∧ p.world.store.get? "shop" = sequence.store.get? "shop" ∧ written ≠ [] ∧
      p.world.store.get? "shop" =
        kept (turnsAfter "shop" ((Store.empty.get? "shop").getD .empty).turns sequence.steps) := by
  have h := interleave_histories lateService "shop"
    [lateSubmit "Pay", lateSubmit "Ship", plainReset, lateSubmit "Return"] .empty
    [0, 1, 0, 1, 0, 1, 2, 3, 3, 3]
  dsimp only at h ⊢
  obtain ⟨hperm, -, hsaved, hsequence⟩ := h
  refine ⟨⟨?finished, hperm ?finished⟩, ⟨?last, ?read, hsaved _ 3 none none ?last ?read⟩, ?settled,
    (hsequence ?settled).1, ?ne, (hsequence ?settled).2 ?ne⟩
  case finished => decide +kernel
  case last => decide +kernel
  case read => decide +kernel
  case settled => decide +kernel
  case ne => exact List.ne_nil_of_length_pos (by decide +kernel)

/-- What requests leave that overlap is what they leave one after the other, in some order. -/
def Sequential (context : Context) (id : String) (jobs : List Job) (store : Store)
    (schedule : List Nat) : Prop :=
  ∃ sequence : List Job, sequence.Perm jobs ∧
    (interleave context store (jobs.map (Job.event id)) schedule).world.store.get? id =
      (runFrom context store (sequence.map (Job.event id))).store.get? id

instance (context : Context) (id : String) (jobs : List Job) (store : Store)
    (schedule : List Nat) : Decidable (Sequential context id jobs store schedule) :=
  decidable_of_iff (∃ sequence ∈ jobs.permutations',
      (interleave context store (jobs.map (Job.event id)) schedule).world.store.get? id =
        (runFrom context store (sequence.map (Job.event id))).store.get? id)
    (by simp only [Sequential, List.mem_permutations'])

/-- A request that overlaps another one loses the turn of that one, and a request that overlaps a
reset brings back what the reset has removed. -/
theorem overlapping_not_sequential :
    ¬ Sequential lateService "shop" [lateSubmit "Pay", lateSubmit "Ship"] .empty
      [0, 1, 0, 1, 0, 1] ∧
    ¬ Sequential lateService "shop" [lateSubmit "Pay", plainReset]
      (runFrom lateService .empty [(lateSubmit "Browse").event "shop"]).store [0, 1, 0, 0] := by
  decide +kernel

end Draftsman.Session
