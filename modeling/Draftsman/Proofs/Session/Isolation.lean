/-
Sessions that share a store do not notice each other.

Each session has its requests executed one after the other, but the calls of different sessions
fall between each other in whatever order a schedule gives. A procedure of a request is confined
to the history of its session: it reads and writes no other one, so calls of other sessions leave
alone everything that it depends on. What is left of a request in the middle therefore always
ends as the request ends that is executed alone (`Lane.Follows`). That is kept by every call, of
the session itself because a procedure is run by its calls, and of another session because of the
confinement. The run of a session is then the same as if the others were not there
(`sessions_isolated`).
-/
import Draftsman.Proofs.Session.Interleavings
import Mathlib.Data.List.Infix
import Mathlib.Logic.Function.Basic

set_option autoImplicit false

namespace Draftsman.Session

open Draftsman.Service Draftsman.Generation

/-! ## Sessions side by side -/

namespace Procedure

variable {α : Type}

/-- Makes the next call of a procedure. -/
def advance (c : Conditions) (p : Procedure α) (w : World) : Procedure α × World :=
  Id.run ((p.step c.means).run w)

/-- Makes all calls of a procedure. -/
def finish (c : Conditions) (p : Procedure α) (w : World) : α × World :=
  Id.run ((p.run c.means).run w)

/-- A procedure is run by making its next call and then running what is left of it. -/
theorem finish_eq (c : Conditions) (p : Procedure α) (w : World) :
    p.finish c w = (p.advance c w).1.finish c (p.advance c w).2 := by
  cases p with
  | done result => rfl
  | load id next => rfl
  | save id history next => rfl
  | remove id next => rfl
  | ask request next => rfl

end Procedure

/-- A request, and the context in which it is executed. -/
structure Visit where
  context : Context
  event : Event

/-- The visits over a store, one after the other. -/
def serve (store : Store) (visits : List Visit) : Progress :=
  visits.foldl (fun p v => p.next v.context v.event) ⟨store, []⟩

/-- A visit that has made no call. -/
def Visit.strand (v : Visit) : Strand := ⟨v.event, v.event.procedure v.context⟩

/-- What the service was asked in some steps. -/
def prompts (steps : List Step) : List Request := steps.flatMap Step.asked

/-- The visits to a session. -/
def visitsOf (id : String) (visits : List Visit) : List Visit :=
  visits.filter fun v => v.event.id == id

/-- One session: its requests that are not answered, of which only the first may have made calls,
what the service was asked for that one, and the steps that were made. -/
structure Lane where
  queue : List Strand
  asked : List Request
  steps : List Step

/-- The next call of a session. A request that is answered leaves the queue. -/
def Lane.next (l : Lane) (store : Store) : Lane × Store :=
  match l.queue with
  | [] => (l, store)
  | s :: queue =>
    let (rest, world) := s.rest.advance s.event.conditions ⟨store, l.asked⟩
    match rest with
    | .done answer => (⟨queue, [], l.steps ++ [⟨s.event, world.asked, answer⟩]⟩, world.store)
    | rest => (⟨{ s with rest := rest } :: queue, world.asked, l.steps⟩, world.store)

/-- Any number of sessions over one store. -/
structure Traffic where
  store : Store
  lane : String → Lane

namespace Traffic

/-- Sessions that have made no call. -/
def start (store : Store) (visits : List Visit) : Traffic :=
  ⟨store, fun id => ⟨(visitsOf id visits).map Visit.strand, [], []⟩⟩

/-- The next call of a session. -/
def next (t : Traffic) (id : String) : Traffic :=
  let (lane, store) := (t.lane id).next t.store
  ⟨store, Function.update t.lane id lane⟩

end Traffic

/-- The visits to sessions over a store, with the calls of the sessions in the order of a
schedule. -/
def traffic (store : Store) (visits : List Visit) (schedule : List String) : Traffic :=
  schedule.foldl Traffic.next (.start store visits)

/-! ## Procedures of one session -/

namespace Procedure

variable {α β : Type}

/-- A procedure that reads and writes the history of one session only, and makes at most so many
calls. -/
inductive Confined (id : String) : Nat → Procedure α → Prop
  | done {n : Nat} {result : α} : Confined id n (.done result)
  | load {n k : Nat} {next : Except StoreError (Option History) → Procedure α} (hk : k < n)
      (h : ∀ answer, Confined id k (next answer)) : Confined id n (.load id next)
  | save {n k : Nat} {history : History} {next : Except StoreError Unit → Procedure α}
      (hk : k < n) (h : ∀ answer, Confined id k (next answer)) :
      Confined id n (.save id history next)
  | remove {n k : Nat} {next : Except StoreError Bool → Procedure α} (hk : k < n)
      (h : ∀ answer, Confined id k (next answer)) : Confined id n (.remove id next)
  | ask {n k : Nat} {request : Request} {next : Reaction → Procedure α} (hk : k < n)
      (h : ∀ reaction, Confined id k (next reaction)) : Confined id n (.ask request next)

variable {id : String} {n : Nat} {p : Procedure α}

theorem Confined.map (h : p.Confined id n) (f : α → β) : (p.map f).Confined id n := by
  induction h with
  | done => exact .done
  | load hk h ih => exact .load hk ih
  | save hk h ih => exact .save hk ih
  | remove hk h ih => exact .remove hk ih
  | ask hk h ih => exact .ask hk ih

theorem Confined.mono {m : Nat} (h : p.Confined id n) (hm : n ≤ m) : p.Confined id m := by
  cases h with
  | done => exact .done
  | load hk h => exact .load (hk.trans_le hm) h
  | save hk h => exact .save (hk.trans_le hm) h
  | remove hk h => exact .remove (hk.trans_le hm) h
  | ask hk h => exact .ask (hk.trans_le hm) h

theorem confined_ofGeneration {next : Outcome → Procedure α}
    (h : ∀ outcome, (next outcome).Confined id n) (g : Attempt) :
    (ofGeneration next g).Confined id (n + 1) := by
  cases g with
  | settled outcome => exact (h outcome).mono (Nat.le_succ n)
  | waiting request conclude =>
    exact .ask (Nat.lt_succ_self n) fun reaction => h (conclude reaction)

end Procedure

/-- A request makes at most three calls, all of them for its own session. -/
theorem confined_procedure (context : Context) (e : Event) :
    (e.procedure context).Confined e.id 3 := by
  unfold Event.procedure
  cases e.action with
  | submit text kind =>
    refine Procedure.Confined.map (.load (Nat.lt_succ_self 2) fun answer => ?_) _
    cases answer with
    | error fault => exact Procedure.confined_ofGeneration (fun _ => .done) _
    | ok found =>
      exact Procedure.confined_ofGeneration (fun _ => .save Nat.zero_lt_one fun _ => .done) _
  | history =>
    refine Procedure.Confined.map (.load (Nat.lt_succ_self 2) fun answer => ?_) _
    cases answer with
    | error fault => exact .done
    | ok found => exact .done
  | reset =>
    refine Procedure.Confined.map (.remove (Nat.lt_succ_self 2) fun answer => ?_) _
    cases answer with
    | error fault => exact .done
    | ok removed => exact .done

theorem isDone_procedure (context : Context) (e : Event) :
    (e.procedure context).isDone = false := by
  unfold Event.procedure
  cases e.action <;> rfl

/-! ## What a session sees of the world -/

/-- Two worlds that a session cannot tell apart. -/
structure World.SameFor (id : String) (w w' : World) : Prop where
  history : w.store.get? id = w'.store.get? id
  asked : w.asked = w'.asked

/-- The same result, in worlds that a session cannot tell apart. -/
def SameResult {α : Type} (id : String) (r r' : α × World) : Prop :=
  r.1 = r'.1 ∧ r.2.SameFor id r'.2

namespace Procedure

variable {α : Type} {id : String} {n : Nat} {p : Procedure α}

theorem exists_eq_done (hp : p.isDone = true) : ∃ result, p = .done result := by
  cases p with
  | done result => exact ⟨result, rfl⟩
  | _ => exact absurd hp Bool.false_ne_true

/-- **What a call of a confined procedure can do**: fewer calls are left, still for the same session,
the histories of other sessions are as before, nothing that the service was asked is forgotten,
and it does the same in every world that the session cannot tell apart. -/
theorem Confined.advance (h : p.Confined id n) (hp : p.isDone = false) (c : Conditions)
    (w : World) :
    (∃ k < n, (p.advance c w).1.Confined id k) ∧
      (∀ other, other ≠ id → (p.advance c w).2.store.get? other = w.store.get? other) ∧
      w.asked <+: (p.advance c w).2.asked ∧
      ∀ w', w.SameFor id w' → SameResult id (p.advance c w) (p.advance c w') := by
  obtain ⟨load, save, remove, react⟩ := c
  cases h with
  | done => exact absurd hp Bool.true_eq_false.mp
  | @load _ _ next hk h =>
    cases load with
    | some fault =>
      exact ⟨⟨_, hk, h _⟩, fun other _ => rfl, List.prefix_rfl, fun w' hw => ⟨rfl, hw⟩⟩
    | none =>
      refine ⟨⟨_, hk, h _⟩, fun other _ => rfl, List.prefix_rfl, fun w' hw => ⟨?_, hw⟩⟩
      exact congrArg (fun found => next (.ok found)) hw.history
  | save hk h =>
    cases save with
    | some fault =>
      exact ⟨⟨_, hk, h _⟩, fun other _ => rfl, List.prefix_rfl, fun w' hw => ⟨rfl, hw⟩⟩
    | none =>
      refine ⟨⟨_, hk, h _⟩, fun other hother => ?_, List.prefix_rfl, fun w' hw =>
        ⟨rfl, ?_, hw.asked⟩⟩
      · exact (Store.get?_put ..).trans (if_neg hother)
      · exact ((Store.get?_put w.store ..).trans (if_pos rfl)).trans
          ((Store.get?_put w'.store ..).trans (if_pos rfl)).symm
  | @remove _ _ next hk h =>
    cases remove with
    | some fault =>
      exact ⟨⟨_, hk, h _⟩, fun other _ => rfl, List.prefix_rfl, fun w' hw => ⟨rfl, hw⟩⟩
    | none =>
      refine ⟨⟨_, hk, h _⟩, fun other hother => ?_, List.prefix_rfl, fun w' hw =>
        ⟨?_, ?_, hw.asked⟩⟩
      · exact (Store.get?_delete ..).trans (if_neg hother)
      · exact congrArg (fun found => next (.ok found.isSome)) hw.history
      · exact ((Store.get?_delete w.store ..).trans (if_pos rfl)).trans
          ((Store.get?_delete w'.store ..).trans (if_pos rfl)).symm
  | ask hk h =>
    exact ⟨⟨_, hk, h _⟩, fun other _ => rfl, List.prefix_append _ _, fun w' hw =>
      ⟨rfl, hw.history, congrArg (· ++ [_]) hw.asked⟩⟩

/-- **What a session does not see has no influence on it.** The induction is on the number of
calls that are left. -/
theorem Confined.finish_sameResult (h : p.Confined id n) (c : Conditions) {w w' : World}
    (hw : w.SameFor id w') : SameResult id (p.finish c w) (p.finish c w') := by
  induction n using Nat.strong_induction_on generalizing p w w' with
  | _ n ih =>
    cases hp : p.isDone with
    | true =>
      obtain ⟨result, rfl⟩ := exists_eq_done hp
      exact ⟨rfl, hw⟩
    | false =>
      obtain ⟨⟨k, hk, hrest⟩, -, -, hsame⟩ := h.advance hp c w
      obtain ⟨heq, hworld⟩ := hsame w' hw
      rw [finish_eq c p w, finish_eq c p w', ← heq]
      exact ih k hk hrest hworld

/-- Nothing that the service was asked is forgotten. -/
theorem Confined.asked_isPrefix (h : p.Confined id n) (c : Conditions) (w : World) :
    w.asked <+: (p.finish c w).2.asked := by
  induction n using Nat.strong_induction_on generalizing p w with
  | _ n ih =>
    cases hp : p.isDone with
    | true =>
      obtain ⟨result, rfl⟩ := exists_eq_done hp
      exact List.prefix_rfl
    | false =>
      obtain ⟨⟨k, hk, hrest⟩, -, hasked, -⟩ := h.advance hp c w
      rw [finish_eq c p w]
      exact hasked.trans (ih k hk hrest _)

end Procedure

/-! ## A session on its way -/

section Lanes

variable {id : String} {first store : Store} {own : List Visit} {l : Lane} {n : Nat}

/-- What a visit comes to after others. -/
def Visit.result (v : Visit) (p : Progress) : Answer × World :=
  (v.event.procedure v.context).finish v.event.conditions ⟨p.store, []⟩

theorem serve_concat (past : List Visit) (v : Visit) :
    serve first (past ++ [v]) =
      ⟨(v.result (serve first past)).2.store, (serve first past).steps ++
        [⟨v.event, (v.result (serve first past)).2.asked, (v.result (serve first past)).1⟩]⟩ := by
  rw [serve, List.foldl_append, List.foldl_cons, List.foldl_nil, Progress.next, perform_eq]
  rfl

theorem steps_serve_isPrefix (first : Store) (past future : List Visit) :
    (serve first past).steps <+: (serve first (past ++ future)).steps := by
  induction future using List.reverseRecOn with
  | nil =>
    rw [List.append_nil]
  | append_singleton future v ih =>
    rw [← List.append_assoc, serve_concat]
    exact ih.trans (List.prefix_append _ _)

/-- Where a session is on its way through its visits, with at most so many calls left. It has made
some visits, with the same steps as alone. If it is in the middle of one more, what is left of
that one ends as the visit does alone. If none is left, it has the same history as alone. -/
inductive Lane.Follows (id : String) (first : Store) (own : List Visit) :
    Nat → Store → Lane → Prop
  | finished {n : Nat} {store : Store}
      (hhistory : store.get? id = (serve first own).store.get? id) :
      Follows id first own n store ⟨[], [], (serve first own).steps⟩
  | visiting {n k : Nat} {store : Store} {past later : List Visit} {v : Visit}
      {rest : Procedure Answer} {asked : List Request} (hown : past ++ v :: later = own)
      (hbusy : rest.isDone = false) (hrest : rest.Confined id k)
      (hbudget : k + 3 * later.length ≤ n)
      (hresult : SameResult id (rest.finish v.event.conditions ⟨store, asked⟩)
        (v.result (serve first past))) :
      Follows id first own n store
        ⟨⟨v.event, rest⟩ :: later.map Visit.strand, asked, (serve first past).steps⟩

/-- A session between two visits. -/
theorem Lane.follows_between {past later : List Visit} (hown : past ++ later = own)
    (hid : ∀ v ∈ own, v.event.id = id)
    (hhistory : store.get? id = (serve first past).store.get? id)
    (hbudget : 3 * later.length ≤ n) :
    Lane.Follows id first own n store
      ⟨later.map Visit.strand, [], (serve first past).steps⟩ := by
  cases later with
  | nil =>
    rw [List.append_nil] at hown
    subst hown
    exact .finished hhistory
  | cons v later =>
    have hv : v.event.id = id := hid v (hown ▸ List.mem_append_right _ List.mem_cons_self)
    have hconfined := confined_procedure v.context v.event
    rw [hv] at hconfined
    refine .visiting hown (isDone_procedure _ _) hconfined ?_
      (hconfined.finish_sameResult _ ⟨hhistory, rfl⟩)
    rw [List.length_cons] at hbudget
    omega

/-- Calls of other sessions do not get in the way. -/
theorem Lane.Follows.frame (h : l.Follows id first own n store) {store' : Store}
    (hhistory : store'.get? id = store.get? id) : l.Follows id first own n store' := by
  cases h with
  | finished hfinal => exact .finished (hhistory.trans hfinal)
  | @visiting k _ past later v rest asked hown hbusy hrest hbudget hresult =>
    have hworld : World.SameFor id ⟨store', asked⟩ ⟨store, asked⟩ := ⟨hhistory, rfl⟩
    have hsame := hrest.finish_sameResult v.event.conditions hworld
    refine .visiting hown hbusy hrest hbudget ⟨hsame.1.trans hresult.1, ?_, ?_⟩
    · exact hsame.2.history.trans hresult.2.history
    · exact hsame.2.asked.trans hresult.2.asked

theorem Lane.next_done {s : Strand} {queue : List Strand} {asked : List Request}
    {steps : List Step} {answer : Answer} {world : World}
    (hcall : s.rest.advance s.event.conditions ⟨store, asked⟩ = (.done answer, world)) :
    Lane.next ⟨s :: queue, asked, steps⟩ store =
      (⟨queue, [], steps ++ [⟨s.event, world.asked, answer⟩]⟩, world.store) := by
  simp only [Lane.next, hcall]

theorem Lane.next_busy {s : Strand} {queue : List Strand} {asked : List Request}
    {steps : List Step} {rest : Procedure Answer} {world : World}
    (hcall : s.rest.advance s.event.conditions ⟨store, asked⟩ = (rest, world))
    (hrest : rest.isDone = false) :
    Lane.next ⟨s :: queue, asked, steps⟩ store =
      (⟨{ s with rest := rest } :: queue, world.asked, steps⟩, world.store) := by
  simp only [Lane.next, hcall]
  cases rest with
  | done answer => exact absurd hrest Bool.true_eq_false.mp
  | _ => rfl

/-- **A call of a session brings it further on its way**, and leaves the histories of all other
sessions alone. -/
theorem Lane.Follows.next (h : l.Follows id first own n store)
    (hid : ∀ v ∈ own, v.event.id = id) :
    (l.next store).1.Follows id first own (n - 1) (l.next store).2 ∧
      ∀ other, other ≠ id → (l.next store).2.get? other = store.get? other := by
  cases h with
  | finished hfinal => exact ⟨.finished hfinal, fun other hother => rfl⟩
  | @visiting k _ past later v rest asked hown hbusy hrest hbudget hresult =>
    obtain ⟨⟨k', hk, hrest'⟩, hothers, -, -⟩ :=
      hrest.advance hbusy v.event.conditions ⟨store, asked⟩
    rw [Procedure.finish_eq] at hresult
    cases hcall : rest.advance v.event.conditions ⟨store, asked⟩ with
    | mk rest' world =>
      rw [hcall] at hrest' hothers hresult
      cases hdone : rest'.isDone with
      | true =>
        -- the visit ends with the result that it has alone, and the next one may begin
        obtain ⟨answer, rfl⟩ := Procedure.exists_eq_done hdone
        rw [Lane.next_done hcall]
        refine ⟨?_, hothers⟩
        obtain ⟨hanswer, hworld⟩ := hresult
        have hsteps : (serve first past).steps ++ [⟨v.event, world.asked, answer⟩] =
            (serve first (past ++ [v])).steps := by
          rw [serve_concat, ← hworld.asked, ← hanswer]
          rfl
        dsimp only
        rw [hsteps]
        refine Lane.follows_between (by rw [← hown, List.append_assoc]; rfl) hid ?_ (by omega)
        rw [serve_concat]
        exact hworld.history
      | false =>
        rw [Lane.next_busy hcall hdone]
        exact ⟨.visiting hown hdone hrest' (by omega) hresult, hothers⟩

/-- What a session has been through is the beginning of what it goes through alone. -/
theorem Lane.Follows.steps_isPrefix (h : l.Follows id first own n store) :
    l.steps <+: (serve first own).steps ∧
      prompts l.steps ++ l.asked <+: prompts (serve first own).steps := by
  cases h with
  | finished hhistory =>
    refine ⟨List.prefix_rfl, ?_⟩
    rw [List.append_nil]
  | @visiting k _ past later v rest asked hown hbusy hrest hbudget hresult =>
    subst hown
    refine ⟨steps_serve_isPrefix first past _, ?_⟩
    -- what was asked in the middle of the visit begins what is asked in all of it
    have hasked : asked <+: (v.result (serve first past)).2.asked := by
      rw [← hresult.2.asked]
      exact hrest.asked_isPrefix v.event.conditions ⟨store, asked⟩
    have hsteps := steps_serve_isPrefix first (past ++ [v]) later
    rw [List.append_assoc, List.singleton_append] at hsteps
    refine List.IsPrefix.trans ?_ (List.IsPrefix.flatMap hsteps Step.asked)
    rw [serve_concat, List.flatMap_append, List.flatMap_singleton]
    exact (List.prefix_append_right_inj _).mpr hasked

/-- A session without visits to make is as it is alone. -/
theorem Lane.Follows.of_queue_eq_nil (h : l.Follows id first own n store) (hqueue : l.queue = []) :
    l.steps = (serve first own).steps ∧
      store.get? id = (serve first own).store.get? id := by
  cases h with
  | finished hhistory => exact ⟨rfl, hhistory⟩
  | visiting => exact absurd hqueue (List.cons_ne_nil _ _)

/-- A session that has no call left has no visits to make. -/
theorem Lane.Follows.queue_eq_nil (h : l.Follows id first own 0 store) : l.queue = [] := by
  cases h with
  | finished hhistory => rfl
  | @visiting k _ past later v rest asked hown hbusy hrest hbudget hresult =>
    obtain ⟨⟨k', hk, -⟩, -⟩ := hrest.advance hbusy v.event.conditions ⟨store, asked⟩
    omega

end Lanes

/-! ## All sessions -/

theorem id_eq_of_mem_visitsOf {id : String} {visits : List Visit} :
    ∀ v ∈ visitsOf id visits, v.event.id = id := fun _ hv =>
  eq_of_beq (List.mem_filter.mp hv).2

/-- **Every session goes its way**, whatever the order of the calls. The induction is on the
schedule: a call of the session itself brings it further, and one of another session does not
change the history that it sees. -/
theorem follows_traffic (store : Store) (visits : List Visit) (schedule : List String)
    (id : String) :
    ((traffic store visits schedule).lane id).Follows id store (visitsOf id visits)
      (3 * (visitsOf id visits).length - schedule.count id)
      (traffic store visits schedule).store := by
  induction schedule using List.reverseRecOn generalizing id with
  | nil =>
    have hown : [] ++ visitsOf id visits = visitsOf id visits := rfl
    exact Lane.follows_between hown id_eq_of_mem_visitsOf rfl (Nat.le_refl _)
  | append_singleton schedule called ih =>
    obtain ⟨hcalled, hothers⟩ := (ih called).next id_eq_of_mem_visitsOf
    have hnext : traffic store visits (schedule ++ [called]) =
        (traffic store visits schedule).next called := by
      rw [traffic, List.foldl_append]
      rfl
    rw [hnext, Traffic.next, List.count_append]
    by_cases hid : id = called
    · subst hid
      rw [List.count_singleton_self, ← Nat.sub_sub]
      dsimp only
      rw [Function.update_self]
      exact hcalled
    · rw [List.count_singleton, if_neg (by simpa using Ne.symm hid), Nat.add_zero]
      dsimp only
      rw [Function.update_of_ne hid]
      exact (ih id).frame (hothers id hid)

/-- **Sessions that share a store are isolated from each other.** The requests of each session are
executed one after the other, each under conditions of its own and with a service whose reaction
depends on nothing but what it is asked, while the calls of different sessions come in any order.
At any time a session has been through the beginning of what it goes through when it is alone: the
same requests with the same answers, and the service asked the same. When all its requests are
answered, it has been through all of that and its history is the same as alone, and so it is after
three calls for each request. -/
theorem sessions_isolated (store : Store) (visits : List Visit) (schedule : List String)
    (id : String) :
    let own := visitsOf id visits
    let alone := serve store own
    let all := traffic store visits schedule
    let session := all.lane id
    session.steps <+: alone.steps ∧
    prompts session.steps ++ session.asked <+: prompts alone.steps ∧
    (session.queue = [] →
      session.steps = alone.steps ∧ all.store.get? id = alone.store.get? id) ∧
    (3 * own.length ≤ schedule.count id → session.queue = []) := by
  intro own alone all session
  have h := follows_traffic store visits schedule id
  refine ⟨h.steps_isPrefix.1, h.steps_isPrefix.2, h.of_queue_eq_nil, fun hcalls => ?_⟩
  rw [Nat.sub_eq_zero_of_le hcalls] at h
  exact h.queue_eq_nil

/-- Two requests to one session, and the calls of another session between theirs. -/
theorem sessions_isolated_between_calls :
    let visits : List Visit := [⟨lateService, (lateSubmit "Pay").event "shop"⟩,
      ⟨lateService, (lateSubmit "Ship").event "desk"⟩,
      ⟨lateService, (lateSubmit "Return").event "shop"⟩, ⟨lateService, plainReset.event "desk"⟩]
    let schedule := ["shop", "desk", "shop", "desk", "desk", "shop", "shop", "desk", "shop", "shop"]
    let alone := serve .empty (visitsOf "shop" visits)
    let all := traffic .empty visits schedule
    3 * (visitsOf "shop" visits).length ≤ schedule.count "shop" ∧
      (all.lane "shop").queue = [] ∧ (all.lane "shop").steps.length = 2 ∧
      (all.lane "shop").steps = alone.steps ∧
      all.store.get? "shop" = alone.store.get? "shop" := by
  intro visits schedule alone all
  obtain ⟨-, -, hend, hcalls⟩ := sessions_isolated .empty visits schedule "shop"
  have hcount : 3 * (visitsOf "shop" visits).length ≤ schedule.count "shop" := by decide
  obtain ⟨hsteps, hhistory⟩ := hend (hcalls hcount)
  exact ⟨hcount, hcalls hcount, by decide +kernel, hsteps, hhistory⟩

end Draftsman.Session
