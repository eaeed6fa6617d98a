import Shorthand.Proofs.Pool.Progress
import Shorthand.Proofs.Pool.Records
import Shorthand.Proofs.Pool.Requests
set_option autoImplicit false

namespace Shorthand

namespace Task

def hasSlot : Task → Bool
  | submission _ .granted | submission _ .holding | submission _ .running
  | submission _ (.finished _) => true
  | _ => false

theorem Turn.request?_eq {p : Pool} {id : TaskId} {e : Event} {a b : Task} (h : Turn p id e a b) :
    b.request? = a.request? := by
  cases h <;> rfl

end Task

namespace System

variable {s t u : System} {events : List Event} {e : Event} {k : Nat} {id : TaskId}

theorem map_request?_of_move (hm : s.Move e t) (he : e ≠ .shutDown) :
    t.tasks.map Task.request? = s.tasks.map Task.request? ++ e.requests.map some := by
  rcases hm.cases_turn with ⟨new, rfl, ⟨request, rfl, rfl⟩ | ⟨rfl, -⟩⟩
    | ⟨j, old, new, hj, hturn, hdeal⟩
  · rw [List.map_append]
    rfl
  · exact absurd rfl he
  · have hnone : e.requests = [] := by cases hturn <;> rfl
    obtain ⟨change, ht⟩ := hdeal.exists_change
    have hsame (i : TaskId) : (t.task? i).map Task.request? = (s.task? i).map Task.request? := by
      rw [task?_of_tasks_eq hj ht]
      split
      · subst_vars
        rw [hj, Option.map_some, Option.map_some, hturn.request?_eq]
      · split
        · simp [Function.comp_def]
        · rfl
    rw [hnone, List.map_nil, List.append_nil]
    exact List.ext_getElem? fun i => by simpa [task?] using hsame i

theorem map_request?_of_run? (hr : s.run? events = some t) (hs : .shutDown ∉ events) :
    t.tasks.map Task.request? = s.tasks.map Task.request? ++
      (events.flatMap Event.requests).map some := by
  refine run?_induction (P := fun events t => .shutDown ∉ events → t.tasks.map Task.request? =
    s.tasks.map Task.request? ++ (events.flatMap Event.requests).map some)
      (fun _ => by simp) ?_ hr hs
  intro events t e u _ ih hm hs
  rw [List.mem_append, List.mem_singleton, not_or] at hs
  rw [map_request?_of_move hm (Ne.symm hs.2), ih hs.1, List.append_assoc, ← List.map_append,
    List.flatMap_append]
  simp

theorem stage_of_mem_endings (hr : s.run? events = some t) {answer : Answer}
    (h : (id, answer) ∈ s.endings events) :
    ∃ request stage, t.task? id = some (.submission request stage) ∧
      (stage = .finished answer ∨ stage = .answered answer) := by
  refine run?_induction (P := fun events t => (id, answer) ∈ s.endings events → ∃ request stage,
    t.task? id = some (.submission request stage) ∧
      (stage = .finished answer ∨ stage = .answered answer))
    (fun h => nomatch h) ?_ hr h
  intro events t e u hrun ih hm h
  rcases (mem_endings_concat hrun hm).1 h with hold | rfl
  · obtain ⟨request, stage, hid, hstage⟩ := ih hold
    obtain ⟨v, hv, rfl | rfl | hturn⟩ := hm.exists_task? hid
    · exact ⟨request, stage, hv, hstage⟩
    · rcases hstage with rfl | rfl <;> exact ⟨request, _, hv, by simp⟩
    · rcases hstage with rfl | rfl
      · cases hturn with
        | answer => exact ⟨request, _, hv, .inr rfl⟩
        | hold _ hs => rcases hs with hs | hs <;> cases hs
        | refuse _ hs => rcases hs with hs | hs | hs <;> cases hs
        | drop _ hs => rcases hs with hs | hs | hs | hs <;> cases hs
      · exact absurd hturn.isOver_eq_false (by simp [Task.isOver])
  · obtain ⟨a, b, -, hb, hturn⟩ := hm.exists_turn rfl
    cases hturn with
    | finish request => exact ⟨request, _, hb, .inl rfl⟩

theorem standing_ne_before_of_polled (h : s.Polled) {u : Task} (hid : s.task? id = some u) :
    u.standing ≠ .before := by
  intro hbefore
  have hover : u.isOver = false := by
    cases u with
    | submission request stage => cases stage <;> first | rfl | cases hbefore
    | shutdown c => cases c <;> first | rfl | cases hbefore
  rcases waits_or_isRunning_of_polled h hid hover with ⟨hwaits, -⟩ | hrunning
  · cases hbefore.symm.trans hwaits
  · unfold Task.isRunning at hrunning
    split at hrunning
    · cases hbefore
    · cases hrunning

/-- What a submission tells of a run in which nobody is refused: if it runs it was started, and if
it has ended its command ended in that way. -/
structure Told (s : System) (events : List Event) (id : TaskId) (stage : Stage) : Prop where
  started : stage = .running → id ∈ s.started events
  ended : ∀ answer, stage = .finished answer ∨ stage = .answered answer →
    id ∈ s.started events ∧ (id, answer) ∈ s.endings events

structure Serving (s : System) (k : Nat) : Prop where
  regular : s.Regular k
  /-- Every shutdown was given up before it began. -/
  quiet : ∀ id c, s.task? id = some (.shutdown c) → c = .dropped
  accepting : s.pool.isAccepting = true
  listed : ∃ left, s.Listed left

namespace Serving

theorem isClosed_eq_false (h : s.Serving k) : s.pool.slots.isClosed = false := by
  rw [Bool.eq_false_iff]
  intro hc
  obtain ⟨id, hid⟩ := h.regular.closed_iff.1 hc
  cases h.quiet id _ hid

theorem ofPool (capacity : Nat) : (ofPool (.ofCapacity capacity)).Serving (max capacity 1) :=
  ⟨Regular.ofPool capacity, fun _ _ hid => (by cases hid), rfl, [], listed_ofPool capacity⟩

/-- A pool that takes commands serves, once all that can be done is done. -/
theorem of_isAccepting {capacity : Nat}
    (hr : (System.ofPool (.ofCapacity capacity)).run? events = some s)
    (ha : s.pool.isAccepting = true) (hp : s.Polled) : s.Serving (max capacity 1) := by
  have hregular := Regular.of_run? hr (Regular.ofPool capacity)
  obtain ⟨hlisted, -⟩ := System.of_run? hr (listed_ofPool capacity) (accounts_ofPool capacity _)
  refine ⟨hregular, fun id c hid => ?_, ha, _, hlisted⟩
  rcases hregular.refuses id c hid with rfl | rfl | hrefuses
  · exact absurd rfl (standing_ne_before_of_polled hp hid)
  · rfl
  · exact absurd (ha.symm.trans hrefuses) (by decide)

theorem quiet_of_move (hm : s.Move e t) (he : e ≠ .shutDown) (h : s.Serving k) (id : TaskId)
    (c : Closing) (hid : t.task? id = some (.shutdown c)) : c = .dropped := by
  rcases hm.exists_shutdown hid with ⟨hnone, -⟩ | ⟨c', hc', rfl | ⟨rfl, -⟩ | hturn⟩
  · -- A task that was not there is a submission.
    have htasks := map_request?_of_move hm he
    obtain ⟨hlt, hget⟩ := List.getElem?_eq_some_iff.1 hid
    have hnew : (t.tasks.map Task.request?)[id]? = some none := by
      rw [List.getElem?_map, List.getElem?_eq_getElem hlt, hget]
      rfl
    have hle : s.tasks.length ≤ id := List.getElem?_eq_none_iff.1 hnone
    rw [htasks, List.getElem?_append_right (by rwa [List.length_map]), List.getElem?_map] at hnew
    obtain ⟨_, -, hnew⟩ := Option.map_eq_some_iff.1 hnew
    cases hnew
  · exact h.quiet id c hc'
  · cases h.quiet id _ hc'
  · obtain rfl := h.quiet id c' hc'
    exact absurd hturn.isOver_eq_false (by decide)

theorem accepting_of_move (hm : s.Move e t) (h : s.Serving k) : t.pool.isAccepting = true := by
  cases hm with
  | stopAccepting hid => cases h.quiet _ _ hid
  | @finish id request _ answer =>
    change (s.pool.finish id answer.isSuccess).isAccepting = true
    unfold Pool.finish
    split <;> exact h.accepting
  | _ => exact h.accepting

theorem of_move (hm : s.Move e t) (he : e ≠ .shutDown) (h : s.Serving k) : t.Serving k := by
  obtain ⟨left, hleft⟩ := h.listed
  exact ⟨h.regular.of_move hm, quiet_of_move hm he h, accepting_of_move hm h, _, hleft.of_move hm⟩

theorem of_run? (hr : s.run? events = some t) (h : s.Serving k) (hs : .shutDown ∉ events) :
    t.Serving k := by
  refine run?_induction (P := fun events t => .shutDown ∉ events → t.Serving k)
    (fun _ => h) ?_ hr hs
  intro events t e u _ ih hm hs
  rw [List.mem_append, List.mem_singleton, not_or] at hs
  exact (ih hs.1).of_move hm (Ne.symm hs.2)

theorem cases_task (h : s.Serving k) {u : Task} (hid : s.task? id = some u) :
    (∃ request stage, u = .submission request stage) ∨ u = .shutdown .dropped := by
  cases u with
  | submission request stage => exact .inl ⟨request, stage, rfl⟩
  | shutdown c =>
    obtain rfl := h.quiet id c hid
    exact .inr rfl

/-- Whoever waits asked for one slot, and so holds none yet. -/
theorem heldBy_eq_zero (h : s.Serving k) : Slots.heldBy s.pool.slots.waiting = 0 := by
  refine Slots.heldBy_eq_zero fun w hw => ?_
  have hclaim : (w.task, w.held + w.need) ∈ Slots.claims s.pool.slots.waiting :=
    List.mem_map.2 ⟨w, hw, rfl⟩
  obtain ⟨u, hu, hone⟩ := Option.bind_eq_some_iff.1 (h.regular.accounts.claimed _ hclaim)
  have hneed := h.regular.orderly.needy w hw
  rcases h.cases_task hu with ⟨request, stage, rfl⟩ | rfl
  · cases stage with
    | waiting =>
      have hone := Option.some.inj hone
      omega
    | _ => cases hone
  · cases hone

theorem held_eq (h : s.Serving k) (n : Nat) : s.held n = s.tasks.countP Task.hasSlot := by
  have hsum (tasks : List Task)
      (hall : ∀ u ∈ tasks, (∃ request stage, u = .submission request stage) ∨
        u = .shutdown .dropped) :
      (tasks.map (Task.slots n)).sum = tasks.countP Task.hasSlot := by
    induction tasks with
    | nil => rfl
    | cons u rest ih =>
      rw [List.map_cons, List.sum_cons, List.countP_cons,
        ih fun v hv => hall v (List.mem_cons_of_mem _ hv)]
      rcases hall u List.mem_cons_self with ⟨request, stage, rfl⟩ | rfl
      · cases stage <;> simp [Task.slots, Task.hasSlot, Nat.add_comm]
      · simp [Task.slots, Task.hasSlot]
  refine hsum s.tasks fun u hu => ?_
  obtain ⟨id, hid⟩ := List.mem_iff_getElem?.1 hu
  exact h.cases_task hid

theorem free_add_countP (h : s.Serving k) :
    s.pool.slots.free + s.tasks.countP Task.hasSlot = k := by
  have hbalance := h.regular.accounts.balance
  rw [h.heldBy_eq_zero, h.held_eq] at hbalance
  omega

theorem countP_hasSlot_of_waits (h : s.Serving k) (hw : s.Waits id) :
    s.tasks.countP Task.hasSlot = k := by
  have hmem := h.regular.inLine h.isClosed_eq_false id hw
  have hfull : s.pool.slots.free = 0 := by
    apply h.regular.orderly.full
    intro hnil
    rw [queue, hnil] at hmem
    cases hmem
  have hall := h.free_add_countP
  omega

theorem countP_hasSlot (h : s.Serving k) (hp : s.Polled) :
    s.tasks.countP Task.hasSlot = s.tasks.countP Task.isRunning := by
  refine List.countP_congr fun u hu => ?_
  obtain ⟨id, hid⟩ := List.mem_iff_getElem?.1 hu
  rcases h.cases_task hid with ⟨request, stage, rfl⟩ | rfl
  · constructor
    · intro hslot
      have hover : (Task.submission request stage).isOver = false := by
        cases stage <;> first | rfl | cases hslot
      refine (waits_or_isRunning_of_polled hp hid hover).resolve_left fun hwaits => ?_
      have hwaits := hwaits.1
      cases stage with
      | waiting => cases hslot
      | _ => cases hwaits
    · intro hrunning
      cases stage <;> first | rfl | cases hrunning
  · exact Iff.rfl

/-- Where all that can be done is done, an entry that does not run is that of a submission that
waits. -/
theorem queued_eq_zero (h : s.Serving k) (hp : s.Polled) (hw : ∀ id, ¬s.Waits id) :
    s.pool.metrics.queued = 0 := by
  obtain ⟨left, hleft⟩ := h.listed
  refine List.countP_eq_zero.2 fun e he => ?_
  obtain ⟨u, hu, hfit⟩ := hleft.fits e he
  simp only [Bool.not_eq_true', Bool.not_eq_false]
  cases hover : u.isOver with
  | true =>
    unfold Task.isOver at hover
    split at hover
    · exact hfit.elim
    · exact hfit.1
    · exact hfit.elim
    · exact hfit.elim
    · cases hover
  | false =>
    rcases waits_or_isRunning_of_polled hp hu hover with ⟨hwaits, -⟩ | hrunning
    · exact absurd ⟨u, hu, hwaits⟩ (hw e.task)
    · unfold Task.isRunning at hrunning
      split at hrunning
      · exact hfit
      · cases hrunning

/-- The last step of a run goes into what a submission tells of it. -/
theorem told_concat (hr : s.run? events = some t) (hm : t.Move e u) (ht : t.Serving k)
    {request : Request}
    (h : ∀ stage, t.task? id = some (.submission request stage) → s.Told events id stage)
    {stage : Stage} (hid : u.task? id = some (.submission request stage)) :
    s.Told (events ++ [e]) id stage := by
  have hkeep {stage : Stage} (h : s.Told events id stage) : s.Told (events ++ [e]) id stage :=
    ⟨fun hs => (mem_started_concat hr hm).2 (.inl (h.started hs)),
      fun a ha => ⟨(mem_started_concat hr hm).2 (.inl (h.ended a ha).1),
        (mem_endings_concat hr hm).2 (.inl (h.ended a ha).2)⟩⟩
  rcases hm.exists_submission hid with ⟨-, rfl⟩ | ⟨old, hold, rfl | ⟨-, rfl⟩ | hturn⟩
  · exact ⟨by simp, by simp⟩
  · exact hkeep (h _ hold)
  · exact ⟨by simp, by simp⟩
  · have htold := hkeep (h old hold)
    cases hturn with
    | reject _ ha => exact absurd (ha.symm.trans ht.accepting) (by decide)
    | refuse _ _ hc => exact absurd (hc.symm.trans ht.isClosed_eq_false) (by decide)
    | run => exact ⟨fun _ => (mem_started_concat hr hm).2 (.inr ⟨rfl, request, hold⟩), by simp⟩
    | finish _ answer =>
      refine ⟨by simp, ?_⟩
      rintro a (ha | ha) <;> cases ha
      exact ⟨htold.started rfl, (mem_endings_concat hr hm).2 (.inr rfl)⟩
    | answer _ answer =>
      refine ⟨by simp, ?_⟩
      rintro a (ha | ha) <;> cases ha
      exact htold.ended answer (.inl rfl)
    | accept | enter | wait | hold | drop => exact ⟨by simp, by simp⟩

theorem ended_of_answered (hr : s.run? events = some t) (h : s.Serving k) (hs : .shutDown ∉ events)
    (hnew : s.task? id = none) {request : Request} {answer : Answer}
    (hid : t.task? id = some (.submission request (.answered answer))) :
    id ∈ s.started events ∧ (id, answer) ∈ s.endings events := by
  have htold := run?_induction (P := fun events t => .shutDown ∉ events → ∀ request stage,
    t.task? id = some (.submission request stage) → s.Told events id stage)
    (fun _ _ _ hid => nomatch hnew.symm.trans hid)
      (fun {events t e u} hr ih hm hs request stage hid => by
      rw [List.mem_append, List.mem_singleton, not_or] at hs
      exact told_concat hr hm (h.of_run? hr hs.1) (ih hs.1 request) hid) hr hs request _ hid
  exact htold.ended answer (.inr rfl)

end Serving

theorem dropped_of_mem (hr : s.run? events = some t) (hd : .drop id ∈ events) :
    ∃ u, t.task? id = some u ∧
      (u = .shutdown .dropped ∨ ∃ request, u = .submission request .dropped) := by
  refine run?_induction (P := fun events t => .drop id ∈ events → ∃ u, t.task? id = some u ∧
    (u = .shutdown .dropped ∨ ∃ request, u = .submission request .dropped))
      (fun hd => nomatch hd) ?_ hr hd
  intro events t e u _ ih hm hd
  rcases List.mem_append.1 hd with hold | hnew
  · obtain ⟨v, hv, hdropped⟩ := ih hold
    have hover : v.isOver = true := by obtain rfl | ⟨request, rfl⟩ := hdropped <;> rfl
    exact ⟨v, hm.task?_of_isOver hv hover, hdropped⟩
  · obtain rfl := List.mem_singleton.1 hnew
    obtain ⟨a, b, -, hb, hturn⟩ := hm.exists_turn rfl
    cases hturn with
    | drop request => exact ⟨_, hb, .inr ⟨request, rfl⟩⟩
    | dropShutdown => exact ⟨_, hb, .inl rfl⟩

/-- A new task that nobody gives up is not given up. -/
theorem not_dropped_of_run? (hr : s.run? events = some t) (hnew : s.task? id = none)
    (hd : .drop id ∉ events) (request : Request) :
    t.task? id ≠ some (.submission request .dropped) := by
  refine run?_induction (P := fun events t => .drop id ∉ events → ∀ request,
    t.task? id ≠ some (.submission request .dropped)) (fun _ request hid => ?_) ?_ hr hd request
  · cases hnew.symm.trans hid
  · intro events t e u _ ih hm hd request hid
    rw [List.mem_append, List.mem_singleton, not_or] at hd
    rcases hm.exists_submission hid with ⟨-, hstage⟩ | ⟨stage, hid', rfl | ⟨-, hstage⟩ | hturn⟩
    · cases hstage
    · exact ih hd.1 request hid'
    · cases hstage
    · cases hturn with
      | drop => exact hd.2 rfl

end System

end Shorthand
