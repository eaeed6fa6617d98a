import Shorthand.Proofs.Pool.Serving
import Shorthand.Proofs.Session.Path
/-!
That a session does what it waits for. Its tasks go on until none can, within the steps that are
allowed for; and where processes end on the host, every task that is waited for comes to its end.
-/
set_option autoImplicit false

namespace Shorthand

namespace System

variable {s t : System} {events : List Event}

def IsTurns (events : List Event) : Prop := ∀ e ∈ events, e.task? ≠ none

theorem IsTurns.nil : IsTurns [] := fun _ he => nomatch he

theorem IsTurns.append {a b : List Event} (ha : IsTurns a) (hb : IsTurns b) : IsTurns (a ++ b) :=
  fun e he => (List.mem_append.1 he).elim (ha e) (hb e)

theorem IsTurns.requests_eq_nil (h : IsTurns events) : events.flatMap Event.requests = [] := by
  refine List.flatMap_eq_nil_iff.2 fun e he => ?_
  cases e with
  | submit => exact absurd rfl (h _ he)
  | _ => rfl

theorem IsTurns.shutDown_not_mem (h : IsTurns events) : .shutDown ∉ events :=
  fun hmem => h _ hmem rfl

theorem IsTurns.length_eq (h : IsTurns events) (hr : s.run? events = some t) :
    t.tasks.length = s.tasks.length := by
  have hmap := congrArg List.length (map_request?_of_run? hr h.shutDown_not_mem)
  simpa [h.requests_eq_nil] using hmap

theorem turnsLeft_le (s : System) : s.turnsLeft ≤ 10 * s.tasks.length := by
  have hone (u : Task) : u.turnsLeft ≤ 10 := by
    cases u with
    | submission request stage => cases stage <;> simp [Task.turnsLeft]
    | shutdown c => cases c <;> simp [Task.turnsLeft]
  have hsum (tasks : List Task) : (tasks.map Task.turnsLeft).sum ≤ 10 * tasks.length := by
    induction tasks with
    | nil => exact Nat.le_refl 0
    | cons u rest ih =>
      have hu := hone u
      rw [List.map_cons, List.sum_cons, List.length_cons]
      omega
  exact hsum s.tasks

theorem mem_endings_of_run? {id : TaskId} {answer : Answer}
    (h : s.run? (.finish id answer :: events) = some t) :
    (id, answer) ∈ s.endings (.finish id answer :: events) := by
  obtain ⟨u, hstep, -⟩ := exists_of_run?_cons h
  rw [endings, along, hstep]
  exact List.mem_append_left _ (mem_ends.2 rfl)

theorem answered_of_polled (h : s.Polled) {id : TaskId} {request : Request} {stage : Stage}
    {answer : Answer} (hid : s.task? id = some (.submission request stage))
    (hs : stage = .finished answer ∨ stage = .answered answer) : stage = .answered answer := by
  refine hs.resolve_left ?_
  rintro rfl
  rcases waits_or_isRunning_of_polled h hid rfl with ⟨hwaits, -⟩ | hrunning
  · cases hwaits
  · cases hrunning

theorem settled_of_polled (h : s.Polled) (hr : ∀ id, ¬s.Runs id) : s.Settled := by
  refine fun id => ⟨h id, fun answer => ?_⟩
  simp only [step?, finishTask]
  split
  · exact absurd ⟨_, ‹_›⟩ (hr id)
  · rfl

end System

namespace Simulation

variable {σ : Type} {runs : σ → ProcessId → Prop} {s t : Simulation σ} {events : List Event}
  {id : TaskId}

/-- A session between two calls: it is linked to its host, and nothing is left to be done before a
process ends. -/
structure Ready (runs : σ → ProcessId → Prop) (s : Simulation σ) : Prop where
  linked : s.Linked runs
  polled : s.system.Polled
  reached : ∃ capacity events, (System.ofPool (.ofCapacity capacity)).run? events = some s.system

namespace Ready

theorem ofPool (capacity : Nat) {host : σ} (h : ∀ p, ¬runs host p) :
    (Simulation.ofPool (.ofCapacity capacity) host).Ready runs := by
  refine ⟨.ofPool _ h, fun id => ?_, capacity, [], rfl⟩
  rfl

theorem regular (h : s.Ready runs) : ∃ k, s.system.Regular k := by
  obtain ⟨capacity, events, hr⟩ := h.reached
  exact ⟨_, System.Regular.of_run? hr (.ofPool capacity)⟩

theorem serving (h : s.Ready runs) (ha : s.pool.isAccepting = true) : ∃ k, s.system.Serving k := by
  obtain ⟨capacity, events, hr⟩ := h.reached
  exact ⟨_, .of_isAccepting hr ha h.polled⟩

end Ready

def remaining (s : Simulation σ) : Nat :=
  (List.range s.system.tasks.length).countP fun id => !s.isOver id

theorem isOver_of_run? (hr : s.system.run? events = some t.system) (h : s.isOver id = true)
    (hid : id < s.system.tasks.length) : t.isOver id = true := by
  have hsome : s.system.task? id = some s.system.tasks[id] := List.getElem?_eq_getElem hid
  rw [isOver, hsome] at h
  rw [isOver, System.task?_of_run?_of_isOver hr hsome (by simpa using h)]
  exact h

theorem remaining_lt (hr : s.system.run? events = some t.system) (hturns : System.IsTurns events)
    (hid : id < s.system.tasks.length) (hs : s.isOver id = false) (ht : t.isOver id = true) :
    t.remaining < s.remaining := by
  have hsame : List.range t.system.tasks.length = List.range s.system.tasks.length := by
    rw [hturns.length_eq hr]
  rw [remaining, hsame]
  obtain ⟨before, after, hrange⟩ := List.append_of_mem (List.mem_range.2 hid)
  have hle (ids : List TaskId) (hids : ∀ j ∈ ids, j < s.system.tasks.length) :
      (ids.countP fun j => !t.isOver j) ≤ ids.countP fun j => !s.isOver j := by
    refine List.countP_mono_left fun j hj hover => ?_
    rw [Bool.not_eq_true'] at hover ⊢
    rw [Bool.eq_false_iff] at hover ⊢
    exact fun h => hover (isOver_of_run? hr h (hids j hj))
  have hbefore := hle before fun j hj => List.mem_range.1 (by rw [hrange]; simp [hj])
  have hafter := hle after fun j hj => List.mem_range.1 (by rw [hrange]; simp [hj])
  rw [remaining, hrange, List.countP_append, List.countP_append, List.countP_cons, List.countP_cons,
    hs, ht]
  simp only [Bool.not_false, Bool.not_true, Bool.false_eq_true, if_true, if_false]
  omega

variable [Host σ]

theorem Ready.of_path (laws : Host.Lawful runs) (h : s.Ready runs) (hp : s.Path events t)
    (hpolled : t.system.Polled) :
    t.Ready runs := by
  obtain ⟨capacity, before, hr⟩ := h.reached
  exact ⟨h.linked.of_path laws hp, hpolled, capacity, _, System.run?_of_run? hr hp.run?⟩

theorem exists_step_of_advance? (h : s.advance? = some t) :
    ∃ events, s.Step events t ∧ System.IsTurns events ∧ events ≠ [] := by
  obtain ⟨id, -, h⟩ := List.exists_of_findSome?_eq_some h
  obtain ⟨system, hstep, rfl⟩ := Option.map_eq_some_iff.1 h
  dsimp only
  split
  next request hid =>
    simp only [startProcess]
    split
    next error hlaunch =>
      obtain ⟨failed, hfinish⟩ := System.exists_step?_finish ⟨request, hid⟩ (.error error)
      simp only [hfinish, Option.getD_some]
      exact ⟨_, .fail hstep hid hlaunch hfinish, by simp [System.IsTurns, Event.task?], by simp⟩
    next process host hlaunch =>
      exact ⟨_, .start hstep hid hlaunch, by simp [System.IsTurns, Event.task?], by simp⟩
  next hquiet =>
    have hstays : ¬system.Runs id := fun h => h.elim hquiet
    exact ⟨_, .advance hstep hstays, by simp [System.IsTurns, Event.task?], by simp⟩

theorem polled_of_advance?_eq_none (h : s.advance? = none) : s.system.Polled := by
  intro id
  rcases Nat.lt_or_ge id s.system.tasks.length with hlt | hge
  · have hnone := List.findSome?_eq_none_iff.1 h id (List.mem_range.2 hlt)
    exact Option.map_eq_none_iff.1 hnone
  · have hnone : s.system.task? id = none := List.getElem?_eq_none hge
    simp only [System.step?, hnone]

theorem exists_path_settleFor (n : Nat) (s : Simulation σ) (hn : s.system.turnsLeft ≤ n) :
    ∃ events, s.Path events (settleFor n s) ∧
      System.IsTurns events ∧ (settleFor n s).system.Polled := by
  induction n generalizing s with
  | zero =>
    refine ⟨[], .refl, .nil, polled_of_advance?_eq_none ?_⟩
    refine Option.eq_none_iff_forall_ne_some.2 fun t ht => ?_
    obtain ⟨events, hstep, hturns, hne⟩ := exists_step_of_advance? ht
    have hle := System.length_add_turnsLeft_le hstep.run? hturns
    have hpos := List.length_pos_iff.2 hne
    rw [settleFor] at hle
    omega
  | succ n ih =>
    rw [settleFor]
    split
    next t ht =>
      obtain ⟨first, hstep, hturns, hne⟩ := exists_step_of_advance? ht
      have hle := System.length_add_turnsLeft_le hstep.run? hturns
      have hpos := List.length_pos_iff.2 hne
      obtain ⟨rest, hpath, hturns', hpolled⟩ := ih t (by omega)
      exact ⟨first ++ rest, (Path.single hstep).trans hpath, hturns.append hturns', hpolled⟩
    next hnone => exact ⟨[], .refl, .nil, polled_of_advance?_eq_none hnone⟩

theorem exists_path_settle (s : Simulation σ) :
    ∃ events, s.Path events s.settle ∧ System.IsTurns events ∧ s.settle.system.Polled :=
  exists_path_settleFor _ s s.system.turnsLeft_le

theorem exists_step_of_runs (laws : Host.Lawful runs) (h : s.Linked runs) (hid : s.system.Runs id) :
    ∃ (t : Simulation σ) (child : Child) (ended : Except SystemError Ending),
      s.finishNext? = some t.settle ∧ s.Step [.finish child.task (child.answer ended)] t ∧
      s.system.Runs child.task := by
  cases hnext : Host.next? s.host with
  | none =>
    obtain ⟨child, hchild, -⟩ := List.mem_map.1 ((h.tasks id).1 hid)
    exact absurd ((h.processes _).2 (List.mem_map_of_mem hchild)) (laws.stuck hnext _)
  | some next =>
    obtain ⟨⟨process, ended⟩, host⟩ := next
    obtain ⟨c, hc, hprocess⟩ := List.mem_map.1 ((h.processes process).1 (laws.next hnext).1)
    obtain ⟨child, hfind⟩ : ∃ child, s.children.find? (·.process = process) = some child :=
      Option.isSome_iff_exists.1 (List.find?_isSome.2 ⟨c, hc, by simpa using hprocess⟩)
    obtain rfl : child.process = process := by simpa using List.find?_some hfind
    have hchild : child ∈ s.children := List.mem_of_find?_eq_some hfind
    have hruns : s.system.Runs child.task := (h.tasks _).2 (List.mem_map_of_mem hchild)
    obtain ⟨system, hfinish⟩ := System.exists_step?_finish hruns (child.answer ended)
    have hsome : s.finishNext? = some (settle { s with
        system
        host
        children := s.children.filter (·.process ≠ child.process)
        journal := s.noteEnd child ended }) := by
      simp [finishNext?, hnext, hfind, hfinish]
    exact ⟨_, child, ended, hsome, .finish hnext hchild hfinish, hruns⟩

/-- While a command runs, time passes until one is answered. -/
theorem exists_path_finishNext? (laws : Host.Lawful runs) (h : s.Linked runs)
    (hid : s.system.Runs id) :
    ∃ t events j, s.finishNext? = some t ∧
      s.Path events t ∧ System.IsTurns events ∧ t.system.Polled ∧
      s.system.Runs j ∧ t.isOver j = true := by
  obtain ⟨after, child, ended, hsome, hstep, hruns⟩ := exists_step_of_runs laws h hid
  obtain ⟨events, hpath, hturns, hpolled⟩ := exists_path_settle after
  have hwhole := (Path.single hstep).trans hpath
  refine ⟨_, _, child.task, hsome, hwhole, .append (by simp [System.IsTurns, Event.task?]) hturns,
    hpolled, hruns, ?_⟩
  have hended := System.mem_endings_of_run? hwhole.run?
  obtain ⟨request, stage, hid, hstage⟩ := System.stage_of_mem_endings hwhole.run? hended
  obtain rfl := System.answered_of_polled hpolled hid hstage
  rw [isOver, hid]
  rfl

/-- What is waited for comes, if there is time for every end of a process that can come before
it. -/
theorem exists_path_waitFor (laws : Host.Lawful runs) (id : TaskId) (n : Nat) (h : s.Ready runs)
    (hn : s.remaining < n) :
    ∃ events, s.Path events (waitFor id n s) ∧ System.IsTurns events ∧ (waitFor id n s).Ready runs ∧
      (waitFor id n s).isOver id = true := by
  induction n generalizing s with
  | zero => exact absurd hn (Nat.not_lt_zero _)
  | succ n ih =>
    rw [waitFor]
    split
    next hover => exact ⟨[], .refl, .nil, h, hover⟩
    next hover =>
      by_cases hruns : ∃ j, s.system.Runs j
      · obtain ⟨j, hj⟩ := hruns
        obtain ⟨t, first, j, hsome, hpath, hturns, hpolled, ⟨request, hrun⟩, hafter⟩ :=
          exists_path_finishNext? laws h.linked hj
        have hlt : j < s.system.tasks.length := (List.getElem?_eq_some_iff.1 hrun).1
        have hbefore : s.isOver j = false := by
          rw [isOver, hrun]
          rfl
        have hless := remaining_lt hpath.run? hturns hlt hbefore hafter
        obtain ⟨rest, hpath', hturns', hready, hend⟩ := ih (h.of_path laws hpath hpolled) (by omega)
        rw [hsome]
        exact ⟨first ++ rest, hpath.trans hpath', hturns.append hturns', hready, hend⟩
      · -- Where no command runs, nobody has a slot to wait for.
        obtain ⟨k, hregular⟩ := h.regular
        have hsettled := System.settled_of_polled h.polled (not_exists.1 hruns)
        refine absurd ?_ hover
        rw [isOver, Option.all_eq_true]
        exact fun u hu => System.isOver_of_settled hregular hsettled hu

theorem exists_path_wait (laws : Host.Lawful runs) (id : TaskId) (h : s.Ready runs) :
    ∃ events, s.Path events (s.wait id) ∧ System.IsTurns events ∧ (s.wait id).Ready runs ∧
      (s.wait id).isOver id = true := by
  refine exists_path_waitFor laws id _ h (Nat.lt_succ_of_le ?_)
  have hle :=
    List.countP_le_length (p := fun id => !s.isOver id) (l := List.range s.system.tasks.length)
  rwa [List.length_range] at hle

end Simulation

end Shorthand
