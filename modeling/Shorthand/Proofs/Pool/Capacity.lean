import Shorthand.Proofs.Pool.Entries
/-!
How many entries run at once. There are no more than slots, but for one more with each submission
that is given up while its command runs: its slot comes back, and its entry goes on running.
-/
set_option autoImplicit false

namespace Shorthand

def Task.isRunning : Task → Bool
  | submission _ .running => true
  | _ => false

theorem Entry.Fits.of_isRunning {left : List TaskId} {e : Entry} {t : Task} (h : e.Fits left t)
    (hr : e.isRunning = true) : t.isRunning = true ∨ e.task ∈ left := by
  cases t with
  | submission request stage =>
    cases stage with
    | running => exact .inl rfl
    | dropped => exact .inr h.2
    | entered | waiting | granted | holding => exact absurd (hr.symm.trans h) (by decide)
    | arrived | admitted | finished | answered => exact h.elim
  | shutdown stage => exact h.elim

theorem countP_isRunning_le (n : Nat) (tasks : List Task) :
    tasks.countP Task.isRunning ≤ (tasks.map (Task.slots n)).sum := by
  induction tasks with
  | nil => exact Nat.le_refl 0
  | cons t rest ih =>
    have ht : (if t.isRunning then 1 else 0) ≤ t.slots n := by
      unfold Task.isRunning
      split
      · exact Nat.le_refl 1
      · exact Nat.zero_le _
    rw [List.countP_cons, List.map_cons, List.sum_cons]
    omega

namespace System

theorem Listed.mem_of_isRunning {s : System} {left : List TaskId} (h : s.Listed left) {e : Entry}
    (he : e ∈ s.pool.entries) (hr : e.isRunning = true) :
    e.task ∈ s.tasks.findIdxs Task.isRunning ++ left := by
  obtain ⟨u, hu, hfit⟩ := h.fits e he
  rcases hfit.of_isRunning hr with hrun | hleft
  · apply List.mem_append_left
    obtain ⟨hlt, rfl⟩ := List.getElem?_eq_some_iff.1 hu
    exact List.mem_findIdxs_iff_exists_getElem_pos.2 ⟨hlt, hrun⟩
  · exact List.mem_append_right _ hleft

theorem active_le {s : System} {left : List TaskId} {n k : Nat} (h : s.Listed left)
    (ha : s.Accounts n k) :
    s.pool.metrics.active ≤ k + left.length := by
  let ids := (s.pool.entries.filter (·.isRunning)).map (·.task)
  have hnodup : ids.Nodup := h.distinct.sublist (List.filter_sublist.map _)
  have hsub : ids ⊆ s.tasks.findIdxs Task.isRunning ++ left := by
    intro id hid
    obtain ⟨e, he, rfl⟩ := List.mem_map.1 hid
    obtain ⟨he, hr⟩ := List.mem_filter.1 he
    exact h.mem_of_isRunning he hr
  have hactive : s.pool.metrics.active = ids.length := by
    rw [List.length_map, ← List.countP_eq_length_filter]
    rfl
  have hle := (hnodup.subperm hsub).length_le
  rw [List.length_append, List.length_findIdxs] at hle
  have hrun := countP_isRunning_le n s.tasks
  have hb := ha.balance
  simp only [held] at hb
  omega

theorem shutdownCount_of_move {s t : System} {e : Event} (h : s.Move e t) :
    t.pool.shutdownCount = s.pool.shutdownCount := by
  rw [Pool.shutdownCount, capacity_of_move h, Pool.shutdownCount]

theorem of_run? {s t : System} {left : List TaskId} {k : Nat} {events : List Event}
    (h : s.run? events = some t) (hl : s.Listed left) (ha : s.Accounts s.pool.shutdownCount k) :
    t.Listed (left ++ s.abandoned events) ∧ t.Accounts t.pool.shutdownCount k ∧
      t.pool.capacity = s.pool.capacity := by
  induction events generalizing s left with
  | nil =>
    obtain rfl := Option.some.inj h
    rw [abandoned, along, List.append_nil]
    exact ⟨hl, ha, rfl⟩
  | cons e rest ih =>
    obtain ⟨u, hstep, hrest⟩ := exists_of_run?_cons h
    have hm := move_of_step? hstep
    have hau := Accounts.of_move hm ha
    rw [← shutdownCount_of_move hm] at hau
    obtain ⟨hlt, hat, hcap⟩ := ih hrest (hl.of_move hm) hau
    rw [abandoned, along, hstep]
    simp only
    rw [← List.append_assoc]
    exact ⟨hlt, hat, hcap.trans (capacity_of_move hm)⟩

theorem listed_ofPool (capacity : Nat) : (ofPool (.ofCapacity capacity)).Listed [] :=
  ⟨List.nodup_nil, fun _ he => by cases he⟩

theorem accounts_ofPool (capacity n : Nat) :
    (ofPool (.ofCapacity capacity)).Accounts n (max capacity 1) :=
  ⟨rfl, List.nodup_nil, fun _ hc => (by cases hc), fun _ => rfl⟩

theorem active_le_of_run? {capacity : Nat} {events : List Event} {s : System}
    (h : (ofPool (.ofCapacity capacity)).run? events = some s) :
    s.pool.metrics.active ≤ s.pool.capacity +
      ((ofPool (.ofCapacity capacity)).abandoned events).length := by
  obtain ⟨hl, ha, hcap⟩ := of_run? h (listed_ofPool capacity) (accounts_ofPool capacity _)
  have hactive := active_le hl ha
  rw [hcap]
  exact hactive

theorem abandoned_eq_nil {s : System} {events : List Event} (h : ∀ id, Event.drop id ∉ events) :
    s.abandoned events = [] := by
  refine along_eq_nil fun e he s => ?_
  cases e with
  | drop id => exact absurd he (h id)
  | _ => rfl

def launch (request : Request) (id : TaskId) : List Event :=
  [.submit request, .advance id, .advance id, .advance id, .advance id]

theorem run?_launch {s : System} (request : Request) (ha : s.pool.isAccepting = true)
    (ho : s.pool.slots.isClosed = false) (hf : 1 ≤ s.pool.slots.free)
    (hnew : ∀ e ∈ s.pool.entries, e.task ≠ s.tasks.length) :
    s.run? (launch request s.tasks.length) = some
      { pool := { s.pool with
          slots := s.pool.slots.take 1
          entries := s.pool.entries ++ [⟨s.tasks.length, request, true⟩] }
        tasks := s.tasks ++ [.submission request .running] } := by
  let entered := s.pool.enter s.tasks.length request
  let holding := { entered with slots := entered.slots.take 1 }
  have hget (p : Pool) (stage : Stage) :
      (System.mk p (s.tasks ++ [.submission request stage])).task? s.tasks.length =
        some (.submission request stage) := by simp [task?]
  have hset (p : Pool) (a b : Stage) :
      some ((System.mk p (s.tasks ++ [.submission request a])).setStage s.tasks.length request b) =
        some (System.mk p (s.tasks ++ [.submission request b])) := by simp [setStage, setTask]
  have haccept :=
    (step?_of_move (.accept (hget s.pool .arrived) ha)).trans (hset s.pool .arrived .admitted)
  have henter :=
    (step?_of_move (.enter (hget s.pool .admitted))).trans (hset entered .admitted .entered)
  have htake :=
    (step?_of_move (.take (hget entered .entered) ho hf)).trans (hset holding .entered .holding)
  have hrun := (step?_of_move (.run (hget holding .holding))).trans
    (hset (holding.markRunning s.tasks.length) .holding .running)
  have hmark : (s.pool.entries ++ [Entry.mk s.tasks.length request false]).map
      (fun e => if e.task = s.tasks.length then { e with isRunning := true } else e) =
      s.pool.entries ++ [Entry.mk s.tasks.length request true] := by
    have hkeep : s.pool.entries.map
        (fun e => if e.task = s.tasks.length then { e with isRunning := true } else e) =
          s.pool.entries :=
      (List.map_congr_left fun e he => if_neg (hnew e he)).trans (List.map_id _)
    rw [List.map_append, hkeep]
    simp
  rw [← hmark]
  exact run?_of_step? rfl (run?_of_step? haccept (run?_of_step? henter (run?_of_step? htake
    (run?_of_step? hrun rfl))))

def crowded (capacity : Nat) (request : Request) (left running : Nat) : System where
  pool := {
    capacity
    slots := { free := capacity - running }
    entries := (List.range (left + running)).map fun id => ⟨id, request, true⟩ }
  tasks := List.replicate left (.submission request .dropped) ++
    List.replicate running (.submission request .running)

theorem active_crowded (capacity : Nat) (request : Request) (left running : Nat) :
    (crowded capacity request left running).pool.metrics.active = left + running := by
  simp [crowded, Pool.metrics, List.countP_map, Function.comp_def]

theorem run?_launch_crowded {capacity left running : Nat} (request : Request)
    (h : running < capacity) :
    (crowded capacity request left running).run? (launch request (left + running)) =
      some (crowded capacity request left (running + 1)) := by
  have hlen : (crowded capacity request left running).tasks.length = left + running := by
    simp [crowded]
  have hnew : ∀ e ∈ (crowded capacity request left running).pool.entries,
      e.task ≠ (crowded capacity request left running).tasks.length := by
    intro e he
    obtain ⟨id, hid, rfl⟩ := List.mem_map.1 he
    rw [hlen]
    exact Nat.ne_of_lt (List.mem_range.1 hid)
  have hfree : 1 ≤ (crowded capacity request left running).pool.slots.free := Nat.sub_pos_of_lt h
  have hrun := run?_launch request rfl rfl hfree hnew
  rw [hlen] at hrun
  rw [hrun]
  simp [crowded, Slots.take, ← Nat.add_assoc, List.range_succ, List.replicate_succ', Nat.sub_sub]

theorem step?_drop_crowded {capacity : Nat} (request : Request) (left : Nat) (h : 1 ≤ capacity) :
    (crowded capacity request left 1).step? (.drop left) =
      some (crowded capacity request (left + 1) 0) := by
  have hid :
      (crowded capacity request left 1).task? left = some (.submission request .running) := by
    simp [crowded, task?]
  rw [step?_of_move (.abandon hid)]
  have hfree : capacity - 1 + 1 = capacity := Nat.sub_add_cancel h
  simp [crowded, giveBack, withSlots, Slots.giveBack, Slots.handOut, setStage, setTask, hfree,
    List.replicate_succ']

def giveUpEach (request : Request) (left : Nat) : List Event :=
  (List.range left).flatMap fun id => launch request id ++ [.drop id]

def launchAll (request : Request) (left running : Nat) : List Event :=
  (List.range running).flatMap fun id => launch request (left + id)

theorem drop_not_mem_launch (request : Request) (id j : TaskId) :
    Event.drop j ∉ launch request id := by
  simp [launch]

theorem run?_giveUpEach {capacity : Nat} (request : Request) (left : Nat) (h : 1 ≤ capacity) :
    (crowded capacity request 0 0).run? (giveUpEach request left) =
      some (crowded capacity request left 0) ∧
      (crowded capacity request 0 0).abandoned (giveUpEach request left) = List.range left := by
  induction left with
  | zero => exact ⟨rfl, rfl⟩
  | succ left ih =>
    obtain ⟨hrun, hleft⟩ := ih
    have heach : giveUpEach request (left + 1) =
        giveUpEach request left ++ (launch request left ++ [.drop left]) := by
      simp [giveUpEach, List.range_succ]
    have hlaunch : (crowded capacity request left 0).run? (launch request left) =
      some (crowded capacity request left 1) := run?_launch_crowded request h
    have hdrop := step?_drop_crowded request left h
    have hnone : (crowded capacity request left 0).abandoned (launch request left) = [] :=
      abandoned_eq_nil (drop_not_mem_launch request left)
    have hone : (crowded capacity request left 1).abandoned [.drop left] = [left] := by
      rw [abandoned, along, hdrop]
      simp [abandons, along, crowded, task?]
    refine ⟨?_, ?_⟩
    · rw [heach]
      exact run?_of_run? hrun (run?_of_run? hlaunch (run?_of_step? hdrop rfl))
    · rw [heach, abandoned, along_append hrun, along_append hlaunch, ← abandoned, ← abandoned,
        ← abandoned, hleft, hnone, hone, List.range_succ]
      rfl

theorem run?_launchAll {capacity : Nat} (request : Request) (left running : Nat)
    (h : running ≤ capacity) :
    (crowded capacity request left 0).run? (launchAll request left running) =
      some (crowded capacity request left running) := by
  induction running with
  | zero => rfl
  | succ running ih =>
    have hall : launchAll request left (running + 1) =
        launchAll request left running ++ launch request (left + running) := by
      simp [launchAll, List.range_succ]
    rw [hall]
    exact run?_of_run? (ih (Nat.le_of_succ_le h)) (run?_launch_crowded request h)

theorem exists_run?_active_eq (capacity left : Nat) :
    ∃ events s, (ofPool (.ofCapacity capacity)).run? events = some s ∧
      ((ofPool (.ofCapacity capacity)).abandoned events).length = left ∧
      s.pool.metrics.active = s.pool.capacity + left := by
  let request : Request := { program := "sleep" }
  let slots := max capacity 1
  have hstart : ofPool (.ofCapacity capacity) = crowded slots request 0 0 := rfl
  obtain ⟨hgive, hleft⟩ := run?_giveUpEach request left (Nat.le_max_right capacity 1)
  have hall := run?_launchAll request left slots (Nat.le_refl slots)
  refine ⟨giveUpEach request left ++ launchAll request left slots, crowded slots request left slots,
    ?_, ?_, ?_⟩
  · rw [hstart]
    exact run?_of_run? hgive hall
  · have hnone : (crowded slots request left 0).abandoned (launchAll request left slots) = [] := by
      apply abandoned_eq_nil
      intro j hj
      obtain ⟨id, -, hid⟩ := List.mem_flatMap.1 hj
      exact drop_not_mem_launch request _ j hid
    rw [hstart, abandoned, along_append hgive, ← abandoned, ← abandoned, hleft, hnone,
      List.append_nil, List.length_range]
  · rw [active_crowded]
    exact Nat.add_comm left slots

/-- The entries that run stay within the capacity exactly of the runs in which no submission is
given up while its command runs; each that is given up may add one. -/
theorem active_le_capacity_iff (capacity left : Nat) :
    (∀ events s, (ofPool (.ofCapacity capacity)).run? events = some s →
      ((ofPool (.ofCapacity capacity)).abandoned events).length = left →
      s.pool.metrics.active ≤ s.pool.capacity + left) ∧
    ((∀ events s, (ofPool (.ofCapacity capacity)).run? events = some s →
      ((ofPool (.ofCapacity capacity)).abandoned events).length = left →
      s.pool.metrics.active ≤ s.pool.capacity) ↔ left = 0) := by
  have hbound : ∀ events s, (ofPool (.ofCapacity capacity)).run? events = some s →
      ((ofPool (.ofCapacity capacity)).abandoned events).length = left →
      s.pool.metrics.active ≤ s.pool.capacity + left := by
    rintro events s hrun rfl
    exact active_le_of_run? hrun
  refine ⟨hbound, ?_, ?_⟩
  · intro hall
    obtain ⟨events, s, hrun, hleft, hactive⟩ := exists_run?_active_eq capacity left
    have hle := hall events s hrun hleft
    omega
  · rintro rfl
    exact hbound

theorem active_exceeds_capacity :
    ((ofPool (.ofCapacity 1)).run?
      [.submit { program := "sleep", args := ["0.2"] },
        .advance 0, .advance 0, .advance 0, .advance 0, .drop 0,
        .submit { program := "sleep", args := ["0.2"] },
        .advance 1, .advance 1, .advance 1, .advance 1]).map
      (fun s => (s.pool.capacity, s.pool.metrics.active)) = some (1, 2) := by decide

end System

end Shorthand
