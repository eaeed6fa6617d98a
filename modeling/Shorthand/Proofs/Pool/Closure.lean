import Shorthand.Proofs.Pool.Capacity
import Shorthand.Proofs.Pool.Queue
import Shorthand.Proofs.Pool.Runs
set_option autoImplicit false

namespace Shorthand

namespace System

variable {s t : System} {e : Event} {id : TaskId} {k : Nat}

theorem isAccepting_of_move (hm : s.Move e t) (h : s.pool.isAccepting = false) :
    t.pool.isAccepting = false := by
  cases hm with
  | stopAccepting => rfl
  | @finish id request _ answer =>
    change (s.pool.finish id answer.isSuccess).isAccepting = false
    unfold Pool.finish
    split <;> exact h
  | _ => exact h

theorem isAccepting_of_begin (hm : s.Move (.advance id) t)
    (hid : s.task? id = some (.shutdown .arrived)) :
    t.pool.isAccepting = false := by
  have hstep := step?_of_move hm
  simp only [step?, hid, advanceShutdown, Option.some.injEq] at hstep
  rw [← hstep]
  rfl

theorem isClosed_of_close (hm : s.Move (.advance id) t)
    (hid : s.task? id = some (.shutdown .cleared)) :
    t.pool.slots.isClosed = true := by
  have hstep := step?_of_move hm
  simp only [step?, hid, advanceShutdown, Option.some.injEq] at hstep
  rw [← hstep]
  rfl

namespace Deal

variable {n : Nat} {old new : Task}

theorem isClosed_mono (hd : Deal n s id old new t) (hc : s.pool.slots.isClosed = true) :
    t.pool.slots.isClosed = true := by
  cases hd with
  | keep hs | take hs | enqueue hs | giveBack hs | leave hs =>
    rw [hs]
    exact hc
  | close hs =>
    rw [hs]
    rfl

theorem of_isClosed (hd : Deal n s id old new t) (hc : t.pool.slots.isClosed = true) :
    s.pool.slots.isClosed = true ∨ new = .shutdown .returned := by
  cases hd with
  | keep hs | take hs | enqueue hs | giveBack hs | leave hs =>
    rw [hs] at hc
    exact .inl hc
  | close _ _ _ hnew => exact .inr hnew

theorem spare (hd : Deal n s id old new t)
    (h : s.pool.slots.isClosed = true → n ≤ s.pool.slots.free) (hc : t.pool.slots.isClosed = true) :
    n ≤ t.pool.slots.free := by
  cases hd with
  | keep hs =>
    rw [hs] at hc ⊢
    exact h hc
  | take hs _ ho | enqueue hs _ ho =>
    rw [hs] at hc
    exact absurd (hc.symm.trans ho) (by decide)
  | giveBack hs | leave hs =>
    rw [hs] at hc ⊢
    exact Nat.le_trans (h hc) (Nat.le_add_right _ _)
  | close hs =>
    rw [hs]
    exact Nat.le_add_left _ _

end Deal

structure Regular (s : System) (k : Nat) : Prop where
  accounts : s.Accounts s.pool.shutdownCount k
  orderly : s.pool.slots.Orderly
  inLine : s.pool.slots.isClosed = false → ∀ id, s.Waits id → id ∈ s.queue
  closed_iff : s.pool.slots.isClosed = true ↔ ∃ id, s.task? id = some (.shutdown .returned)
  spare : s.pool.slots.isClosed = true → s.pool.shutdownCount ≤ s.pool.slots.free
  refuses : ∀ id c, s.task? id = some (.shutdown c) →
    c = .arrived ∨ c = .dropped ∨ s.pool.isAccepting = false
  count_pos : 0 < s.pool.shutdownCount
  count_le : s.pool.shutdownCount ≤ k

theorem Move.isClosed_mono (hm : s.Move e t) (hc : s.pool.slots.isClosed = true) :
    t.pool.slots.isClosed = true := by
  rcases hm.cases_turn with ⟨new, rfl, -⟩ | ⟨id, old, new, -, -, hdeal⟩
  · exact hc
  · exact hdeal.isClosed_mono hc

theorem Move.isClosed_eq_false (hm : s.Move e t) (hc : t.pool.slots.isClosed = false) :
    s.pool.slots.isClosed = false := by
  cases ho : s.pool.slots.isClosed with
  | false => rfl
  | true => exact absurd ((hm.isClosed_mono ho).symm.trans hc) (by decide)

namespace Regular

theorem inLine_of_move (hm : s.Move e t) (h : s.Regular k) (hc : t.pool.slots.isClosed = false)
    (j : TaskId) (hj : t.Waits j) : j ∈ t.queue := by
  have hopen := hm.isClosed_eq_false hc
  obtain ⟨u, hu, hwaits⟩ := hj
  rcases hm.cases_turn with ⟨new, rfl, hnew⟩ | ⟨id, old, new, hid, -, hdeal⟩
  · rw [task?_concat] at hu
    split at hu
    · obtain rfl := Option.some.inj hu
      rcases hnew with ⟨request, -, rfl⟩ | ⟨-, rfl⟩ <;> cases hwaits
    · exact h.inLine hopen j ⟨u, hu, hwaits⟩
  · obtain ⟨served, kept, hqueue, htasks, hlast | ⟨hclosed, -, -⟩⟩ :=
      hdeal.exists_served h.accounts hid
    · rw [hlast]
      rw [htasks] at hu
      by_cases hjd : j = id
      · rw [if_pos hjd] at hu
        obtain rfl := Option.some.inj hu
        rw [if_pos hwaits]
        exact List.mem_append_right _ (List.mem_singleton.2 hjd)
      · rw [if_neg hjd] at hu
        by_cases hserved : j ∈ served
        · rw [if_pos hserved] at hu
          obtain ⟨v, -, rfl⟩ := Option.map_eq_some_iff.1 hu
          exact absurd hwaits v.standing_grant_ne_waits
        · rw [if_neg hserved] at hu
          have hmem : j ∈ s.queue.filter (· ≠ id) :=
            List.mem_filter.2 ⟨h.inLine hopen j ⟨u, hu, hwaits⟩, by simpa using hjd⟩
          rw [hqueue] at hmem
          exact List.mem_append_left _ ((List.mem_append.1 hmem).resolve_left hserved)
    · exact absurd (hclosed.symm.trans hc) (by decide)

theorem isClosed_iff_of_move (hm : s.Move e t) (h : s.Regular k) :
    t.pool.slots.isClosed = true ↔ ∃ id, t.task? id = some (.shutdown .returned) := by
  constructor
  · intro hc
    have hkept (hs : s.pool.slots.isClosed = true) :
        ∃ id, t.task? id = some (.shutdown .returned) := by
      obtain ⟨j, hj⟩ := h.closed_iff.1 hs
      exact ⟨j, hm.task?_of_isOver hj rfl⟩
    rcases hm.cases_turn with ⟨new, rfl, -⟩ | ⟨id, old, new, hid, -, hdeal⟩
    · exact hkept hc
    · rcases hdeal.of_isClosed hc with hs | rfl
      · exact hkept hs
      · obtain ⟨change, ht⟩ := hdeal.exists_change
        refine ⟨id, ?_⟩
        rw [task?_of_tasks_eq hid ht, if_pos rfl]
  · rintro ⟨j, hj⟩
    rcases hm.exists_shutdown hj with ⟨-, hnew⟩ | ⟨c, hc, rfl | ⟨-, hg⟩ | hturn⟩
    · cases hnew
    · exact hm.isClosed_mono (h.closed_iff.2 ⟨j, hc⟩)
    · cases hg
    · cases hturn with
      | close => exact isClosed_of_close hm hc
      | repeated _ hs => exact hm.isClosed_mono hs

theorem spare_of_move (hm : s.Move e t) (h : s.Regular k) (hc : t.pool.slots.isClosed = true) :
    s.pool.shutdownCount ≤ t.pool.slots.free := by
  rcases hm.cases_turn with ⟨new, rfl, -⟩ | ⟨id, old, new, -, -, hdeal⟩
  · exact h.spare hc
  · exact hdeal.spare h.spare hc

theorem refuses_of_move (hm : s.Move e t) (h : s.Regular k) (j : TaskId) (c : Closing)
    (hj : t.task? j = some (.shutdown c)) :
    c = .arrived ∨ c = .dropped ∨ t.pool.isAccepting = false := by
  have hbegun (c' : Closing) (hc : s.task? j = some (.shutdown c')) (hne : c' ≠ .arrived)
    (hnd : c' ≠ .dropped) :
      c = .arrived ∨ c = .dropped ∨ t.pool.isAccepting = false :=
    .inr (.inr (isAccepting_of_move hm (((h.refuses j c' hc).resolve_left hne).resolve_left hnd)))
  rcases hm.exists_shutdown hj with ⟨-, rfl⟩ | ⟨c', hc, rfl | ⟨rfl, -⟩ | hturn⟩
  · exact .inl rfl
  · exact (h.refuses j c hc).imp_right (.imp_right (isAccepting_of_move hm))
  · exact hbegun _ hc (by decide) (by decide)
  · cases hturn with
    | stopAccepting => exact .inr (.inr (isAccepting_of_begin hm hc))
    | waitAll | clear | close => exact hbegun _ hc (by decide) (by decide)
    | holdAll hs => rcases hs with rfl | rfl <;> exact hbegun _ hc (by decide) (by decide)
    | repeated hs => rcases hs with rfl | rfl | rfl <;> exact hbegun _ hc (by decide) (by decide)
    | dropShutdown => exact .inr (.inl rfl)

theorem of_move (hm : s.Move e t) (h : s.Regular k) : t.Regular k := by
  have hcount := shutdownCount_of_move hm
  refine ⟨?_, ?_, inLine_of_move hm h, isClosed_iff_of_move hm h, ?_, refuses_of_move hm h, ?_, ?_⟩
  · rw [hcount]
    exact Accounts.of_move hm h.accounts
  · rcases hm.cases_turn with ⟨new, rfl, -⟩ | ⟨id, old, new, -, -, hdeal⟩
    · exact h.orderly
    · exact hdeal.orderly h.orderly
  · rw [hcount]
    exact spare_of_move hm h
  · rw [hcount]
    exact h.count_pos
  · rw [hcount]
    exact h.count_le

theorem ofPool (capacity : Nat) : (ofPool (.ofCapacity capacity)).Regular (max capacity 1) := by
  have hpos : 0 < max capacity 1 := Nat.lt_of_lt_of_le Nat.one_pos (Nat.le_max_right capacity 1)
  refine ⟨accounts_ofPool capacity _, Slots.orderly_of_waiting_eq_nil rfl, ?_, ?_, ?_, ?_, ?_,
    Nat.min_le_left _ _⟩
  · rintro - id ⟨u, hu, -⟩
    cases hu
  · constructor
    · intro hc
      cases hc
    · rintro ⟨id, hid⟩
      cases hid
  · intro hc
    cases hc
  · intro id c hid
    cases hid
  · exact Nat.lt_min.2 ⟨hpos, by decide⟩

theorem of_run? {events : List Event} (hr : s.run? events = some t) (h : s.Regular k) :
    t.Regular k :=
  run?_induction (P := fun _ t => t.Regular k) h (fun _ ih hm => ih.of_move hm) hr

theorem held_setTask_dropped {j : TaskId} {u : Task} (hj : s.task? j = some u) (n : Nat) :
    (s.setTask j (.shutdown .dropped)).held n + u.slots n = s.held n :=
  sum_map_set hj (.shutdown .dropped) (Task.slots n)

theorem slots_le_held {j : TaskId} {u : Task} (hj : s.task? j = some u) (n : Nat) :
    u.slots n ≤ s.held n := by
  have hset := held_setTask_dropped hj n
  omega

theorem slots_add_slots_le_held {i j : TaskId} {u v : Task} (hne : i ≠ j) (hi : s.task? i = some u)
    (hj : s.task? j = some v) (n : Nat) : u.slots n + v.slots n ≤ s.held n := by
  have hset := held_setTask_dropped hj n
  have hi' : (s.setTask j (.shutdown .dropped)).task? i = some u := by
    rw [task?_setTask, if_neg hne]
    exact hi
  have hle := slots_le_held hi' n
  omega

theorem not_served_of_isClosed (h : s.Regular k) (hk : s.pool.shutdownCount = k)
    (hc : s.pool.slots.isClosed = true) {request : Request} {stage : Stage}
    (hid : s.task? id = some (.submission request stage)) :
    (Task.submission request stage).standing ≠ .served := by
  intro hserved
  have hslot : (Task.submission request stage).slots s.pool.shutdownCount = 1 :=
    Task.slots_eq_one hserved
  have hle := slots_le_held hid s.pool.shutdownCount
  have hb := h.accounts.balance
  have hspare := h.spare hc
  omega

theorem not_served_of_holder (h : s.Regular k) (hk : s.pool.shutdownCount = k) {j : TaskId}
    {c : Closing} (hj : s.task? j = some (.shutdown c))
    (hc : c = .granted ∨ c = .holding ∨ c = .cleared) {request : Request} {stage : Stage}
    (hid : s.task? id = some (.submission request stage)) :
    (Task.submission request stage).standing ≠ .served := by
  intro hserved
  have hslot : (Task.submission request stage).slots s.pool.shutdownCount = 1 :=
    Task.slots_eq_one hserved
  have hall : (Task.shutdown c).slots s.pool.shutdownCount = s.pool.shutdownCount := by
    rcases hc with rfl | rfl | rfl <;> rfl
  have hne : id ≠ j := by
    rintro rfl
    rw [hid] at hj
    cases hj
  have hle := slots_add_slots_le_held hne hid hj s.pool.shutdownCount
  have hb := h.accounts.balance
  omega

end Regular

end System

end Shorthand
