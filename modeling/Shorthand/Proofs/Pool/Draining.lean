import Shorthand.Proofs.Pool.Precedence
/-!
What a shutdown waits for. It returns when it has got the slots that it asked for, which are all of
them in a pool of at most `2 ^ 32 - 1` slots; in a larger pool commands may run on.
-/
set_option autoImplicit false

namespace Shorthand.System

variable {s t : System} {k : Nat} {capacity : Nat} {before after : List Event} {id j : TaskId}

/-- A submission is in the queue or has a slot. -/
def Unfinished (s : System) (id : TaskId) : Prop :=
  ∃ request stage, s.task? id = some (.submission request stage) ∧
    (id ∈ s.queue ∨ (Task.submission request stage).standing = .served)

theorem Regular.not_unfinished (h : s.Regular k) (hk : s.pool.shutdownCount = k)
    (hj : s.task? j = some (.shutdown .returned)) (id : TaskId) : ¬s.Unfinished id := by
  have hclosed := h.closed_iff.2 ⟨j, hj⟩
  rintro ⟨request, stage, hid, hqueue | hserved⟩
  · rw [h.accounts.queue_eq_nil hclosed] at hqueue
    cases hqueue
  · exact h.not_served_of_isClosed hk hclosed hid hserved

/-- The commands that run after a shutdown has returned have slots that it did not ask for. -/
theorem Regular.countP_isRunning_le (h : s.Regular k)
    (hj : s.task? j = some (.shutdown .returned)) :
    s.tasks.countP Task.isRunning ≤ k - s.pool.shutdownCount := by
  have hheld := Shorthand.countP_isRunning_le s.pool.shutdownCount s.tasks
  have hbalance := h.accounts.balance
  have hspare := h.spare (h.closed_iff.2 ⟨j, hj⟩)
  simp only [held] at hbalance
  omega

theorem Regular.not_ahead {G : TaskId → Prop} (h : t.Regular k) (hk : t.pool.shutdownCount = k)
    (hj : t.task? j = some (.shutdown .returned)) (hjG : ¬G j) (id : TaskId) : ¬t.Ahead G id := by
  rintro ⟨request, stage, hid, hserved | ⟨-, hl⟩⟩
  · exact h.not_served_of_isClosed hk (h.closed_iff.2 ⟨j, hj⟩) hid hserved
  · exact (hl j hjG).not_served h hj rfl

theorem exists_run?_shutDown (hopen : s.pool.slots.isClosed = false)
    (hfree : s.pool.shutdownCount ≤ s.pool.slots.free) :
    ∃ t, s.run? (.shutDown :: List.replicate 4 (.advance s.tasks.length)) = some t ∧
      t.tasks = s.tasks ++ [.shutdown .returned] := by
  let refusing := { s.pool with isAccepting := false }
  let holding := { refusing with slots := s.pool.slots.take s.pool.shutdownCount }
  let closed :=
    { holding.reset with slots := (holding.slots.close.giveBack s.pool.shutdownCount).1 }
  have hget (p : Pool) (c : Closing) :
      (System.mk p (s.tasks ++ [.shutdown c])).task? s.tasks.length = some (.shutdown c) := by
        simp [task?]
  have hset (p : Pool) (a b : Closing) :
      some ((System.mk p (s.tasks ++ [.shutdown a])).setClosing s.tasks.length b) =
        some (System.mk p (s.tasks ++ [.shutdown b])) := by simp [setClosing, setTask]
  have hbegin :=
    (step?_of_move (.stopAccepting (hget s.pool .arrived))).trans (hset refusing .arrived .refusing)
  have htake := (step?_of_move (.takeAll (hget refusing .refusing) hopen hfree)).trans
    (hset holding .refusing .holding)
  have hclear :=
    (step?_of_move (.clear (hget holding .holding))).trans (hset holding.reset .holding .cleared)
  have hclose :=
    (step?_of_move (.close (hget holding.reset .cleared))).trans (hset closed .cleared .returned)
  exact ⟨_, run?_of_step? rfl (run?_of_step? hbegin (run?_of_step? htake (run?_of_step? hclear
    (run?_of_step? hclose rfl)))), rfl⟩

theorem exists_run?_unfinished (hcap : Nat.pow 2 32 - 1 < capacity) (request : Request) :
    ∃ s after t, (ofPool (.ofCapacity capacity)).run? (launch request 0) = some s ∧
      s.run? (.shutDown :: after) = some t ∧ t.task? s.tasks.length = some (.shutdown .returned) ∧
      s.Unfinished 0 ∧ t.Unfinished 0 := by
  have hmax : max capacity 1 = capacity := Nat.max_eq_left (Nat.le_trans (Nat.le_add_left 1 _) hcap)
  have hstart : ofPool (.ofCapacity capacity) = crowded capacity request 0 0 := by
    simp [Pool.ofCapacity, crowded, ofPool, hmax]
  have hlaunch : (crowded capacity request 0 0).run? (launch request 0) =
    some (crowded capacity request 0 1) :=
    run?_launch_crowded request (Nat.lt_of_le_of_lt (Nat.zero_le _) hcap)
  have hfree : (crowded capacity request 0 1).pool.shutdownCount ≤
    (crowded capacity request 0 1).pool.slots.free :=
    Nat.le_trans (Nat.min_le_right _ _) (Nat.le_sub_one_of_lt hcap)
  obtain ⟨t, hrun, htasks⟩ := exists_run?_shutDown (s := crowded capacity request 0 1) rfl hfree
  have hzero : t.task? 0 = some (.submission request .running) := by
    rw [task?, htasks]
    rfl
  have hone : t.task? 1 = some (.shutdown .returned) := by
    rw [task?, htasks]
    rfl
  exact ⟨_, _, t, hstart ▸ hlaunch, hrun, hone, ⟨request, .running, rfl, .inr rfl⟩,
    request, .running, hzero, .inr rfl⟩

/-- When a shutdown returns, nothing that was queued or ran when it was called is still queued or
runs, exactly in pools of at most `2 ^ 32 - 1` slots; in larger ones as many commands may run as
there are slots more. In the smaller ones a submission that was in flight, with no other shutdown
before it, has its own outcome then. -/
theorem drained_iff (capacity : Nat) :
    ((∀ before s after t id, (ofPool (.ofCapacity capacity)).run? before = some s →
        s.run? (.shutDown :: after) = some t → t.task? s.tasks.length = some (.shutdown .returned) →
        s.Unfinished id → ¬t.Unfinished id) ↔ capacity ≤ Nat.pow 2 32 - 1) ∧
    (∀ events t id, (ofPool (.ofCapacity capacity)).run? events = some t →
      t.task? id = some (.shutdown .returned) →
      t.tasks.countP Task.isRunning ≤ capacity - (Nat.pow 2 32 - 1)) ∧
    (capacity ≤ Nat.pow 2 32 - 1 →
      ∀ before s after t id, (ofPool (.ofCapacity capacity)).run? before = some s →
        s.run? (.shutDown :: after) = some t → t.task? s.tasks.length = some (.shutdown .returned) →
        s.InFlight id → (∀ j, s.ShutdownAsked j → t.task? j ≠ some (.shutdown .returned)) →
        (∃ request, t.task? id = some (.submission request .dropped)) ∨
          (ofPool (.ofCapacity capacity)).AnsweredInRun (before ++ .shutDown :: after) t id) := by
  refine ⟨⟨?_, ?_⟩, ?_, ?_⟩
  · intro hall
    by_contra hlarge
    obtain ⟨s, after, t, hs, ht, hreturned, hbusy, hstill⟩ :=
      exists_run?_unfinished (Nat.lt_of_not_le hlarge) { program := "sleep" }
    exact hall _ s after t 0 hs ht hreturned hbusy hstill
  · intro hcap before s after t id hs ht hreturned _
    have hrun := run?_of_run? hs ht
    have hregular := Regular.of_run? hrun (Regular.ofPool capacity)
    exact hregular.not_unfinished (shutdownCount_of_run? hcap hrun) hreturned id
  · intro events t id hrun hreturned
    have hle := (Regular.of_run? hrun (Regular.ofPool capacity)).countP_isRunning_le hreturned
    obtain ⟨-, -, hcapacity⟩ :=
      System.of_run? hrun (listed_ofPool capacity) (accounts_ofPool capacity _)
    have hcount : t.pool.shutdownCount = min (max capacity 1) (Nat.pow 2 32 - 1) := by
      rw [Pool.shutdownCount, hcapacity]
      rfl
    have hlimit : Nat.pow 2 32 - 1 = 4294967295 := by decide
    omega
  · intro hcap before s after t id hs ht hreturned hflight hothers
    have hrun := run?_of_run? hs ht
    have hregular := Regular.of_run? hrun (Regular.ofPool capacity)
    have hnew : ¬s.ShutdownAsked s.tasks.length := by
      rintro ⟨c, hc, -⟩
      rw [task?, List.getElem?_eq_none (Nat.le_refl _)] at hc
      cases hc
    rcases (ahead_of_inFlight hflight).of_run? hcap hs ht hothers with hahead | hdone
    · exact absurd hahead (hregular.not_ahead (shutdownCount_of_run? hcap hrun) hreturned hnew id)
    · exact hdone

theorem returned_while_running :
    Pool.ofCapacity? (Nat.pow 2 32) = some (.ofCapacity (Nat.pow 2 32)) ∧
    ((ofPool (.ofCapacity (Nat.pow 2 32))).run?
      [.submit { program := "sleep", args := ["0.2"] }, .advance 0, .advance 0, .advance 0,
        .advance 0, .shutDown, .advance 1, .advance 1, .advance 1,
        .advance 1]).map (fun s => (s.task? 1, s.task? 0)) =
      some (some (.shutdown .returned),
        some (.submission { program := "sleep", args := ["0.2"] } .running)) := by decide

end Shorthand.System
