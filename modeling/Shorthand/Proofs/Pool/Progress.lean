import Shorthand.Proofs.Pool.Closure
set_option autoImplicit false

namespace Shorthand

namespace Slots

theorem heldBy_eq_zero {waiting : List Waiter} (h : ∀ w ∈ waiting, w.held = 0) :
    heldBy waiting = 0 := by
  induction waiting with
  | nil => rfl
  | cons w rest ih =>
    rw [heldBy, h w List.mem_cons_self, ih fun v hv => h v (List.mem_cons_of_mem w hv)]

theorem Orderly.heldBy_cons {s : Slots} (h : s.Orderly) {w : Waiter} {rest : List Waiter}
    (hw : s.waiting = w :: rest) : heldBy s.waiting = w.held := by
  have hrest : heldBy rest = 0 := by
    apply heldBy_eq_zero
    intro v hv
    apply h.unpaid
    rw [hw]
    exact hv
  rw [hw, heldBy, hrest, Nat.add_zero]

end Slots

theorem Task.slots_eq_zero_of_isOver {n : Nat} {u : Task} (h : u.isOver = true) :
    u.slots n = 0 := by
  unfold isOver at h
  split at h <;> first | rfl | cases h

namespace System

variable {s t : System} {k : Nat} {id : TaskId}

/-- No task can take a step of its own. -/
def Polled (s : System) : Prop := ∀ id, s.step? (.advance id) = none

theorem waits_or_isRunning_of_polled (h : s.Polled) {u : Task} (hid : s.task? id = some u)
    (ho : u.isOver = false) :
    u.standing = .waits ∧ s.pool.slots.isClosed = false ∨ u.isRunning = true := by
  have hadvance := h id
  simp only [step?, hid] at hadvance
  cases u with
  | submission request stage =>
    cases stage with
    | arrived =>
      simp only [advanceSubmission] at hadvance
      split at hadvance <;> cases hadvance
    | entered =>
      rcases hask : s.pool.slots.ask id 1 with ⟨reply, slots⟩
      cases reply <;> simp [advanceSubmission, hask] at hadvance
    | waiting =>
      refine .inl ⟨rfl, ?_⟩
      simp only [advanceSubmission] at hadvance
      split at hadvance
      · cases hadvance
      · exact Bool.eq_false_iff.2 ‹_›
    | granted =>
      simp only [advanceSubmission] at hadvance
      split at hadvance <;> cases hadvance
    | running => exact .inr rfl
    | admitted | holding | finished => cases hadvance
    | answered | dropped => cases ho
  | shutdown c =>
    cases c with
    | refusing =>
      rcases hask : s.pool.slots.ask id s.pool.shutdownCount with ⟨reply, slots⟩
      cases reply <;> simp [advanceShutdown, hask] at hadvance
    | waiting =>
      refine .inl ⟨rfl, ?_⟩
      simp only [advanceShutdown] at hadvance
      split at hadvance
      · cases hadvance
      · exact Bool.eq_false_iff.2 ‹_›
    | granted =>
      simp only [advanceShutdown] at hadvance
      split at hadvance <;> cases hadvance
    | arrived | holding | cleared => cases hadvance
    | returned | dropped => cases ho

/-- No task can take a step, and no command runs that could end. -/
def Settled (s : System) : Prop :=
  ∀ id, s.step? (.advance id) = none ∧ ∀ answer, s.step? (.finish id answer) = none

theorem waits_of_settled (h : s.Settled) {u : Task} (hid : s.task? id = some u)
    (ho : u.isOver = false) :
    u.standing = .waits ∧ s.pool.slots.isClosed = false := by
  refine (waits_or_isRunning_of_polled (fun id => (h id).1) hid ho).resolve_right fun hrunning => ?_
  have hfinish := (h id).2 (.error .emptyCommand)
  unfold Task.isRunning at hrunning
  split at hrunning
  · simp [step?, finishTask, hid] at hfinish
  · cases hrunning

theorem held_eq_zero {n : Nat} (h : ∀ id u, s.task? id = some u → u.slots n = 0) :
    s.held n = 0 := by
  rw [held, List.sum_eq_zero_iff_forall_eq_nat]
  intro m hm
  obtain ⟨u, hu, rfl⟩ := List.mem_map.1 hm
  obtain ⟨id, hid⟩ := List.mem_iff_getElem?.1 hu
  exact h id u hid

theorem claim_le {n c : Nat} {u : Task} (h : u.claim? n = some c) (hn : n ≤ k) (hk : 1 ≤ k) :
    c ≤ k := by
  unfold Task.claim? at h
  split at h
  · cases h
    exact hk
  · cases h
    exact hn
  · cases h

theorem isOver_of_settled (h : s.Regular k) (hs : s.Settled) {u : Task}
    (hid : s.task? id = some u) :
    u.isOver = true := by
  by_contra ho
  obtain ⟨hwaits, hopen⟩ := waits_of_settled hs hid (Bool.eq_false_iff.2 ho)
  have hmem : id ∈ s.queue := h.inLine hopen id ⟨u, hid, hwaits⟩
  have hnone : s.held s.pool.shutdownCount = 0 := by
    apply held_eq_zero
    intro j v hj
    cases hv : v.isOver with
    | true => exact Task.slots_eq_zero_of_isOver hv
    | false =>
      apply Task.slots_eq_zero
      rw [(waits_of_settled hs hj hv).1]
      decide
  cases hw : s.pool.slots.waiting with
  | nil =>
    rw [queue, hw] at hmem
    cases hmem
  | cons w rest =>
    -- The first in the queue holds all slots, and lacks some.
    have hclaim : (w.task, w.held + w.need) ∈ Slots.claims s.pool.slots.waiting := by
      rw [hw]
      exact List.mem_cons_self
    obtain ⟨v, -, hv⟩ := Option.bind_eq_some_iff.1 (h.accounts.claimed _ hclaim)
    have hle : w.held + w.need ≤ k := claim_le hv h.count_le (Nat.le_trans h.count_pos h.count_le)
    have hneed : 0 < w.need := h.orderly.needy w (by rw [hw]; exact List.mem_cons_self)
    have hfree : s.pool.slots.free = 0 := h.orderly.full (by rw [hw]; exact List.cons_ne_nil _ _)
    have hheld := h.orderly.heldBy_cons hw
    have hbalance := h.accounts.balance
    omega

theorem length_add_turnsLeft_le {events : List Event} (hr : s.run? events = some t)
    (hcalls : ∀ e ∈ events, e.task? ≠ none) : events.length + t.turnsLeft ≤ s.turnsLeft := by
  induction events generalizing s with
  | nil =>
    obtain rfl := Option.some.inj hr
    exact Nat.le_of_eq (Nat.zero_add _)
  | cons e rest ih =>
    obtain ⟨u, hstep, hrest⟩ := exists_of_run?_cons hr
    have he := hcalls e List.mem_cons_self
    have hlt := (move_of_step? hstep).turnsLeft_lt (by rintro _ rfl; exact he rfl)
      (by rintro rfl; exact he rfl)
    have hle := ih hrest fun e he => hcalls e (List.mem_cons_of_mem _ he)
    rw [List.length_cons]
    omega

def Runs (s : System) (id : TaskId) : Prop :=
  ∃ request, s.task? id = some (.submission request .running)

theorem Move.runs_iff {e : Event} (hm : s.Move e t) : t.Runs id ↔ s.Runs id ∧ e.task? ≠ some id ∨
    e = .advance id ∧ ∃ request, s.task? id = some (.submission request .holding) := by
  constructor
  · rintro ⟨request, hid⟩
    rcases hm.exists_submission hid with ⟨-, hnew⟩ | ⟨stage, hid', rfl | ⟨-, hg⟩ | hturn⟩
    · cases hnew
    · refine .inl ⟨⟨request, hid'⟩, fun he => ?_⟩
      obtain ⟨a, b, ha, hb, hturn⟩ := hm.exists_turn he
      obtain rfl := Option.some.inj (hid'.symm.trans ha)
      obtain rfl := Option.some.inj (hid.symm.trans hb)
      cases hturn
    · cases hg
    · cases hturn with
      | run => exact .inr ⟨rfl, request, hid'⟩
  · rintro (⟨⟨request, hid⟩, he⟩ | ⟨rfl, request, hid⟩)
    · obtain ⟨b, hb, rfl | rfl⟩ := hm.exists_task?_of_ne hid he
      · exact ⟨request, hb⟩
      · exact ⟨request, hb⟩
    · obtain ⟨a, b, ha, hb, hturn⟩ := hm.exists_turn rfl
      obtain rfl := Option.some.inj (hid.symm.trans ha)
      cases hturn with
      | run => exact ⟨request, hb⟩
      | hold _ hs => rcases hs with hs | hs <;> cases hs
      | refuse _ hs => rcases hs with hs | hs | hs <;> cases hs

theorem not_runs_of_advance (h : s.step? (.advance id) = some t) : ¬s.Runs id := by
  rintro ⟨request, hid⟩
  simp [step?, hid, advanceSubmission] at h

theorem exists_step?_finish (h : s.Runs id) (answer : Answer) :
    ∃ t, s.step? (.finish id answer) = some t := by
  obtain ⟨request, hid⟩ := h
  simp [step?, finishTask, hid]

theorem exists_step?_drop (h : s.Runs id) : ∃ t, s.step? (.drop id) = some t := by
  obtain ⟨request, hid⟩ := h
  simp [step?, dropSubmission, hid]

theorem runs_of_step?_finish {answer : Answer} (h : s.step? (.finish id answer) = some t) :
    s.Runs id := by
  simp only [step?, finishTask] at h
  split at h
  · exact ⟨_, ‹_›⟩
  · cases h

end System

end Shorthand
