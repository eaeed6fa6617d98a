import Mathlib.Data.List.Nodup
import Shorthand.Proofs.Pool.Turns
set_option autoImplicit false

namespace Shorthand

inductive Standing where
  | before
  | waits
  | served
  | gone
  deriving DecidableEq

namespace Task

def standing : Task → Standing
  | submission _ .arrived | submission _ .admitted | submission _ .entered => .before
  | shutdown .arrived | shutdown .refusing => .before
  | submission _ .waiting | shutdown .waiting => .waits
  | submission _ .granted | submission _ .holding | submission _ .running
  | submission _ (.finished _) => .served
  | shutdown .granted | shutdown .holding | shutdown .cleared | shutdown .returned => .served
  | submission _ (.answered _) | submission _ .dropped | shutdown .dropped => .gone

theorem standing_grant (t : Task) :
    t.grant.standing = if t.standing = .waits then .served else t.standing := by
  cases t with
  | submission request stage => cases stage <;> rfl
  | shutdown stage => cases stage <;> rfl

theorem standing_grant_ne_waits (t : Task) : t.grant.standing ≠ .waits := by
  rw [standing_grant]
  split
  · decide
  · assumption

theorem standing_eq_waits_iff {n : Nat} {t : Task} : t.standing = .waits ↔ t.claim? n ≠ none := by
  cases t with
  | submission request stage => cases stage <;> simp [standing, claim?]
  | shutdown stage => cases stage <;> simp [standing, claim?]

theorem standing_ne_waits {n : Nat} {t : Task} (h : t.claim? n = none) : t.standing ≠ .waits :=
  fun hw => standing_eq_waits_iff.1 hw h

theorem slots_eq_zero {n : Nat} {t : Task} (h : t.standing ≠ .served) : t.slots n = 0 := by
  cases t with
  | submission request stage => cases stage <;> first | rfl | exact absurd rfl h
  | shutdown stage => cases stage <;> first | rfl | exact absurd rfl h

theorem slots_eq_one {n : Nat} {request : Request} {stage : Stage}
    (h : (submission request stage).standing = .served) :
    (submission request stage).slots n = 1 := by
  cases stage <;> first | rfl | cases h

/-- A task that waits stops waiting by its own turn: it is given up, or finds the slots closed. -/
theorem Turn.of_waits {p : Pool} {id : TaskId} {e : Event} {a b : Task} (h : Turn p id e a b)
    (ha : a.standing = .waits) :
    b.standing = .gone ∨ b = .shutdown .returned ∧ p.slots.isClosed = true := by
  cases h with
  | repeated h hc => exact .inr ⟨rfl, hc⟩
  | refuse | drop | dropShutdown => exact .inl rfl
  | hold request h | holdAll h => rcases h with rfl | rfl <;> cases ha
  | _ => cases ha

theorem Turn.standing_ne_waits {p : Pool} {id : TaskId} {e : Event} {a b : Task}
    (h : Turn p id e a b) (ha : a.standing = .waits) : b.standing ≠ .waits := by
  rcases h.of_waits ha with hb | ⟨rfl, -⟩
  · rw [hb]
    decide
  · decide

end Task

namespace Slots

/-- Only the first that waits holds slots, and while it waits none is free. -/
structure Orderly (s : Slots) : Prop where
  needy : ∀ w ∈ s.waiting, 0 < w.need
  unpaid : ∀ w ∈ s.waiting.tail, w.held = 0
  full : s.waiting ≠ [] → s.free = 0

theorem orderly_of_waiting_eq_nil {s : Slots} (h : s.waiting = []) : s.Orderly := by
  refine ⟨?_, ?_, fun hne => absurd h hne⟩
  · rw [h]
    exact fun _ hw => nomatch hw
  · rw [h]
    exact fun _ hw => nomatch hw

theorem orderly_handOut {waiting : List Waiter} (hn : ∀ w ∈ waiting, 0 < w.need)
    (hu : ∀ w ∈ waiting.tail, w.held = 0) (count : Nat) :
    (Slots.mk (handOut count waiting).1 (handOut count waiting).2.1 false).Orderly := by
  induction waiting generalizing count with
  | nil => exact orderly_of_waiting_eq_nil rfl
  | cons w rest ih =>
    have hrest : ∀ v ∈ rest, 0 < v.need := fun v hv => hn v (List.mem_cons_of_mem w hv)
    rcases Nat.lt_or_ge count w.need with h | h
    · rw [handOut_cons_of_lt h]
      refine ⟨?_, hu, fun _ => rfl⟩
      intro v hv
      rcases List.mem_cons.1 hv with rfl | hv
      · exact Nat.sub_pos_of_lt h
      · exact hrest v hv
    · rw [handOut_cons_of_le h]
      exact ih hrest (fun v hv => hu v (List.mem_of_mem_tail hv)) (count - w.need)

namespace Orderly

variable {s : Slots}

theorem take (h : s.Orderly) (count : Nat) : (s.take count).Orderly := by
  refine ⟨h.needy, h.unpaid, ?_⟩
  intro hne
  change s.free - count = 0
  rw [h.full hne, Nat.zero_sub]

theorem enqueue (h : s.Orderly) (id : TaskId) {count : Nat} (hf : s.free < count) :
    (s.enqueue id count).Orderly := by
  refine ⟨?_, ?_, fun _ => rfl⟩
  · intro w hw
    rcases List.mem_append.1 hw with hw | hw
    · exact h.needy w hw
    · obtain rfl := List.mem_singleton.1 hw
      exact Nat.sub_pos_of_lt hf
  · intro w hw
    change w ∈ (s.waiting ++ [_]).tail at hw
    cases hwait : s.waiting with
    | nil =>
      rw [hwait] at hw
      cases hw
    | cons first rest =>
      rw [hwait] at hw
      rcases List.mem_append.1 hw with hw | hw
      · apply h.unpaid
        rw [hwait]
        exact hw
      · obtain rfl := List.mem_singleton.1 hw
        exact h.full (by simp [hwait])

theorem giveBack (h : s.Orderly) (count : Nat) : (s.giveBack count).1.Orderly := by
  have hout := orderly_handOut h.needy h.unpaid count
  refine ⟨hout.needy, hout.unpaid, ?_⟩
  intro hne
  have hwait : s.waiting ≠ [] := by
    intro hnil
    apply hne
    change (handOut count s.waiting).2.1 = []
    rw [hnil]
    rfl
  have hleft : (handOut count s.waiting).1 = 0 := hout.full hne
  change s.free + (handOut count s.waiting).1 = 0
  rw [h.full hwait, hleft]

theorem filter (h : s.Orderly) (p : Waiter → Bool) :
    { s with waiting := s.waiting.filter p }.Orderly := by
  refine ⟨fun w hw => h.needy w (List.mem_of_mem_filter hw), ?_, ?_⟩
  · intro w hw
    change w ∈ (s.waiting.filter p).tail at hw
    apply h.unpaid
    cases hwait : s.waiting with
    | nil =>
      rw [hwait] at hw
      cases hw
    | cons first rest =>
      rw [hwait, List.filter_cons] at hw
      split at hw
      · exact List.mem_of_mem_filter hw
      · exact List.mem_of_mem_filter (List.mem_of_mem_tail hw)
  · intro hne
    apply h.full
    intro hnil
    apply hne
    change s.waiting.filter p = []
    rw [hnil]
    rfl

theorem leave (h : s.Orderly) (id : TaskId) : (s.leave id).1.Orderly := (h.filter _).giveBack _

end Orderly

end Slots

namespace System

def Waits (s : System) (id : TaskId) : Prop := ∃ u, s.task? id = some u ∧ u.standing = .waits

/-- The tasks that wait for slots, the first one first. -/
def queue (s : System) : List TaskId := s.pool.slots.waiting.map (·.task)

theorem queue_eq (s : System) : s.queue = (Slots.claims s.pool.slots.waiting).map (·.1) := by
  rw [Slots.claims, List.map_map]
  rfl

theorem queue_giveBack (s : System) (count : Nat) :
    s.queue = (s.pool.slots.giveBack count).2 ++ (s.giveBack count).queue := by
  obtain ⟨paid, hclaims, hserved, -⟩ := Slots.exists_paid count s.pool.slots.waiting
  have hout : (s.pool.slots.giveBack count).2 = paid.map (·.1) := hserved
  rw [queue_eq, hclaims, List.map_append, hout, queue_eq]
  rfl

theorem Accounts.waits_of_mem {s : System} {n k : Nat} (h : s.Accounts n k) {id : TaskId}
    (hid : id ∈ s.queue) :
    s.Waits id := by
  rw [queue_eq] at hid
  obtain ⟨c, hc, rfl⟩ := List.mem_map.1 hid
  obtain ⟨u, hu, hclaim⟩ := Option.bind_eq_some_iff.1 (h.claimed c hc)
  exact ⟨u, hu, (Task.standing_eq_waits_iff (n := n)).2 (by simp [hclaim])⟩

theorem Accounts.queue_eq_nil {s : System} {n k : Nat} (h : s.Accounts n k)
    (hc : s.pool.slots.isClosed = true) :
    s.queue = [] := by
  rw [queue, h.closed hc]
  rfl

namespace Deal

variable {n k : Nat} {s t : System} {id : TaskId} {old new : Task}

theorem orderly (hd : Deal n s id old new t) (h : s.pool.slots.Orderly) : t.pool.slots.Orderly := by
  cases hd with
  | keep hs => exact hs ▸ h
  | take hs => exact hs ▸ h.take _
  | enqueue hs _ _ hf => exact hs ▸ h.enqueue id hf
  | giveBack hs => exact hs ▸ h.giveBack _
  | leave hs => exact hs ▸ h.leave id
  | close hs => exact hs ▸ (Slots.orderly_of_waiting_eq_nil rfl).giveBack n

theorem free_pos (hd : Deal n s id old new t) (ho : old.slots n = 0) (hn : 0 < new.slots n) :
    0 < s.pool.slots.free := by
  cases hd with
  | keep _ _ _ _ hk => omega
  | take _ _ _ hf _ _ hk => omega
  | enqueue _ _ _ _ _ _ hk | giveBack _ _ _ _ hk | leave _ _ _ hk => omega
  | close _ _ _ hnew =>
    subst hnew
    cases hn

/-- Of those that wait, the first ones are served and the others keep their places; who is new comes
last. -/
theorem exists_served (hd : Deal n s id old new t) (ha : s.Accounts n k)
    (hid : s.task? id = some old) :
    ∃ served kept, s.queue.filter (· ≠ id) = served ++ kept ∧
      (∀ j, t.task? j =
        if j = id then some new else if j ∈ served then (s.task? j).map Task.grant else s.task? j) ∧
      (t.queue = kept ++ (if new.standing = .waits then [id] else []) ∨
        t.pool.slots.isClosed = true ∧ served = [] ∧ t.queue = []) := by
  have hlast (hn : new.claim? n = none) : (if new.standing = .waits then [id] else []) = [] :=
    if_neg (Task.standing_ne_waits hn)
  have hout (ho : old.claim? n = none ∨ s.pool.slots.isClosed = true) :
      s.queue.filter (· ≠ id) = s.queue := by
    rw [List.filter_eq_self]
    intro j hj
    rcases ho with ho | hc
    · rw [queue_eq] at hj
      obtain ⟨c, hc, rfl⟩ := List.mem_map.1 hj
      simpa using ha.ne_of_claim?_eq_none hid ho c hc
    · rw [ha.queue_eq_nil hc] at hj
      cases hj
  have hsame (ht : t.tasks = s.tasks.set id new) : ∀ j, t.task? j =
      if j = id then some new else if j ∈ [] then (s.task? j).map Task.grant else s.task? j :=
    @task?_of_tasks_eq s t id old new (s.pool.slots, []) hid ht
  cases hd with
  | keep hs ht ho hn =>
    refine ⟨[], s.queue, hout ho, hsame ht, .inl ?_⟩
    rw [hlast hn, List.append_nil, queue, hs, queue]
  | take hs ht _ _ ho hn =>
    refine ⟨[], s.queue, hout (.inl ho), hsame ht, .inl ?_⟩
    rw [hlast hn, List.append_nil, queue, hs, queue]
    rfl
  | enqueue hs ht _ _ ho hn =>
    refine ⟨[], s.queue, hout (.inl ho), hsame ht, .inl ?_⟩
    have hwaits : new.standing = .waits := (Task.standing_eq_waits_iff (n := n)).2 (by simp [hn])
    rw [if_pos hwaits, queue, hs, queue, Slots.enqueue, List.map_append]
    rfl
  | @giveBack count hs ht ho hn =>
    refine ⟨_, _, (hout (.inl ho)).trans (queue_giveBack s count),
      task?_of_tasks_eq hid ht, .inl ?_⟩
    rw [hlast hn, List.append_nil, queue, hs, queue]
  | leave hs ht hn =>
    let left :=
      s.putSlots { s.pool.slots with waiting := s.pool.slots.waiting.filter (·.task ≠ id) }
    have hleft : left.queue = s.queue.filter (· ≠ id) := by
      rw [queue, queue, List.filter_map]
      rfl
    refine ⟨_, _, hleft.symm.trans (queue_giveBack left _), task?_of_tasks_eq hid ht, .inl ?_⟩
    rw [hlast hn, List.append_nil, queue, hs]
    rfl
  | close hs ht hold =>
    refine ⟨[], s.queue, hout (.inl (by rw [hold]; rfl)), hsame ht, .inr ⟨?_, rfl, ?_⟩⟩
    · rw [hs]
      rfl
    · rw [queue, hs]
      rfl

end Deal

end System

end Shorthand
