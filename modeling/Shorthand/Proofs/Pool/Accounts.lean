import Mathlib.Algebra.GroupWithZero.Nat
import Shorthand.Proofs.Pool.Tasks
/-!
Where the slots of a pool are. Each slot is free, or kept for a task that waits for more, or held by
a task; no step makes one and no step loses one, whatever is given up at whatever time.
-/
set_option autoImplicit false

namespace Shorthand

namespace Slots

/-- The tasks that wait, the first one first, each with the number of slots that it asked for. -/
def claims (waiting : List Waiter) : List (TaskId × Nat) :=
  waiting.map fun w => (w.task, w.held + w.need)

theorem handOut_cons_of_le {count : Nat} {w : Waiter} {rest : List Waiter} (h : w.need ≤ count) :
    handOut count (w :: rest) =
      ((handOut (count - w.need) rest).1, (handOut (count - w.need) rest).2.1,
        w.task :: (handOut (count - w.need) rest).2.2) := by
  rw [handOut, if_pos h]

theorem handOut_cons_of_lt {count : Nat} {w : Waiter} {rest : List Waiter} (h : count < w.need) :
    handOut count (w :: rest) =
      (0, { w with held := w.held + count, need := w.need - count } :: rest, []) := by
  rw [handOut, if_neg (by omega)]

/-- The first claims are met in full, and no slot is lost over it. -/
theorem exists_paid (count : Nat) (waiting : List Waiter) :
    ∃ paid, claims waiting = paid ++ claims (handOut count waiting).2.1 ∧
      (handOut count waiting).2.2 = paid.map (·.1) ∧
      (handOut count waiting).1 + heldBy (handOut count waiting).2.1 + (paid.map (·.2)).sum =
        count + heldBy waiting := by
  induction waiting generalizing count with
  | nil => exact ⟨[], rfl, rfl, rfl⟩
  | cons w rest ih =>
    rcases Nat.lt_or_ge count w.need with h | h
    · -- The first that waits gets all of it and goes on waiting, with the claim that it had.
      rw [handOut_cons_of_lt h]
      refine ⟨[], ?_, rfl, ?_⟩
      · have hw : w.held + count + (w.need - count) = w.held + w.need := by omega
        simp [claims, hw]
      · simp only [heldBy, List.map_nil, List.sum_nil]
        omega
    · rw [handOut_cons_of_le h]
      obtain ⟨paid, hclaims, hserved, hsum⟩ := ih (count - w.need)
      refine ⟨(w.task, w.held + w.need) :: paid, ?_, ?_, ?_⟩
      · rw [List.cons_append, ← hclaims]
        rfl
      · rw [hserved]
        rfl
      · simp only [heldBy, List.map_cons, List.sum_cons]
        omega

@[simp] theorem heldBy_append (a b : List Waiter) : heldBy (a ++ b) = heldBy a + heldBy b := by
  induction a with
  | nil => exact (Nat.zero_add _).symm
  | cons w rest ih => rw [List.cons_append, heldBy, heldBy, ih, Nat.add_assoc]

theorem heldBy_filter {waiting : List Waiter} (h : ((claims waiting).map (·.1)).Nodup)
    (id : TaskId) :
    heldBy (waiting.filter (·.task ≠ id)) + ((waiting.find? (·.task = id)).map (·.held)).getD 0 =
      heldBy waiting := by
  induction waiting with
  | nil => rfl
  | cons w rest ih =>
    simp only [claims, List.map_cons, List.nodup_cons] at h
    obtain ⟨hw, hrest⟩ := h
    by_cases hid : w.task = id
    · have hne : ∀ v ∈ rest, v.task ≠ id := by
        intro v hv heq
        apply hw
        simp only [List.map_map, List.mem_map]
        exact ⟨v, hv, heq.trans hid.symm⟩
      have hkeep : rest.filter (·.task ≠ id) = rest :=
        List.filter_eq_self.2 fun v hv => by simpa using hne v hv
      rw [List.filter_cons_of_neg (by simp [hid]), hkeep, List.find?_cons_of_pos (by simp [hid]),
        heldBy]
      exact Nat.add_comm _ _
    · have hr := ih hrest
      rw [List.filter_cons_of_pos (by simp [hid]), List.find?_cons_of_neg (by simp [hid]), heldBy,
        heldBy]
      omega

end Slots

namespace Task

/-- The slots that a task holds, if a shutdown asks for so many. -/
def slots (n : Nat) : Task → Nat
  | submission _ .granted | submission _ .holding | submission _ .running
  | submission _ (.finished _) => 1
  | shutdown .granted | shutdown .holding | shutdown .cleared => n
  | _ => 0

def claim? (n : Nat) : Task → Option Nat
  | submission _ .waiting => some 1
  | shutdown .waiting => some n
  | _ => none

theorem slots_grant {n c : Nat} {t : Task} (h : t.claim? n = some c) :
    t.grant.slots n = t.slots n + c := by
  unfold claim? at h
  split at h
  · cases h; rfl
  · cases h; exact (Nat.zero_add _).symm
  · cases h

end Task

theorem sum_map_set {l : List Task} {i : Nat} {old : Task} (h : l[i]? = some old) (new : Task)
    (f : Task → Nat) :
    ((l.set i new).map f).sum + f old = (l.map f).sum + f new := by
  induction l generalizing i with
  | nil => cases h
  | cons a l ih =>
    cases i with
    | zero =>
      obtain rfl := Option.some.inj h
      simp only [List.set_cons_zero, List.map_cons, List.sum_cons]
      omega
    | succ i =>
      have hl := ih (i := i) (by simpa using h)
      simp only [List.set_cons_succ, List.map_cons, List.sum_cons]
      omega

namespace System

def held (s : System) (n : Nat) : Nat := (s.tasks.map (Task.slots n)).sum

def claim? (s : System) (n : Nat) (id : TaskId) : Option Nat := (s.task? id).bind (Task.claim? n)

structure Accounts (s : System) (n k : Nat) : Prop where
  balance : s.pool.slots.free + Slots.heldBy s.pool.slots.waiting + s.held n = k
  distinct : ((Slots.claims s.pool.slots.waiting).map (·.1)).Nodup
  claimed : ∀ c ∈ Slots.claims s.pool.slots.waiting, s.claim? n c.1 = some c.2
  closed : s.pool.slots.isClosed = true → s.pool.slots.waiting = []

theorem sum_map_modify_grant {n c : Nat} {id : TaskId} {tasks : List Task}
    (h : (tasks[id]?).bind (Task.claim? n) = some c) :
    ((tasks.modify id Task.grant).map (Task.slots n)).sum = (tasks.map (Task.slots n)).sum + c := by
  obtain ⟨t, ht, hc⟩ := Option.bind_eq_some_iff.1 h
  have hs := sum_map_set ht t.grant (Task.slots n)
  rw [Task.slots_grant hc] at hs
  rw [modify_grant_eq_set ht]
  omega

theorem sum_map_foldl_grant {n : Nat} {paid : List (TaskId × Nat)} {tasks : List Task}
    (hd : (paid.map (·.1)).Nodup) (hc : ∀ c ∈ paid, (tasks[c.1]?).bind (Task.claim? n) = some c.2) :
    (((paid.map (·.1)).foldl (fun tasks id => tasks.modify id Task.grant) tasks).map
      (Task.slots n)).sum =
      (tasks.map (Task.slots n)).sum + (paid.map (·.2)).sum := by
  induction paid generalizing tasks with
  | nil => rfl
  | cons c paid ih =>
    simp only [List.map_cons, List.nodup_cons] at hd
    obtain ⟨hne, hd⟩ := hd
    have hrest :
        ∀ b ∈ paid, ((tasks.modify c.1 Task.grant)[b.1]?).bind (Task.claim? n) = some b.2 := by
      intro b hb
      have hbc : c.1 ≠ b.1 := by
        intro heq
        exact hne (List.mem_map.2 ⟨b, hb, heq.symm⟩)
      simpa [List.getElem?_modify, hbc] using hc b (List.mem_cons_of_mem c hb)
    rw [List.map_cons, List.foldl_cons, ih hd hrest, sum_map_modify_grant (hc c List.mem_cons_self)]
    simp only [List.map_cons, List.sum_cons]
    omega

theorem claims_giveBack_subset (s : System) (count : Nat) :
    Slots.claims (s.giveBack count).pool.slots.waiting ⊆ Slots.claims s.pool.slots.waiting := by
  obtain ⟨paid, hclaims, -, -⟩ := Slots.exists_paid count s.pool.slots.waiting
  rw [hclaims]
  exact List.subset_append_right _ _

theorem task?_giveBack {s : System} {count : Nat} {id : TaskId}
    (h : id ∉ (Slots.handOut count s.pool.slots.waiting).2.2) :
    (s.giveBack count).task? id = s.task? id := by
  rw [giveBack, task?_withSlots]
  exact if_neg h

theorem task?_giveBack_of_ne {s : System} {id : TaskId} (count : Nat)
    (h : ∀ c ∈ Slots.claims s.pool.slots.waiting, c.1 ≠ id) :
    (s.giveBack count).task? id = s.task? id := by
  obtain ⟨paid, hclaims, hserved, -⟩ := Slots.exists_paid count s.pool.slots.waiting
  apply task?_giveBack
  rw [hserved]
  intro hp
  obtain ⟨c, hc, heq⟩ := List.mem_map.1 hp
  apply h c _ heq
  rw [hclaims]
  exact List.mem_append_left _ hc

namespace Accounts

variable {s t : System} {n k : Nat}

theorem congr (h : s.Accounts n k) (hs : t.pool.slots = s.pool.slots) (ht : t.tasks = s.tasks) :
    t.Accounts n k := by
  have htask (id : TaskId) : t.claim? n id = s.claim? n id := by
    rw [claim?, claim?, task?, task?, ht]
  refine ⟨?_, ?_, ?_, ?_⟩
  · rw [hs, held, ht]
    exact h.balance
  · rw [hs]
    exact h.distinct
  · rw [hs]
    intro c hc
    rw [htask]
    exact h.claimed c hc
  · rw [hs]
    exact h.closed

theorem addTask (h : s.Accounts n k) {new : Task} (hn : new.slots n = 0) :
    { s with tasks := s.tasks ++ [new] }.Accounts n k := by
  refine ⟨?_, h.distinct, ?_, h.closed⟩
  · have hb := h.balance
    simp only [held, List.map_append, List.sum_append, List.map_cons, List.map_nil, List.sum_cons,
      List.sum_nil, hn] at hb ⊢
    omega
  · intro c hc
    have hold := h.claimed c hc
    obtain ⟨u, hu, -⟩ := Option.bind_eq_some_iff.1 hold
    rw [← hold, claim?, claim?, task?_addTask hu, hu]

theorem setTask {id : TaskId} {old new : Task} {k' : Nat} (h : s.Accounts n k)
    (hid : s.task? id = some old) (hq : ∀ c ∈ Slots.claims s.pool.slots.waiting, c.1 ≠ id)
    (hk : k + new.slots n = k' + old.slots n) :
    (s.setTask id new).Accounts n k' := by
  refine ⟨?_, h.distinct, ?_, h.closed⟩
  · have hb := h.balance
    have hs := sum_map_set hid new (Task.slots n)
    simp only [held, System.setTask] at hb hs ⊢
    omega
  · intro c hc
    rw [claim?, task?_setTask, if_neg (hq c hc)]
    exact h.claimed c hc

theorem ne_of_claim?_eq_none {id : TaskId} {old : Task} (h : s.Accounts n k)
    (hid : s.task? id = some old) (hn : old.claim? n = none) :
    ∀ c ∈ Slots.claims s.pool.slots.waiting, c.1 ≠ id := by
  rintro c hc rfl
  have hold := h.claimed c hc
  rw [claim?, hid, Option.bind_some, hn] at hold
  cases hold

theorem giveBack (h : s.Accounts n k) (count : Nat) :
    (s.giveBack count).Accounts n (k + count) := by
  obtain ⟨paid, hclaims, hserved, hsum⟩ := Slots.exists_paid count s.pool.slots.waiting
  have hd := h.distinct
  rw [hclaims, List.map_append, List.nodup_append] at hd
  obtain ⟨hpaid, hleft, hapart⟩ := hd
  have hc : ∀ c ∈ paid, s.claim? n c.1 = some c.2 := by
    intro c hc
    apply h.claimed
    rw [hclaims]
    exact List.mem_append_left _ hc
  refine ⟨?_, hleft, ?_, ?_⟩
  · have hb := h.balance
    have hg : (s.giveBack count).held n = s.held n + (paid.map (·.2)).sum := by
      have hfold := sum_map_foldl_grant hpaid hc
      rw [← hserved] at hfold
      exact hfold
    have hfree : (s.giveBack count).pool.slots.free =
      s.pool.slots.free + (Slots.handOut count s.pool.slots.waiting).1 := rfl
    have hwait : (s.giveBack count).pool.slots.waiting =
      (Slots.handOut count s.pool.slots.waiting).2.1 := rfl
    rw [hg, hfree, hwait]
    omega
  · intro c hcl
    have hnot : c.1 ∉ (Slots.handOut count s.pool.slots.waiting).2.2 := by
      rw [hserved]
      intro hp
      exact hapart _ hp _ (List.mem_map_of_mem hcl) rfl
    rw [claim?, task?_giveBack hnot]
    apply h.claimed
    rw [hclaims]
    exact List.mem_append_right _ hcl
  · intro hclosed
    have hw := h.closed hclosed
    change (Slots.handOut count s.pool.slots.waiting).2.1 = []
    rw [hw]
    rfl

theorem take (h : s.Accounts n k) {count : Nat} (hf : count ≤ s.pool.slots.free) :
    (s.putSlots (s.pool.slots.take count)).Accounts n (k - count) := by
  refine ⟨?_, h.distinct, h.claimed, h.closed⟩
  have hb := h.balance
  simp only [putSlots, Slots.take, held] at hb ⊢
  omega

theorem close (h : s.Accounts n k) : (s.putSlots s.pool.slots.close).Accounts n k := by
  refine ⟨?_, List.nodup_nil, ?_, fun _ => rfl⟩
  · have hb := h.balance
    simp only [putSlots, Slots.close, Slots.heldBy, held] at hb ⊢
    omega
  · intro c hc
    cases hc

/-- A task that asks for more slots than are free takes those and waits in the last place. -/
theorem enqueue {id : TaskId} {old new : Task} {count : Nat} (h : s.Accounts n k)
    (hid : s.task? id = some old) (hn : old.claim? n = none) (ho : old.slots n = 0)
    (hc : s.pool.slots.isClosed = false) (hf : s.pool.slots.free < count)
    (hnew : new.claim? n = some count) (hs : new.slots n = 0) :
    ((s.putSlots (s.pool.slots.enqueue id count)).setTask id new).Accounts n k := by
  have hne := h.ne_of_claim?_eq_none hid hn
  have hcount : s.pool.slots.free + (count - s.pool.slots.free) = count := by omega
  have hclaims :
      Slots.claims (s.pool.slots.waiting ++ [⟨id, s.pool.slots.free, count - s.pool.slots.free⟩]) =
      Slots.claims s.pool.slots.waiting ++ [(id, count)] := by simp [Slots.claims, hcount]
  refine ⟨?_, ?_, ?_, ?_⟩
  · have hb := h.balance
    have hset := sum_map_set hid new (Task.slots n)
    have hheld := Slots.heldBy_append s.pool.slots.waiting
      [⟨id, s.pool.slots.free, count - s.pool.slots.free⟩]
    simp only [held, System.setTask, putSlots, Slots.enqueue, Slots.heldBy] at hb hset hheld ⊢
    omega
  · change ((Slots.claims (s.pool.slots.waiting ++ [_])).map (·.1)).Nodup
    rw [hclaims, List.map_append, List.nodup_append]
    refine ⟨h.distinct, List.nodup_cons.2 ⟨List.not_mem_nil, List.nodup_nil⟩, ?_⟩
    intro a ha b hb
    obtain ⟨c, hcl, rfl⟩ := List.mem_map.1 ha
    obtain rfl := List.mem_singleton.1 hb
    exact hne c hcl
  · change ∀ c ∈ Slots.claims (s.pool.slots.waiting ++ [_]), _
    rw [hclaims]
    intro c hcl
    rcases List.mem_append.1 hcl with hcl | hcl
    · rw [claim?, task?_setTask, if_neg (hne c hcl)]
      exact h.claimed c hcl
    · obtain rfl := List.mem_singleton.1 hcl
      have hid' : (s.putSlots (s.pool.slots.enqueue id count)).task? id = some old := hid
      rw [claim?, task?_setTask, if_pos rfl, hid']
      exact hnew
  · intro hclosed
    have hopen : s.pool.slots.isClosed = true := hclosed
    rw [hc] at hopen
    cases hopen

/-- A task that waits leaves its place, and the slots that were kept for it come back. -/
theorem leave (h : s.Accounts n k) (id : TaskId) :
    (s.withSlots (s.pool.slots.leave id)).Accounts n k ∧
      (∀ c ∈ Slots.claims (s.withSlots (s.pool.slots.leave id)).pool.slots.waiting, c.1 ≠ id) ∧
      (s.withSlots (s.pool.slots.leave id)).task? id = s.task? id := by
  let kept := ((s.pool.slots.waiting.find? (·.task = id)).map (·.held)).getD 0
  let u := s.putSlots { s.pool.slots with waiting := s.pool.slots.waiting.filter (·.task ≠ id) }
  have hleave : s.withSlots (s.pool.slots.leave id) = u.giveBack kept := rfl
  have hsub : (Slots.claims u.pool.slots.waiting).Sublist (Slots.claims s.pool.slots.waiting) :=
    List.filter_sublist.map _
  have hkept : Slots.heldBy u.pool.slots.waiting + kept = Slots.heldBy s.pool.slots.waiting :=
    Slots.heldBy_filter h.distinct id
  have hb := h.balance
  have hu : u.Accounts n (k - kept) := by
    refine ⟨?_, h.distinct.sublist (hsub.map _), fun c hc => h.claimed c (hsub.subset hc), ?_⟩
    · have hfree : u.pool.slots.free = s.pool.slots.free := rfl
      have hheld : u.held n = s.held n := rfl
      rw [hfree, hheld]
      omega
    · intro hclosed
      change s.pool.slots.waiting.filter _ = []
      rw [h.closed hclosed]
      rfl
  have hne : ∀ c ∈ Slots.claims u.pool.slots.waiting, c.1 ≠ id := by
    intro c hc
    obtain ⟨w, hw, rfl⟩ := List.mem_map.1 hc
    simpa using (List.mem_filter.1 hw).2
  have hk : k - kept + kept = k := by omega
  rw [hleave]
  refine ⟨?_, ?_, ?_⟩
  · have hg := hu.giveBack kept
    rw [hk] at hg
    exact hg
  · intro c hc
    exact hne c (claims_giveBack_subset u kept hc)
  · exact task?_giveBack_of_ne kept hne

theorem setStage {id : TaskId} {old new : Task} (h : s.Accounts n k) (hid : s.task? id = some old)
    (hn : old.claim? n = none) (hs : t.pool.slots = s.pool.slots)
    (ht : t.tasks = s.tasks.set id new) (hk : new.slots n = old.slots n) : t.Accounts n k :=
  (h.setTask hid (h.ne_of_claim?_eq_none hid hn) (by rw [hk])).congr hs ht

theorem release {id : TaskId} {old new : Task} {count : Nat} (h : s.Accounts n k)
    (hid : s.task? id = some old) (hn : old.claim? n = none)
    (hs : t.pool.slots = (s.giveBack count).pool.slots)
    (ht : t.tasks = (s.giveBack count).tasks.set id new) (hk : old.slots n = count + new.slots n) :
    t.Accounts n k := by
  have hne := h.ne_of_claim?_eq_none hid hn
  have hsame := (task?_giveBack_of_ne count hne).trans hid
  refine ((h.giveBack count).setTask hsame ?_ (by omega)).congr hs ht
  intro c hc
  exact hne c (claims_giveBack_subset s count hc)

theorem acquire {id : TaskId} {old new : Task} {count : Nat} (h : s.Accounts n k)
    (hid : s.task? id = some old) (hn : old.claim? n = none) (hf : count ≤ s.pool.slots.free)
    (hk : new.slots n = count + old.slots n) :
    ((s.putSlots (s.pool.slots.take count)).setTask id new).Accounts n k := by
  have hb := h.balance
  exact (h.take hf).setTask hid (h.ne_of_claim?_eq_none hid hn) (by omega)

theorem giveUp {id : TaskId} {old new : Task} (h : s.Accounts n k) (hid : s.task? id = some old)
    (hs : t.pool.slots = (s.pool.slots.leave id).1)
    (ht : t.tasks = (s.withSlots (s.pool.slots.leave id)).tasks.set id new)
    (hk : new.slots n = old.slots n) :
    t.Accounts n k := by
  obtain ⟨hl, hne, hsame⟩ := h.leave id
  exact (hl.setTask (hsame.trans hid) hne (by omega)).congr hs ht

theorem turnAway {id : TaskId} {old new : Task} (h : s.Accounts n k) (hid : s.task? id = some old)
    (hc : s.pool.slots.isClosed = true) (hs : t.pool.slots = s.pool.slots)
    (ht : t.tasks = s.tasks.set id new) (hk : new.slots n = old.slots n) : t.Accounts n k := by
  refine (h.setTask hid ?_ (by rw [hk])).congr hs ht
  rw [h.closed hc]
  intro c hcl
  cases hcl

end Accounts

theorem slots_finish (p : Pool) (id : TaskId) (isSuccess : Bool) :
    (p.finish id isSuccess).slots = p.slots := by
  unfold Pool.finish
  split <;> rfl

theorem capacity_finish (p : Pool) (id : TaskId) (isSuccess : Bool) :
    (p.finish id isSuccess).capacity = p.capacity := by
  unfold Pool.finish
  split <;> rfl

theorem capacity_of_move {s t : System} {e : Event} (h : s.Move e t) :
    t.pool.capacity = s.pool.capacity := by
  cases h with
  | finish => exact capacity_finish _ _ _
  | _ => rfl

theorem Accounts.of_move {s t : System} {e : Event} {k : Nat} (hm : s.Move e t)
    (h : s.Accounts s.pool.shutdownCount k) : t.Accounts s.pool.shutdownCount k := by
  cases hm with
  | submit | shutDown => exact h.addTask rfl
  | accept hid | reject hid | notice hid | dropArrived hid | noticeAll hid | dropShutdown hid
  | enter hid | run hid | stopAccepting hid | clear hid => exact h.setStage hid rfl rfl rfl rfl
  | finish hid answer => exact h.setStage hid rfl (slots_finish _ _ _) rfl rfl
  | take hid hc hf => exact h.acquire hid rfl hf rfl
  | takeAll hid hc hf => exact h.acquire hid rfl hf rfl
  | wait hid hc hf => exact h.enqueue hid rfl rfl hc hf rfl rfl
  | waitAll hid hc hf => exact h.enqueue hid rfl rfl hc hf rfl rfl
  | answer hid | abandon hid | dropShutdownGranted hid | refuseGranted hid | dropGranted hid
  | repeatGranted hid => exact h.release hid rfl rfl rfl rfl
  | dropShutdownWaiting hid | dropWaiting hid => exact h.giveUp hid rfl rfl rfl
  | refuse hid hs hc | repeatClosed hid hs hc =>
    -- A task may find the slots closed while it waits, but nobody is in the queue any more.
    refine h.turnAway hid hc rfl rfl ?_
    rcases hs with rfl | rfl <;> rfl
  | @close id hid =>
    -- Closing comes first, so that the slots of the shutdown go to nobody.
    have hclosed : (s.putSlots s.pool.slots.close).task? id = some (.shutdown .cleared) := hid
    exact h.close.release hclosed rfl rfl rfl rfl

end System

end Shorthand
