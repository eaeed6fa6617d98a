import Shorthand.Proofs.Pool.Accounts
/-!
Steps seen from the tasks and from the slots. A step other than a call is the turn of one task: it
goes on to a next stage, and it takes slots, waits for them or gives them back; others notice it
only by the slots that they are handed.
-/
set_option autoImplicit false

namespace Shorthand

def Event.task? : Event → Option TaskId
  | advance id | finish id _ | drop id => some id
  | _ => none

inductive Task.Turn (p : Pool) (id : TaskId) : Event → Task → Task → Prop where
  | accept (request : Request) (ha : p.isAccepting = true) :
    Turn p id (.advance id) (.submission request .arrived) (.submission request .admitted)
  | reject (request : Request) (ha : p.isAccepting = false) :
    Turn p id (.advance id) (.submission request .arrived)
      (.submission request (.answered (.error (.poolShutDown request.display))))
  | enter (request : Request) :
    Turn p id (.advance id) (.submission request .admitted) (.submission request .entered)
  | wait (request : Request) (hc : p.slots.isClosed = false) :
    Turn p id (.advance id) (.submission request .entered) (.submission request .waiting)
  | hold (request : Request) {stage : Stage} (h : stage = .entered ∨ stage = .granted)
    (hc : p.slots.isClosed = false) :
    Turn p id (.advance id) (.submission request stage) (.submission request .holding)
  | refuse (request : Request) {stage : Stage}
      (h : stage = .entered ∨ stage = .waiting ∨ stage = .granted) (hc : p.slots.isClosed = true) :
    Turn p id (.advance id) (.submission request stage)
      (.submission request (.answered (.error (.poolShutDown request.display))))
  | run (request : Request) :
    Turn p id (.advance id) (.submission request .holding) (.submission request .running)
  | finish (request : Request) (answer : Answer) :
    Turn p id (.finish id answer) (.submission request .running)
      (.submission request (.finished answer))
  | answer (request : Request) (answer : Answer) :
    Turn p id (.advance id) (.submission request (.finished answer))
      (.submission request (.answered answer))
  | drop (request : Request) {stage : Stage}
    (h : stage = .arrived ∨ stage = .waiting ∨ stage = .granted ∨ stage = .running) :
    Turn p id (.drop id) (.submission request stage) (.submission request .dropped)
  | stopAccepting : Turn p id (.advance id) (.shutdown .arrived) (.shutdown .refusing)
  | waitAll (hc : p.slots.isClosed = false) :
      Turn p id (.advance id) (.shutdown .refusing) (.shutdown .waiting)
  | holdAll {stage : Closing} (h : stage = .refusing ∨ stage = .granted)
      (hc : p.slots.isClosed = false) :
    Turn p id (.advance id) (.shutdown stage) (.shutdown .holding)
  | clear : Turn p id (.advance id) (.shutdown .holding) (.shutdown .cleared)
  | close : Turn p id (.advance id) (.shutdown .cleared) (.shutdown .returned)
  | repeated {stage : Closing} (h : stage = .refusing ∨ stage = .waiting ∨ stage = .granted)
    (hc : p.slots.isClosed = true) : Turn p id (.advance id) (.shutdown stage) (.shutdown .returned)
  | dropShutdown {stage : Closing} (h : stage = .arrived ∨ stage = .waiting ∨ stage = .granted) :
    Turn p id (.drop id) (.shutdown stage) (.shutdown .dropped)

theorem Task.Turn.task?_eq {p : Pool} {id : TaskId} {e : Event} {a b : Task} (h : Turn p id e a b) :
    e.task? = some id := by
  cases h <;> rfl

theorem Task.Turn.isOver_eq_false {p : Pool} {id : TaskId} {e : Event} {a b : Task}
    (h : Turn p id e a b) :
    a.isOver = false := by
  cases h with
  | hold request h | holdAll h => rcases h with rfl | rfl <;> rfl
  | drop request h => rcases h with rfl | rfl | rfl | rfl <;> rfl
  | refuse request h | repeated h | dropShutdown h => rcases h with rfl | rfl | rfl <;> rfl
  | _ => rfl

theorem Task.grant_of_isOver {t : Task} (h : t.isOver = true) : t.grant = t := by
  unfold isOver at h
  split at h <;> first | rfl | cases h

namespace System

/-- What the turn of a task does to the slots, if a shutdown asks for `n` of them. -/
inductive Deal (n : Nat) (s : System) (id : TaskId) (old new : Task) (t : System) : Prop where
  | keep (hs : t.pool.slots = s.pool.slots) (ht : t.tasks = s.tasks.set id new)
    (ho : old.claim? n = none ∨ s.pool.slots.isClosed = true) (hn : new.claim? n = none)
    (hk : new.slots n = old.slots n)
  | take {count : Nat} (hs : t.pool.slots = s.pool.slots.take count)
      (ht : t.tasks = s.tasks.set id new) (hc : s.pool.slots.isClosed = false)
      (hf : count ≤ s.pool.slots.free)
    (ho : old.claim? n = none) (hn : new.claim? n = none) (hk : new.slots n = count)
    (h0 : old.slots n = 0)
  | enqueue {count : Nat} (hs : t.pool.slots = s.pool.slots.enqueue id count)
      (ht : t.tasks = s.tasks.set id new) (hc : s.pool.slots.isClosed = false)
      (hf : s.pool.slots.free < count)
    (ho : old.claim? n = none) (hn : new.claim? n = some count) (hk : new.slots n = 0)
    (h0 : old.slots n = 0)
  | giveBack {count : Nat} (hs : t.pool.slots = (s.giveBack count).pool.slots)
    (ht : t.tasks = (s.giveBack count).tasks.set id new)
    (ho : old.claim? n = none) (hn : new.claim? n = none) (hk : new.slots n = 0)
    (h0 : old.slots n = count)
  | leave (hs : t.pool.slots = (s.withSlots (s.pool.slots.leave id)).pool.slots)
    (ht : t.tasks = (s.withSlots (s.pool.slots.leave id)).tasks.set id new)
    (hn : new.claim? n = none) (hk : new.slots n = 0) (h0 : old.slots n = 0)
  | close (hs : t.pool.slots = ((s.putSlots s.pool.slots.close).giveBack n).pool.slots)
    (ht : t.tasks = ((s.putSlots s.pool.slots.close).giveBack n).tasks.set id new)
    (hold : old = .shutdown .cleared) (hnew : new = .shutdown .returned)

theorem Move.cases_turn {s t : System} {e : Event} (hm : s.Move e t) :
    (∃ new : Task, t = { s with tasks := s.tasks ++ [new] } ∧
      ((∃ request, e = .submit request ∧ new = .submission request .arrived) ∨
        e = .shutDown ∧ new = .shutdown .arrived)) ∨
    ∃ id old new, s.task? id = some old ∧ Task.Turn s.pool id e old new ∧
      Deal s.pool.shutdownCount s id old new t := by
  cases hm with
  | submit request => exact .inl ⟨_, rfl, .inl ⟨request, rfl, rfl⟩⟩
  | shutDown => exact .inl ⟨_, rfl, .inr ⟨rfl, rfl⟩⟩
  | accept h ha => exact .inr ⟨_, _, _, h, .accept _ ha, .keep rfl rfl (.inl rfl) rfl rfl⟩
  | reject h ha => exact .inr ⟨_, _, _, h, .reject _ ha, .keep rfl rfl (.inl rfl) rfl rfl⟩
  | enter h => exact .inr ⟨_, _, _, h, .enter _, .keep rfl rfl (.inl rfl) rfl rfl⟩
  | take h hc hf =>
    exact .inr ⟨_, _, _, h, .hold _ (.inl rfl) hc, .take rfl rfl hc hf rfl rfl rfl rfl⟩
  | wait h hc hf => exact .inr ⟨_, _, _, h, .wait _ hc, .enqueue rfl rfl hc hf rfl rfl rfl rfl⟩
  | refuse h hs hc =>
    rcases hs with rfl | rfl
    · exact .inr ⟨_, _, _, h, .refuse _ (.inl rfl) hc, .keep rfl rfl (.inl rfl) rfl rfl⟩
    · exact .inr ⟨_, _, _, h, .refuse _ (.inr (.inl rfl)) hc, .keep rfl rfl (.inr hc) rfl rfl⟩
  | refuseGranted h hc =>
    exact .inr ⟨_, _, _, h, .refuse _ (.inr (.inr rfl)) hc, .giveBack rfl rfl rfl rfl rfl rfl⟩
  | notice h hc => exact .inr ⟨_, _, _, h, .hold _ (.inr rfl) hc, .keep rfl rfl (.inl rfl) rfl rfl⟩
  | run h => exact .inr ⟨_, _, _, h, .run _, .keep rfl rfl (.inl rfl) rfl rfl⟩
  | answer h => exact .inr ⟨_, _, _, h, .answer _ _, .giveBack rfl rfl rfl rfl rfl rfl⟩
  | finish h answer =>
    exact .inr ⟨_, _, _, h, .finish _ _, .keep (slots_finish _ _ _) rfl (.inl rfl) rfl rfl⟩
  | dropArrived h => exact .inr ⟨_, _, _, h, .drop _ (.inl rfl), .keep rfl rfl (.inl rfl) rfl rfl⟩
  | dropWaiting h => exact .inr ⟨_, _, _, h, .drop _ (.inr (.inl rfl)), .leave rfl rfl rfl rfl rfl⟩
  | dropGranted h =>
    exact .inr ⟨_, _, _, h, .drop _ (.inr (.inr (.inl rfl))), .giveBack rfl rfl rfl rfl rfl rfl⟩
  | abandon h =>
    exact .inr ⟨_, _, _, h, .drop _ (.inr (.inr (.inr rfl))), .giveBack rfl rfl rfl rfl rfl rfl⟩
  | stopAccepting h => exact .inr ⟨_, _, _, h, .stopAccepting, .keep rfl rfl (.inl rfl) rfl rfl⟩
  | takeAll h hc hf =>
    exact .inr ⟨_, _, _, h, .holdAll (.inl rfl) hc, .take rfl rfl hc hf rfl rfl rfl rfl⟩
  | waitAll h hc hf => exact .inr ⟨_, _, _, h, .waitAll hc, .enqueue rfl rfl hc hf rfl rfl rfl rfl⟩
  | repeatClosed h hs hc =>
    rcases hs with rfl | rfl
    · exact .inr ⟨_, _, _, h, .repeated (.inl rfl) hc, .keep rfl rfl (.inl rfl) rfl rfl⟩
    · exact .inr ⟨_, _, _, h, .repeated (.inr (.inl rfl)) hc, .keep rfl rfl (.inr hc) rfl rfl⟩
  | repeatGranted h hc =>
    exact .inr ⟨_, _, _, h, .repeated (.inr (.inr rfl)) hc, .giveBack rfl rfl rfl rfl rfl rfl⟩
  | noticeAll h hc =>
    exact .inr ⟨_, _, _, h, .holdAll (.inr rfl) hc, .keep rfl rfl (.inl rfl) rfl rfl⟩
  | clear h => exact .inr ⟨_, _, _, h, .clear, .keep rfl rfl (.inl rfl) rfl rfl⟩
  | close h => exact .inr ⟨_, _, _, h, .close, .close rfl rfl rfl rfl⟩
  | dropShutdown h =>
    exact .inr ⟨_, _, _, h, .dropShutdown (.inl rfl), .keep rfl rfl (.inl rfl) rfl rfl⟩
  | dropShutdownWaiting h =>
    exact .inr ⟨_, _, _, h, .dropShutdown (.inr (.inl rfl)), .leave rfl rfl rfl rfl rfl⟩
  | dropShutdownGranted h =>
    exact .inr ⟨_, _, _, h, .dropShutdown (.inr (.inr rfl)), .giveBack rfl rfl rfl rfl rfl rfl⟩

theorem Deal.exists_change {n : Nat} {s t : System} {id : TaskId} {old new : Task}
    (hd : Deal n s id old new t) :
    ∃ change, t.tasks = (s.withSlots change).tasks.set id new := by
  cases hd with
  | keep hs ht | take hs ht | enqueue hs ht => exact ⟨(s.pool.slots, []), ht⟩
  | giveBack hs ht | leave hs ht | close hs ht => exact ⟨_, ht⟩

theorem task?_of_tasks_eq {s t : System} {id : TaskId} {old new : Task}
    {change : Slots × List TaskId} (hid : s.task? id = some old)
    (ht : t.tasks = (s.withSlots change).tasks.set id new) (j : TaskId) :
    t.task? j = if j = id then some new else if j ∈ change.2 then (s.task? j).map Task.grant
      else s.task? j := by
  have htask : t.task? j = ((s.withSlots change).setTask id new).task? j := by
    rw [task?, ht]
    rfl
  rw [htask, task?_setTask, task?_withSlots, task?_withSlots, hid]
  split
  · split <;> rfl
  · rfl

theorem task?_concat {s : System} {new : Task} {j : TaskId} :
    { s with tasks := s.tasks ++ [new] }.task? j = if j = s.tasks.length then some new
      else s.task? j := by
  rw [task?, List.getElem?_append, task?]
  rcases Nat.lt_trichotomy j s.tasks.length with hlt | rfl | hgt
  · rw [if_pos hlt, if_neg (Nat.ne_of_lt hlt)]
  · simp
  · have hnew : [new].length ≤ j - s.tasks.length := by rw [List.length_singleton]; omega
    rw [if_neg (Nat.not_lt_of_gt hgt), if_neg (Nat.ne_of_gt hgt), List.getElem?_eq_none hnew,
      List.getElem?_eq_none (Nat.le_of_lt hgt)]

theorem Move.exists_task? {s t : System} {e : Event} (hm : s.Move e t) {j : TaskId} {a : Task}
    (hj : s.task? j = some a) :
    ∃ b, t.task? j = some b ∧ (b = a ∨ b = a.grant ∨ Task.Turn s.pool j e a b) := by
  rcases hm.cases_turn with ⟨new, rfl, -⟩ | ⟨id, old, new, hid, hturn, hdeal⟩
  · exact ⟨a, task?_addTask hj new, .inl rfl⟩
  · obtain ⟨change, ht⟩ := hdeal.exists_change
    rw [task?_of_tasks_eq hid ht, hj]
    by_cases heq : j = id
    · subst heq
      rw [hid] at hj
      obtain rfl := Option.some.inj hj
      exact ⟨new, if_pos rfl, .inr (.inr hturn)⟩
    · rw [if_neg heq]
      split
      · exact ⟨a.grant, rfl, .inr (.inl rfl)⟩
      · exact ⟨a, rfl, .inl rfl⟩

theorem Move.exists_stage {s t : System} {e : Event} (hm : s.Move e t) {j : TaskId}
    {request : Request} {stage : Stage} (hj : s.task? j = some (.submission request stage)) :
    ∃ stage', t.task? j = some (.submission request stage') := by
  obtain ⟨b, hb, rfl | rfl | hturn⟩ := hm.exists_task? hj
  · exact ⟨stage, hb⟩
  · cases stage <;> exact ⟨_, hb⟩
  · cases hturn <;> exact ⟨_, hb⟩

theorem Move.exists_turn {s t : System} {e : Event} (hm : s.Move e t) {j : TaskId}
    (he : e.task? = some j) :
    ∃ a b, s.task? j = some a ∧ t.task? j = some b ∧ Task.Turn s.pool j e a b := by
  rcases hm.cases_turn with ⟨new, -, ⟨request, rfl, -⟩ | ⟨rfl, -⟩⟩
    | ⟨id, old, new, hid, hturn, hdeal⟩
  · cases he
  · cases he
  · obtain rfl := Option.some.inj (hturn.task?_eq.symm.trans he)
    obtain ⟨change, ht⟩ := hdeal.exists_change
    refine ⟨old, new, hid, ?_, hturn⟩
    rw [task?_of_tasks_eq hid ht, if_pos rfl]

theorem Move.exists_task?_of_ne {s t : System} {e : Event} (hm : s.Move e t) {j : TaskId} {a : Task}
    (hj : s.task? j = some a) (he : e.task? ≠ some j) :
    ∃ b, t.task? j = some b ∧ (b = a ∨ b = a.grant) := by
  obtain ⟨b, hb, hsame | hgrant | hturn⟩ := hm.exists_task? hj
  · exact ⟨b, hb, .inl hsame⟩
  · exact ⟨b, hb, .inr hgrant⟩
  · exact absurd hturn.task?_eq he

theorem Move.task?_of_isOver {s t : System} {e : Event} (hm : s.Move e t) {j : TaskId} {a : Task}
    (hj : s.task? j = some a) (ho : a.isOver = true) : t.task? j = some a := by
  obtain ⟨b, hb, rfl | rfl | hturn⟩ := hm.exists_task? hj
  · exact hb
  · rw [hb, Task.grant_of_isOver ho]
  · exact absurd ho (by rw [hturn.isOver_eq_false]; decide)

theorem Move.exists_origin {s t : System} {e : Event} (hm : s.Move e t) {j : TaskId} {b : Task}
    (hj : t.task? j = some b) :
    (s.task? j = none ∧ ((∃ request, b = .submission request .arrived) ∨ b = .shutdown .arrived)) ∨
      ∃ a, s.task? j = some a ∧ (b = a ∨ b = a.grant ∨ Task.Turn s.pool j e a b) := by
  cases ha : s.task? j with
  | some a =>
    obtain ⟨b', hb', hcases⟩ := hm.exists_task? ha
    rw [hj] at hb'
    obtain rfl := Option.some.inj hb'
    exact .inr ⟨a, rfl, hcases⟩
  | none =>
    refine .inl ⟨rfl, ?_⟩
    rcases hm.cases_turn with ⟨new, rfl, hnew⟩ | ⟨id, old, new, hid, -, hdeal⟩
    · rw [task?_concat, ha] at hj
      split at hj
      · obtain rfl := Option.some.inj hj
        rcases hnew with ⟨request, -, rfl⟩ | ⟨-, rfl⟩
        · exact .inl ⟨request, rfl⟩
        · exact .inr rfl
      · cases hj
    · obtain ⟨change, ht⟩ := hdeal.exists_change
      have hne : j ≠ id := by
        rintro rfl
        rw [ha] at hid
        cases hid
      rw [task?_of_tasks_eq hid ht, if_neg hne, ha] at hj
      split at hj <;> cases hj

theorem Move.exists_submission {s t : System} {e : Event} (hm : s.Move e t) {j : TaskId}
    {request : Request} {stage : Stage} (hj : t.task? j = some (.submission request stage)) :
    (s.task? j = none ∧ stage = .arrived) ∨ ∃ stage',
      s.task? j = some (.submission request stage') ∧
      (stage = stage' ∨ (stage' = .waiting ∧ stage = .granted) ∨
        Task.Turn s.pool j e (.submission request stage') (.submission request stage)) := by
  rcases hm.exists_origin hj with ⟨hnone, ⟨_, hnew⟩ | hnew⟩ | ⟨a, ha, rfl | hgrant | hturn⟩
  · cases hnew
    exact .inl ⟨hnone, rfl⟩
  · cases hnew
  · exact .inr ⟨stage, ha, .inl rfl⟩
  · rcases a.grant_cases with hg | ⟨_, rfl, hg⟩ | ⟨-, hg⟩
    · rw [← hgrant.trans hg] at ha
      exact .inr ⟨stage, ha, .inl rfl⟩
    · cases hgrant.trans hg
      exact .inr ⟨.waiting, ha, .inr (.inl ⟨rfl, rfl⟩)⟩
    · cases hgrant.trans hg
  · cases a with
    | submission request' stage' =>
      obtain rfl : request' = request := by cases hturn <;> rfl
      exact .inr ⟨stage', ha, .inr (.inr hturn)⟩
    | shutdown c => cases hturn

theorem Move.exists_shutdown {s t : System} {e : Event} (hm : s.Move e t) {j : TaskId} {c : Closing}
    (hj : t.task? j = some (.shutdown c)) :
    (s.task? j = none ∧ c = .arrived) ∨ ∃ c', s.task? j = some (.shutdown c') ∧
      (c = c' ∨ (c' = .waiting ∧ c = .granted) ∨
        Task.Turn s.pool j e (.shutdown c') (.shutdown c)) := by
  rcases hm.exists_origin hj with ⟨hnone, ⟨_, hnew⟩ | hnew⟩ | ⟨a, ha, rfl | hgrant | hturn⟩
  · cases hnew
  · cases hnew
    exact .inl ⟨hnone, rfl⟩
  · exact .inr ⟨c, ha, .inl rfl⟩
  · rcases a.grant_cases with hg | ⟨_, -, hg⟩ | ⟨rfl, hg⟩
    · rw [← hgrant.trans hg] at ha
      exact .inr ⟨c, ha, .inl rfl⟩
    · cases hgrant.trans hg
    · cases hgrant.trans hg
      exact .inr ⟨.waiting, ha, .inr (.inl ⟨rfl, rfl⟩)⟩
  · cases a with
    | submission request stage => cases hturn
    | shutdown c' => exact .inr ⟨c', ha, .inr (.inr hturn)⟩

end System

namespace Task

/-- How many turns a task can still take, counting what is handed to it as one. -/
def turnsLeft : Task → Nat
  | submission _ .arrived => 8
  | submission _ .admitted => 7
  | submission _ .entered => 6
  | submission _ .waiting => 5
  | submission _ .granted => 4
  | submission _ .holding => 3
  | submission _ .running => 2
  | submission _ (.finished _) => 1
  | shutdown .arrived => 6
  | shutdown .refusing => 5
  | shutdown .waiting => 4
  | shutdown .granted => 3
  | shutdown .holding => 2
  | shutdown .cleared => 1
  | _ => 0

theorem turnsLeft_grant_le (t : Task) : t.grant.turnsLeft ≤ t.turnsLeft := by
  cases t with
  | submission request stage => cases stage <;> simp [grant, turnsLeft]
  | shutdown stage => cases stage <;> simp [grant, turnsLeft]

theorem Turn.turnsLeft_lt {p : Pool} {id : TaskId} {e : Event} {a b : Task} (h : Turn p id e a b) :
    b.turnsLeft < a.grant.turnsLeft := by
  cases h with
  | hold request h | holdAll h => rcases h with rfl | rfl <;> simp [grant, turnsLeft]
  | drop request h => rcases h with rfl | rfl | rfl | rfl <;> simp [grant, turnsLeft]
  | refuse request h | repeated h | dropShutdown h =>
    rcases h with rfl | rfl | rfl <;> simp [grant, turnsLeft]
  | _ => simp [grant, turnsLeft]

end Task

namespace System

/-- How many turns all tasks together can still take. -/
def turnsLeft (s : System) : Nat := (s.tasks.map Task.turnsLeft).sum

theorem sum_map_foldl_grant_le (served : List TaskId) (tasks : List Task) :
    ((served.foldl (fun tasks id => tasks.modify id Task.grant) tasks).map Task.turnsLeft).sum ≤
      (tasks.map Task.turnsLeft).sum := by
  induction served generalizing tasks with
  | nil => exact Nat.le_refl _
  | cons id rest ih =>
    have hrest := ih (tasks.modify id Task.grant)
    rw [List.foldl_cons]
    cases hid : tasks[id]? with
    | none =>
      have hsame : tasks.modify id Task.grant = tasks :=
        List.modify_eq_self (List.getElem?_eq_none_iff.1 hid)
      rw [hsame] at hrest ⊢
      exact hrest
    | some t =>
      have hsum := sum_map_set hid t.grant Task.turnsLeft
      have hle := t.turnsLeft_grant_le
      rw [modify_grant_eq_set hid] at hrest ⊢
      omega

theorem Move.turnsLeft_lt {s t : System} {e : Event} (hm : s.Move e t)
    (he : ∀ request, e ≠ .submit request) (he' : e ≠ .shutDown) : t.turnsLeft < s.turnsLeft := by
  rcases hm.cases_turn with ⟨new, -, ⟨request, hcall, -⟩ | ⟨hcall, -⟩⟩
    | ⟨id, old, new, hid, hturn, hdeal⟩
  · exact absurd hcall (he request)
  · exact absurd hcall he'
  · obtain ⟨change, ht⟩ := hdeal.exists_change
    have hserved := sum_map_foldl_grant_le change.2 s.tasks
    obtain ⟨held, hheld, hle⟩ : ∃ held, (s.withSlots change).tasks[id]? = some held ∧
        new.turnsLeft < held.turnsLeft := by
      have htask := task?_withSlots s change id
      rw [hid] at htask
      split at htask
      · exact ⟨old.grant, htask, hturn.turnsLeft_lt⟩
      · exact ⟨old, htask, Nat.lt_of_lt_of_le hturn.turnsLeft_lt old.turnsLeft_grant_le⟩
    have hsum := sum_map_set hheld new Task.turnsLeft
    have hle' : ((s.withSlots change).tasks.map Task.turnsLeft).sum ≤ s.turnsLeft := hserved
    rw [turnsLeft, ht]
    omega

end System

end Shorthand
