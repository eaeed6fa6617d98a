import Shorthand.Pool.System
/-!
The steps of a pool with its tasks, one rule for each thing that can happen. The step function
follows exactly these rules, so that what is said of all steps is said by cases on them.
-/
set_option autoImplicit false

namespace Shorthand

namespace Slots

def take (s : Slots) (count : Nat) : Slots := { s with free := s.free - count }

def enqueue (s : Slots) (task : TaskId) (count : Nat) : Slots :=
  { s with free := 0, waiting := s.waiting ++ [⟨task, s.free, count - s.free⟩] }

theorem ask_of_isClosed {s : Slots} (hc : s.isClosed = true) (task : TaskId) (count : Nat) :
    s.ask task count = (.refused, s) := by
  rw [ask, if_pos hc]

theorem ask_of_le {s : Slots} (hc : s.isClosed = false) (task : TaskId) {count : Nat}
    (hf : count ≤ s.free) :
    s.ask task count = (.granted, s.take count) := by
  rw [ask, if_neg (by simp [hc]), if_pos hf]; rfl

theorem ask_of_lt {s : Slots} (hc : s.isClosed = false) (task : TaskId) {count : Nat}
    (hf : s.free < count) :
    s.ask task count = (.queued, s.enqueue task count) := by
  rw [ask, if_neg (by simp [hc]), if_neg (by omega)]; rfl

end Slots

namespace System

def putSlots (s : System) (slots : Slots) : System := { s with pool := { s.pool with slots } }

inductive Move (s : System) : Event → System → Prop where
  | submit (request : Request) :
    Move s (.submit request) { s with tasks := s.tasks ++ [.submission request .arrived] }
  | shutDown : Move s .shutDown { s with tasks := s.tasks ++ [.shutdown .arrived] }
  | accept {id : TaskId} {request : Request} (h : s.task? id = some (.submission request .arrived))
    (ha : s.pool.isAccepting = true) : Move s (.advance id) (s.setStage id request .admitted)
  | reject {id : TaskId} {request : Request} (h : s.task? id = some (.submission request .arrived))
    (ha : s.pool.isAccepting = false) :
    Move s (.advance id)
      (s.setStage id request (.answered (.error (.poolShutDown request.display))))
  | enter {id : TaskId} {request : Request}
      (h : s.task? id = some (.submission request .admitted)) :
    Move s (.advance id) ({ s with pool := s.pool.enter id request }.setStage id request .entered)
  | take {id : TaskId} {request : Request} (h : s.task? id = some (.submission request .entered))
    (hc : s.pool.slots.isClosed = false) (hf : 1 ≤ s.pool.slots.free) :
    Move s (.advance id) ((s.putSlots (s.pool.slots.take 1)).setStage id request .holding)
  | wait {id : TaskId} {request : Request} (h : s.task? id = some (.submission request .entered))
    (hc : s.pool.slots.isClosed = false) (hf : s.pool.slots.free < 1) :
    Move s (.advance id) ((s.putSlots (s.pool.slots.enqueue id 1)).setStage id request .waiting)
  | refuse {id : TaskId} {request : Request} {stage : Stage}
      (h : s.task? id = some (.submission request stage)) (hs : stage = .entered ∨ stage = .waiting)
      (hc : s.pool.slots.isClosed = true) :
    Move s (.advance id) (s.turnAway id request)
  | refuseGranted {id : TaskId} {request : Request}
      (h : s.task? id = some (.submission request .granted)) (hc : s.pool.slots.isClosed = true) :
      Move s (.advance id) ((s.giveBack 1).turnAway id request)
  | notice {id : TaskId} {request : Request} (h : s.task? id = some (.submission request .granted))
    (hc : s.pool.slots.isClosed = false) : Move s (.advance id) (s.setStage id request .holding)
  | run {id : TaskId} {request : Request} (h : s.task? id = some (.submission request .holding)) :
    Move s (.advance id) ({ s with pool := s.pool.markRunning id }.setStage id request .running)
  | answer {id : TaskId} {request : Request} {answer : Answer}
    (h : s.task? id = some (.submission request (.finished answer))) :
    Move s (.advance id) ((s.giveBack 1).setStage id request (.answered answer))
  | finish {id : TaskId} {request : Request} (h : s.task? id = some (.submission request .running))
    (answer : Answer) :
    Move s (.finish id answer)
      ({ s with pool := s.pool.finish id answer.isSuccess }.setStage id request (.finished answer))
  | dropArrived {id : TaskId} {request : Request}
      (h : s.task? id = some (.submission request .arrived)) :
    Move s (.drop id) (s.setStage id request .dropped)
  | dropWaiting {id : TaskId} {request : Request}
      (h : s.task? id = some (.submission request .waiting)) :
    Move s (.drop id)
      ({ s.withSlots (s.pool.slots.leave id) with
          pool := (s.withSlots (s.pool.slots.leave id)).pool.forget id
        }.setStage id request .dropped)
  | dropGranted {id : TaskId} {request : Request}
      (h : s.task? id = some (.submission request .granted)) :
    Move s (.drop id)
      ({ s.giveBack 1 with pool := (s.giveBack 1).pool.forget id }.setStage id request .dropped)
  | abandon {id : TaskId} {request : Request}
      (h : s.task? id = some (.submission request .running)) :
    Move s (.drop id) ((s.giveBack 1).setStage id request .dropped)
  | stopAccepting {id : TaskId} (h : s.task? id = some (.shutdown .arrived)) :
    Move s (.advance id) ({ s with
      pool := { s.pool with isAccepting := false } }.setClosing id .refusing)
  | takeAll {id : TaskId} (h : s.task? id = some (.shutdown .refusing))
      (hc : s.pool.slots.isClosed = false) (hf : s.pool.shutdownCount ≤ s.pool.slots.free) :
    Move s (.advance id)
      ((s.putSlots (s.pool.slots.take s.pool.shutdownCount)).setClosing id .holding)
  | waitAll {id : TaskId} (h : s.task? id = some (.shutdown .refusing))
      (hc : s.pool.slots.isClosed = false) (hf : s.pool.slots.free < s.pool.shutdownCount) :
    Move s (.advance id)
      ((s.putSlots (s.pool.slots.enqueue id s.pool.shutdownCount)).setClosing id .waiting)
  | repeatClosed {id : TaskId} {stage : Closing} (h : s.task? id = some (.shutdown stage))
    (hs : stage = .refusing ∨ stage = .waiting) (hc : s.pool.slots.isClosed = true) :
    Move s (.advance id) ({ s with pool := s.pool.reset }.setClosing id .returned)
  | repeatGranted {id : TaskId} (h : s.task? id = some (.shutdown .granted))
    (hc : s.pool.slots.isClosed = true) :
    Move s (.advance id)
      ({ s.giveBack s.pool.shutdownCount with
          pool := (s.giveBack s.pool.shutdownCount).pool.reset }.setClosing id .returned)
  | noticeAll {id : TaskId} (h : s.task? id = some (.shutdown .granted))
    (hc : s.pool.slots.isClosed = false) : Move s (.advance id) (s.setClosing id .holding)
  | clear {id : TaskId} (h : s.task? id = some (.shutdown .holding)) :
    Move s (.advance id) ({ s with pool := s.pool.reset }.setClosing id .cleared)
  | close {id : TaskId} (h : s.task? id = some (.shutdown .cleared)) :
    Move s (.advance id)
      (((s.putSlots s.pool.slots.close).giveBack s.pool.shutdownCount).setClosing id .returned)
  | dropShutdown {id : TaskId} (h : s.task? id = some (.shutdown .arrived)) :
    Move s (.drop id) (s.setClosing id .dropped)
  | dropShutdownWaiting {id : TaskId} (h : s.task? id = some (.shutdown .waiting)) :
    Move s (.drop id) ((s.withSlots (s.pool.slots.leave id)).setClosing id .dropped)
  | dropShutdownGranted {id : TaskId} (h : s.task? id = some (.shutdown .granted)) :
    Move s (.drop id) ((s.giveBack s.pool.shutdownCount).setClosing id .dropped)

theorem move_of_advanceSubmission {s t : System} {id : TaskId} {request : Request} {stage : Stage}
    (hid : s.task? id = some (.submission request stage))
    (h : s.advanceSubmission id request stage = some t) :
    s.Move (.advance id) t := by
  cases stage with
  | arrived =>
    cases ha : s.pool.isAccepting <;>
      simp only [advanceSubmission, ha, if_true, if_false, Bool.false_eq_true] at h <;>
      obtain rfl := Option.some.inj h
    · exact .reject hid ha
    · exact .accept hid ha
  | admitted => obtain rfl := Option.some.inj h; exact .enter hid
  | entered =>
    cases hc : s.pool.slots.isClosed with
    | true =>
      simp only [advanceSubmission, Slots.ask_of_isClosed hc] at h
      obtain rfl := Option.some.inj h
      exact .refuse hid (.inl rfl) hc
    | false =>
      rcases Nat.lt_or_ge s.pool.slots.free 1 with hf | hf
      · simp only [advanceSubmission, Slots.ask_of_lt hc id hf] at h
        obtain rfl := Option.some.inj h
        exact .wait hid hc hf
      · simp only [advanceSubmission, Slots.ask_of_le hc id hf] at h
        obtain rfl := Option.some.inj h
        exact .take hid hc hf
  | waiting =>
    cases hc : s.pool.slots.isClosed <;>
      simp only [advanceSubmission, hc, if_true, if_false, Bool.false_eq_true] at h
    · cases h
    · obtain rfl := Option.some.inj h; exact .refuse hid (.inr rfl) hc
  | granted =>
    cases hc : s.pool.slots.isClosed <;>
      simp only [advanceSubmission, hc, if_true, if_false, Bool.false_eq_true] at h <;>
      obtain rfl := Option.some.inj h
    · exact .notice hid hc
    · exact .refuseGranted hid hc
  | holding => obtain rfl := Option.some.inj h; exact .run hid
  | finished answer => obtain rfl := Option.some.inj h; exact .answer hid
  | running | answered | dropped => cases h

theorem move_of_advanceShutdown {s t : System} {id : TaskId} {stage : Closing}
    (hid : s.task? id = some (.shutdown stage)) (h : s.advanceShutdown id stage = some t) :
    s.Move (.advance id) t := by
  cases stage with
  | arrived => obtain rfl := Option.some.inj h; exact .stopAccepting hid
  | refusing =>
    cases hc : s.pool.slots.isClosed with
    | true =>
      simp only [advanceShutdown, Slots.ask_of_isClosed hc] at h
      obtain rfl := Option.some.inj h
      exact .repeatClosed hid (.inl rfl) hc
    | false =>
      rcases Nat.lt_or_ge s.pool.slots.free s.pool.shutdownCount with hf | hf
      · simp only [advanceShutdown, Slots.ask_of_lt hc id hf] at h
        obtain rfl := Option.some.inj h
        exact .waitAll hid hc hf
      · simp only [advanceShutdown, Slots.ask_of_le hc id hf] at h
        obtain rfl := Option.some.inj h
        exact .takeAll hid hc hf
  | waiting =>
    cases hc : s.pool.slots.isClosed <;>
      simp only [advanceShutdown, hc, if_true, if_false, Bool.false_eq_true] at h
    · cases h
    · obtain rfl := Option.some.inj h; exact .repeatClosed hid (.inr rfl) hc
  | granted =>
    cases hc : s.pool.slots.isClosed <;>
      simp only [advanceShutdown, hc, if_true, if_false, Bool.false_eq_true] at h <;>
      obtain rfl := Option.some.inj h
    · exact .noticeAll hid hc
    · exact .repeatGranted hid hc
  | holding => obtain rfl := Option.some.inj h; exact .clear hid
  | cleared => obtain rfl := Option.some.inj h; exact .close hid
  | returned | dropped => cases h

theorem move_of_dropSubmission {s t : System} {id : TaskId} {request : Request} {stage : Stage}
    (hid : s.task? id = some (.submission request stage))
    (h : s.dropSubmission id request stage = some t) :
    s.Move (.drop id) t := by
  cases stage with
  | arrived => obtain rfl := Option.some.inj h; exact .dropArrived hid
  | waiting => obtain rfl := Option.some.inj h; exact .dropWaiting hid
  | granted => obtain rfl := Option.some.inj h; exact .dropGranted hid
  | running => obtain rfl := Option.some.inj h; exact .abandon hid
  | admitted | entered | holding | finished | answered | dropped => cases h

theorem move_of_dropShutdown {s t : System} {id : TaskId} {stage : Closing}
    (hid : s.task? id = some (.shutdown stage)) (h : s.dropShutdown id stage = some t) :
    s.Move (.drop id) t := by
  cases stage with
  | arrived => obtain rfl := Option.some.inj h; exact .dropShutdown hid
  | waiting => obtain rfl := Option.some.inj h; exact .dropShutdownWaiting hid
  | granted => obtain rfl := Option.some.inj h; exact .dropShutdownGranted hid
  | refusing | holding | cleared | returned | dropped => cases h

theorem move_of_step? {s t : System} {e : Event} (h : s.step? e = some t) : s.Move e t := by
  cases e with
  | submit request => obtain rfl := Option.some.inj h; exact .submit request
  | shutDown => obtain rfl := Option.some.inj h; exact .shutDown
  | advance id =>
    simp only [step?] at h
    split at h
    · exact move_of_advanceSubmission ‹_› h
    · exact move_of_advanceShutdown ‹_› h
    · cases h
  | finish id answer =>
    simp only [step?, finishTask] at h
    split at h
    · obtain rfl := Option.some.inj h; exact .finish ‹_› answer
    · cases h
  | drop id =>
    simp only [step?] at h
    split at h
    · exact move_of_dropSubmission ‹_› h
    · exact move_of_dropShutdown ‹_› h
    · cases h

theorem step?_of_move {s t : System} {e : Event} (h : s.Move e t) : s.step? e = some t := by
  cases h with
  | submit | shutDown => rfl
  | accept h ha | reject h ha => simp [step?, h, advanceSubmission, ha]
  | enter h | run h | answer h => simp [step?, h, advanceSubmission]
  | take h hc hf => simp [step?, h, advanceSubmission, Slots.ask_of_le hc _ hf, putSlots]
  | wait h hc hf => simp [step?, h, advanceSubmission, Slots.ask_of_lt hc _ hf, putSlots]
  | refuse h hs hc =>
    rcases hs with rfl | rfl
    · simp [step?, h, advanceSubmission, Slots.ask_of_isClosed hc]
    · simp [step?, h, advanceSubmission, hc]
  | refuseGranted h hc | notice h hc => simp [step?, h, advanceSubmission, hc]
  | finish h answer => simp [step?, finishTask, h]
  | dropArrived h | dropWaiting h | dropGranted h | abandon h => simp [step?, h, dropSubmission]
  | stopAccepting h | clear h | close h => simp [step?, h, advanceShutdown, putSlots]
  | takeAll h hc hf => simp [step?, h, advanceShutdown, Slots.ask_of_le hc _ hf, putSlots]
  | waitAll h hc hf => simp [step?, h, advanceShutdown, Slots.ask_of_lt hc _ hf, putSlots]
  | repeatClosed h hs hc =>
    rcases hs with rfl | rfl
    · simp [step?, h, advanceShutdown, Slots.ask_of_isClosed hc]
    · simp [step?, h, advanceShutdown, hc]
  | repeatGranted h hc | noticeAll h hc => simp [step?, h, advanceShutdown, hc]
  | dropShutdown h | dropShutdownWaiting h | dropShutdownGranted h =>
    simp [step?, h, System.dropShutdown]

@[simp] theorem run?_cons (s : System) (e : Event) (events : List Event) :
    s.run? (e :: events) = (s.step? e).bind (·.run? events) := rfl

@[simp] theorem run?_append (s : System) (a b : List Event) :
    s.run? (a ++ b) = (s.run? a).bind (·.run? b) := by
  simp only [run?, List.foldlM_append]
  rfl

theorem run?_of_step? {s t u : System} {e : Event} {events : List Event} (hs : s.step? e = some t)
    (ht : t.run? events = some u) : s.run? (e :: events) = some u := by
  rw [run?_cons, hs]
  exact ht

theorem run?_of_run? {s t u : System} {a b : List Event} (hs : s.run? a = some t)
    (ht : t.run? b = some u) :
    s.run? (a ++ b) = some u := by
  rw [run?_append, hs]
  exact ht

theorem exists_of_run?_cons {s u : System} {e : Event} {events : List Event}
    (h : s.run? (e :: events) = some u) : ∃ t, s.step? e = some t ∧ t.run? events = some u :=
  Option.bind_eq_some_iff.1 h

end System

end Shorthand
