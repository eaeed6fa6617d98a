import Shorthand.Pool.Simulation
import Shorthand.Proofs.Pool.Tasks
set_option autoImplicit false

namespace Shorthand

def Task.request? : Task → Option Request
  | submission request _ => some request
  | shutdown _ => none

@[simp] theorem Task.request?_grant (t : Task) : t.grant.request? = t.request? := by
  cases t with
  | submission request stage => cases stage <;> rfl
  | shutdown stage => cases stage <;> rfl

def Event.requests : Event → List Request
  | submit request => [request]
  | _ => []

namespace System

def requests (s : System) : List Request := s.tasks.filterMap Task.request?

def SameCalls (s t : System) : Prop :=
  ∀ j, (t.task? j).map Task.request? = (s.task? j).map Task.request?

theorem SameCalls.requests_eq {s t : System} (h : SameCalls s t) : t.requests = s.requests := by
  have hmap : t.tasks.map Task.request? = s.tasks.map Task.request? :=
    List.ext_getElem? fun j => by simpa [task?] using h j
  have hf (u : System) : u.requests = (u.tasks.map Task.request?).filterMap id := by
    simp [requests, List.filterMap_map]
  rw [hf, hf, hmap]

theorem SameCalls.setTask {s t : System} {id : TaskId} {old new : Task} (h : SameCalls s t)
    (hid : s.task? id = some old) (hr : new.request? = old.request?) :
    SameCalls s (t.setTask id new) := by
  intro j
  rw [task?_setTask]
  split
  · subst_vars
    have hj := h j
    rw [hid] at hj ⊢
    cases ht : t.task? j with
    | none => simp [ht] at hj
    | some u => simp [hr]
  · exact h j

theorem SameCalls.withSlots {s t : System} (h : SameCalls s t) (change : Slots × List TaskId) :
    SameCalls s (t.withSlots change) := by
  intro j
  rw [task?_withSlots, ← h j]
  split <;> simp [Function.comp_def]

theorem SameCalls.of_tasks_eq {s t u : System} (h : SameCalls s t) (ht : u.tasks = t.tasks) :
    SameCalls s u := by
  intro j
  rw [← h j, task?, task?, ht]

theorem requests_of_move {s t : System} {e : Event} (h : s.Move e t) :
    t.requests = s.requests ++ e.requests := by
  have hs : SameCalls s s := fun _ => rfl
  have hg (n : Nat) : SameCalls s (s.giveBack n) := hs.withSlots _
  have hl (id : TaskId) : SameCalls s (s.withSlots (s.pool.slots.leave id)) := hs.withSlots _
  have hq {u : System} (hu : SameCalls s u) : u.requests = s.requests ++ [] := by
    rw [hu.requests_eq, List.append_nil]
  cases h with
  | submit | shutDown => simp [requests, Event.requests, Task.request?]
  | accept h | reject h | notice h | dropArrived h | noticeAll h | dropShutdown h =>
    exact hq (hs.setTask h rfl)
  | enter h | take h | wait h | refuse h | run h | finish h | stopAccepting h | takeAll h
  | waitAll h | repeatClosed h | clear h => exact hq ((hs.of_tasks_eq rfl).setTask h rfl)
  | refuseGranted h | answer h | dropGranted h | abandon h | repeatGranted h
  | dropShutdownGranted h =>
    exact hq (((hg _).of_tasks_eq rfl).setTask h rfl)
  | dropWaiting h | dropShutdownWaiting h => exact hq (((hl _).of_tasks_eq rfl).setTask h rfl)
  | close h =>
    have hc : SameCalls s ((s.putSlots s.pool.slots.close).giveBack s.pool.shutdownCount) :=
      SameCalls.withSlots (hs.of_tasks_eq rfl) _
    exact hq (hc.setTask h rfl)

theorem requests_of_step? {s t : System} {e : Event} (h : s.step? e = some t) :
    t.requests = s.requests ++ e.requests := requests_of_move (move_of_step? h)

theorem requests_getD_step? {s : System} {e : Event} (he : e.requests = []) :
    ((s.step? e).getD s).requests = s.requests := by
  cases h : s.step? e with
  | none => rfl
  | some t => rw [Option.getD_some, requests_of_step? h, he, List.append_nil]

end System

namespace Simulation

variable {σ : Type} [Host σ]

theorem requests_startProcess (s : Simulation σ) (id : TaskId) (request : Request) :
    (s.startProcess id request).system.requests = s.system.requests := by
  unfold startProcess
  split
  · exact System.requests_getD_step? rfl
  · rfl

theorem requests_advance? {s t : Simulation σ} (h : s.advance? = some t) :
    t.system.requests = s.system.requests := by
  obtain ⟨id, -, h⟩ := List.exists_of_findSome?_eq_some h
  obtain ⟨system, hstep, rfl⟩ := Option.map_eq_some_iff.1 h
  have hr : system.requests = s.system.requests := by
    simpa [Event.requests] using System.requests_of_step? hstep
  dsimp only
  split
  · rw [requests_startProcess]; exact hr
  · exact hr

theorem requests_settleFor (n : Nat) (s : Simulation σ) :
    (settleFor n s).system.requests = s.system.requests := by
  induction n generalizing s with
  | zero => rfl
  | succ n ih =>
    rw [settleFor]
    split
    · rw [ih, requests_advance? ‹_›]
    · rfl

theorem requests_settle (s : Simulation σ) : s.settle.system.requests = s.system.requests :=
  requests_settleFor _ s

theorem requests_finishNext? {s t : Simulation σ} (h : s.finishNext? = some t) :
    t.system.requests = s.system.requests := by
  simp only [finishNext?, Option.bind_eq_bind, Option.bind_eq_some_iff] at h
  obtain ⟨⟨⟨process, ended⟩, host⟩, -, child, -, system, hstep, h⟩ := h
  obtain rfl := Option.some.inj h
  have hr := System.requests_of_step? hstep
  rw [requests_settle]
  simpa [Event.requests] using hr

theorem requests_waitFor (id : TaskId) (n : Nat) (s : Simulation σ) :
    (waitFor id n s).system.requests = s.system.requests := by
  induction n generalizing s with
  | zero => rfl
  | succ n ih =>
    rw [waitFor]
    split
    · rfl
    · split
      · rw [ih, requests_finishNext? ‹_›]
      · rfl

theorem requests_wait (id : TaskId) (s : Simulation σ) :
    (s.wait id).system.requests = s.system.requests :=
  requests_waitFor id _ s

theorem requests_begin_submit (request : Request) (s : Simulation σ) :
    (s.begin (.submit request)).system.requests = s.system.requests ++ [request] := by
  rw [begin, requests_settle]
  have hstep : s.system.step? (.submit request) =
      some { s.system with tasks := s.system.tasks ++ [.submission request .arrived] } := rfl
  rw [hstep]
  exact System.requests_of_step? hstep

theorem requests_submit (request : Request) (s : Simulation σ) :
    (s.submit request).2.system.requests = s.system.requests ++ [request] := by
  rw [submit, requests_wait, requests_begin_submit]

end Simulation

end Shorthand
