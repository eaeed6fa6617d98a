import Shorthand.Proofs.Pool.Runs
set_option autoImplicit false

namespace Shorthand

def Request.refusal (request : Request) : Answer := .error (.poolShutDown request.display)

def Task.Records (isStarted : Prop) (hasEnded : Answer → Prop) : Task → Prop
  | submission _ .running => isStarted
  | submission _ (.finished answer) => isStarted ∧ hasEnded answer
  | submission request (.answered answer) => answer = request.refusal ∨ isStarted ∧ hasEnded answer
  | submission _ .dropped => True
  | _ => ¬isStarted

theorem Task.Records.grant {isStarted : Prop} {hasEnded : Answer → Prop} {u : Task}
    (h : u.Records isStarted hasEnded) : u.grant.Records isStarted hasEnded := by
  rcases u.grant_cases with hu | ⟨request, rfl, hu⟩ | ⟨rfl, hu⟩ <;> rw [hu] <;> exact h

theorem Task.Records.congr {isStarted isStarted' : Prop} {hasEnded hasEnded' : Answer → Prop}
    {u : Task} (h : u.Records isStarted hasEnded) (hs : isStarted' ↔ isStarted)
    (he : ∀ a, hasEnded' a ↔ hasEnded a) :
    u.Records isStarted' hasEnded' := by
  rw [propext hs, funext fun a => propext (he a)]
  exact h

namespace System

variable {s t u : System} {events : List Event} {e : Event} {id : TaskId}

theorem mem_started_concat (hr : s.run? events = some t) (hm : t.Move e u) :
    id ∈ s.started (events ++ [e]) ↔ id ∈ s.started events ∨
      e = .advance id ∧ ∃ request, t.task? id = some (.submission request .holding) := by
  rw [started, along_concat hr hm, List.mem_append, mem_leaves]
  rfl

theorem mem_endings_concat (hr : s.run? events = some t) (hm : t.Move e u) {answer : Answer} :
    (id, answer) ∈ s.endings (events ++ [e]) ↔
      (id, answer) ∈ s.endings events ∨ e = .finish id answer := by
  rw [endings, along_concat hr hm, List.mem_append, mem_ends]
  rfl

theorem mem_endings_iff (hr : s.run? events = some t) {answer : Answer} :
    (id, answer) ∈ s.endings events ↔ .finish id answer ∈ events := by
  refine run?_induction (P := fun events _ => (id, answer) ∈ s.endings events ↔
    .finish id answer ∈ events) ?_ ?_ hr
  · simp [endings, along]
  · intro events t e u hrun ih hm
    rw [mem_endings_concat hrun hm, ih, List.mem_append, List.mem_singleton]
    exact or_congr_right eq_comm

structure Recorded (s : System) (events : List Event) (t : System) : Prop where
  known : ∀ id u, t.task? id = some u →
    u.Records (id ∈ s.started events) (fun answer => (id, answer) ∈ s.endings events)
  fresh : ∀ id, t.task? id = none → id ∉ s.started events

namespace Recorded

theorem turn (hr : s.run? events = some t) (hm : t.Move e u) {a b : Task} (ha : t.task? id = some a)
    (hturn : Task.Turn t.pool id e a b)
    (h : a.Records (id ∈ s.started events) (fun answer => (id, answer) ∈ s.endings events)) :
    b.Records (id ∈ s.started (events ++ [e]))
      (fun answer => (id, answer) ∈ s.endings (events ++ [e])) := by
  have hstill : id ∈ s.started events → id ∈ s.started (events ++ [e]) :=
    fun hs => (mem_started_concat hr hm).2 (.inl hs)
  have hended (answer : Answer) :
      (id, answer) ∈ s.endings events → (id, answer) ∈ s.endings (events ++ [e]) :=
    fun hs => (mem_endings_concat hr hm).2 (.inl hs)
  have hnot (hh : ∀ request, a ≠ .submission request .holding) (hs : id ∉ s.started events) :
      id ∉ s.started (events ++ [e]) := by
    intro hs'
    rcases (mem_started_concat hr hm).1 hs' with hs' | ⟨-, request, hold⟩
    · exact hs hs'
    · exact hh request (Option.some.inj (ha.symm.trans hold))
  cases hturn with
  | accept | enter | wait | stopAccepting | waitAll | clear | close => exact hnot (by simp) h
  | hold request hs | holdAll hs => rcases hs with rfl | rfl <;> exact hnot (by simp) h
  | repeated hs | dropShutdown hs => rcases hs with rfl | rfl | rfl <;> exact hnot (by simp) h
  | reject | refuse => exact .inl rfl
  | run request => exact (mem_started_concat hr hm).2 (.inr ⟨rfl, request, ha⟩)
  | finish request answer => exact ⟨hstill h, (mem_endings_concat hr hm).2 (.inr rfl)⟩
  | answer request answer => exact .inr ⟨hstill h.1, hended answer h.2⟩
  | drop => trivial

theorem concat (hr : s.run? events = some t) (h : s.Recorded events t) (hm : t.Move e u) :
    s.Recorded (events ++ [e]) u := by
  have hother (id : TaskId) (he : e.task? ≠ some id) :
      id ∈ s.started (events ++ [e]) ↔ id ∈ s.started events := by
    rw [mem_started_concat hr hm]
    refine or_iff_left ?_
    rintro ⟨rfl, -⟩
    exact he rfl
  have hother' (id : TaskId) (he : e.task? ≠ some id) (answer : Answer) :
      (id, answer) ∈ s.endings (events ++ [e]) ↔ (id, answer) ∈ s.endings events := by
    rw [mem_endings_concat hr hm]
    refine or_iff_left ?_
    rintro rfl
    exact he rfl
  constructor
  · intro id b hb
    by_cases he : e.task? = some id
    · obtain ⟨a, b', ha, hb', hturn⟩ := hm.exists_turn he
      obtain rfl := Option.some.inj (hb.symm.trans hb')
      exact turn hr hm ha hturn (h.known id a ha)
    · rcases hm.exists_origin hb with ⟨hnone, hnew⟩ | ⟨a, ha, rfl | rfl | hturn⟩
      · have hnot : id ∉ s.started (events ++ [e]) :=
          fun hs => h.fresh id hnone ((hother id he).1 hs)
        rcases hnew with ⟨request, rfl⟩ | rfl <;> exact hnot
      · exact (h.known id b ha).congr (hother id he) (hother' id he)
      · exact (h.known id a ha).grant.congr (hother id he) (hother' id he)
      · exact absurd hturn.task?_eq he
  · intro id hnone hs
    cases ha : t.task? id with
    | none =>
      have he : e.task? ≠ some id := by
        intro he
        obtain ⟨a, b, ha', -⟩ := hm.exists_turn he
        rw [ha] at ha'
        cases ha'
      exact h.fresh id ha ((hother id he).1 hs)
    | some a =>
      obtain ⟨b, hb, -⟩ := hm.exists_task? ha
      rw [hnone] at hb
      cases hb

theorem of_run? {pool : Pool} (hr : (ofPool pool).run? events = some t) :
    (ofPool pool).Recorded events t := by
  refine run?_induction (P := (ofPool pool).Recorded) ⟨?_, fun _ _ hs => nomatch hs⟩ concat hr
  intro id u hu
  cases hu

theorem not_started (h : s.Recorded events t)
    (hid : ∀ u, t.task? id = some u → ∀ p q, u.Records p q → ¬p) : id ∉ s.started events := by
  cases hu : t.task? id with
  | none => exact h.fresh id hu
  | some u => exact hid u hu _ _ (h.known id u hu)

end Recorded

end System

end Shorthand
