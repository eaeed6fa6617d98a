import Mathlib.Data.List.Induction
import Mathlib.Data.List.Nodup
import Shorthand.Proofs.Pool.Turns
set_option autoImplicit false

namespace Shorthand.System

theorem run?_induction {s : System} {P : List Event → System → Prop} (start : P [] s)
    (step : ∀ {events t e u},
      s.run? events = some t → P events t → t.Move e u → P (events ++ [e]) u)
    {events : List Event} {t : System} (h : s.run? events = some t) : P events t := by
  induction events using List.reverseRecOn generalizing t with
  | nil =>
    obtain rfl := Option.some.inj h
    exact start
  | append_singleton events e ih =>
    rw [run?_append] at h
    obtain ⟨u, hrun, hlast⟩ := Option.bind_eq_some_iff.1 h
    obtain ⟨v, hstep, hend⟩ := exists_of_run?_cons hlast
    obtain rfl := Option.some.inj hend
    exact step hrun (ih hrun) (move_of_step? hstep)

theorem task?_of_run?_of_isOver {s t : System} {events : List Event} (hr : s.run? events = some t)
    {id : TaskId} {u : Task} (hid : s.task? id = some u) (ho : u.isOver = true) :
    t.task? id = some u :=
  run?_induction (P := fun _ t => t.task? id = some u) hid
    (fun _ ih hm => hm.task?_of_isOver ih ho) hr

def along {α : Type} (note : System → Event → List α) (s : System) : List Event → List α
  | [] => []
  | e :: rest =>
    match s.step? e with
    | none => []
    | some t => note s e ++ t.along note rest

theorem along_append {α : Type} {note : System → Event → List α} {s t : System} {a : List Event}
    (h : s.run? a = some t) (b : List Event) :
    s.along note (a ++ b) = s.along note a ++ t.along note b := by
  induction a generalizing s with
  | nil =>
    obtain rfl := Option.some.inj h
    rfl
  | cons e rest ih =>
    obtain ⟨u, hstep, hrest⟩ := exists_of_run?_cons h
    rw [List.cons_append, along, along, hstep]
    simp only
    rw [ih hrest, List.append_assoc]

theorem along_eq_nil {α : Type} {note : System → Event → List α} {s : System} {events : List Event}
    (h : ∀ e ∈ events, ∀ s, note s e = []) : s.along note events = [] := by
  induction events generalizing s with
  | nil => rfl
  | cons e rest ih =>
    obtain ⟨he, hrest⟩ := List.forall_mem_cons.1 h
    rw [along]
    split
    · rfl
    · rw [he, ih hrest]
      rfl

theorem along_concat {α : Type} {note : System → Event → List α} {s t u : System}
    {events : List Event} {e : Event} (h : s.run? events = some t) (hm : t.Move e u) :
    s.along note (events ++ [e]) = s.along note events ++ note t e := by
  rw [along_append h, along, step?_of_move hm]
  simp [along]

def leaves (stage : Stage) (s : System) : Event → List TaskId
  | .advance id =>
    match s.task? id with
    | some (.submission _ current) => if current = stage then [id] else []
    | _ => []
  | _ => []

def ends (_ : System) : Event → List (TaskId × Answer)
  | .finish id answer => [(id, answer)]
  | _ => []

@[simp] theorem mem_leaves {stage : Stage} {s : System} {e : Event} {id : TaskId} :
    id ∈ leaves stage s e ↔ e = .advance id ∧ ∃ request,
      s.task? id = some (.submission request stage) := by
  cases e with
  | advance j =>
    simp only [leaves]
    split
    · rename_i request current htask
      split
      · subst_vars
        constructor
        · intro h
          obtain rfl := List.mem_singleton.1 h
          exact ⟨rfl, request, htask⟩
        · rintro ⟨h, -⟩
          cases h
          exact List.mem_singleton.2 rfl
      · rename_i hne
        constructor
        · intro h
          cases h
        · rintro ⟨h, _, htask'⟩
          cases h
          rw [htask] at htask'
          cases htask'
          exact absurd rfl hne
    · rename_i hnone
      constructor
      · intro h
        cases h
      · rintro ⟨h, request, htask⟩
        cases h
        exact absurd htask (hnone request stage)
  | _ => simp [leaves]

theorem leaves_nodup (stage : Stage) (s : System) (e : Event) : (leaves stage s e).Nodup := by
  cases e with
  | advance id =>
    simp only [leaves]
    split
    · split
      · exact List.nodup_singleton id
      · exact List.nodup_nil
    · exact List.nodup_nil
  | _ => exact List.nodup_nil

@[simp] theorem mem_ends {s : System} {e : Event} {id : TaskId} {answer : Answer} :
    (id, answer) ∈ ends s e ↔ e = .finish id answer := by
  cases e with
  | finish j a =>
    simp only [ends, List.mem_singleton, Prod.mk.injEq, Event.finish.injEq]
    exact ⟨fun h => ⟨h.1.symm, h.2.symm⟩, fun h => ⟨h.1.symm, h.2.symm⟩⟩
  | _ => simp [ends]

/-- The submissions that get an entry in a run. -/
def accepted (s : System) (events : List Event) : List TaskId := s.along (leaves .admitted) events

/-- The submissions whose commands are started in a run. -/
def started (s : System) (events : List Event) : List TaskId := s.along (leaves .holding) events

/-- The submissions whose commands end in a run, each with how it ends. -/
def endings (s : System) (events : List Event) : List (TaskId × Answer) := s.along ends events

end Shorthand.System
