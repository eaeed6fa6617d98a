import Shorthand.Proofs.Pool.Moves
set_option autoImplicit false

namespace Shorthand

@[simp] theorem Task.grant_grant (t : Task) : t.grant.grant = t.grant := by
  cases t with
  | submission request stage => cases stage <;> rfl
  | shutdown stage => cases stage <;> rfl

theorem Task.grant_cases (t : Task) :
    t.grant = t ∨
      (∃ request, t = .submission request .waiting ∧ t.grant = .submission request .granted) ∨
      t = .shutdown .waiting ∧ t.grant = .shutdown .granted := by
  cases t with
  | submission request stage =>
    cases stage with
    | waiting => exact .inr (.inl ⟨request, rfl, rfl⟩)
    | _ => exact .inl rfl
  | shutdown stage =>
    cases stage with
    | waiting => exact .inr (.inr ⟨rfl, rfl⟩)
    | _ => exact .inl rfl

namespace System

@[simp] theorem task?_setTask (s : System) (id j : TaskId) (t : Task) :
    (s.setTask id t).task? j = if j = id then (s.task? id).map fun _ => t else s.task? j := by
  simp only [task?, setTask, List.getElem?_set]
  by_cases h : j = id
  · subst h
    by_cases hl : j < s.tasks.length <;> simp [hl]
  · simp [h, Ne.symm h]

theorem task?_addTask {s : System} {id : TaskId} {t : Task} (h : s.task? id = some t) (new : Task) :
    { s with tasks := s.tasks ++ [new] }.task? id = some t := by
  obtain ⟨hlt, -⟩ := List.getElem?_eq_some_iff.1 h
  rw [← h, task?, task?, List.getElem?_append_left hlt]

theorem getElem?_foldl_modify (served : List TaskId) (tasks : List Task) (j : TaskId) :
    (served.foldl (fun tasks id => tasks.modify id Task.grant) tasks)[j]? =
      if j ∈ served then tasks[j]?.map Task.grant else tasks[j]? := by
  induction served generalizing tasks with
  | nil => simp
  | cons id rest ih =>
    rw [List.foldl_cons, ih, List.getElem?_modify]
    by_cases h : j = id
    · subst h; by_cases hr : j ∈ rest <;> simp [hr, Function.comp_def]
    · by_cases hr : j ∈ rest <;> simp [hr, h, Ne.symm h]

theorem modify_grant_eq_set {tasks : List Task} {id : TaskId} {t : Task} (h : tasks[id]? = some t) :
    tasks.modify id Task.grant = tasks.set id t.grant := by
  apply List.ext_getElem?
  intro j
  rw [List.getElem?_modify, List.getElem?_set]
  split
  · subst_vars
    obtain ⟨hlt, heq⟩ := List.getElem?_eq_some_iff.1 h
    simp [hlt, heq]
  · simp

@[simp] theorem task?_withSlots (s : System) (change : Slots × List TaskId) (j : TaskId) :
    (s.withSlots change).task? j = if j ∈ change.2 then (s.task? j).map Task.grant else s.task? j :=
  getElem?_foldl_modify change.2 s.tasks j

end System

end Shorthand
