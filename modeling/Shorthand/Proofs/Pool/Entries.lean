import Mathlib.Data.List.Perm.Subperm
import Shorthand.Proofs.Pool.Runs
set_option autoImplicit false

namespace Shorthand

/-- An entry in the pool while its task has come so far; `left` are the tasks given up while they
ran. -/
def Entry.Fits (left : List TaskId) (e : Entry) : Task → Prop
  | .submission _ .entered | .submission _ .waiting | .submission _ .granted
  | .submission _ .holding =>
    e.isRunning = false
  | .submission _ .running => e.isRunning = true
  | .submission _ .dropped => e.isRunning = true ∧ e.task ∈ left
  | _ => False

theorem Entry.Fits.grant {left : List TaskId} {e : Entry} {t : Task} (h : e.Fits left t) :
    e.Fits left t.grant := by
  cases t with
  | submission request stage => cases stage <;> exact h
  | shutdown stage => exact h.elim

theorem Entry.Fits.mono {left left' : List TaskId} (hl : left ⊆ left') {e : Entry} {t : Task}
    (h : e.Fits left t) : e.Fits left' t := by
  cases t with
  | submission request stage =>
    cases stage with
    | dropped => exact ⟨h.1, hl h.2⟩
    | _ => exact h
  | shutdown stage => exact h.elim

namespace System

def abandons (s : System) : Event → List TaskId
  | .drop id =>
    match s.task? id with
    | some (.submission _ .running) => [id]
    | _ => []
  | _ => []

/-- The submissions that are given up in a run while their commands run. -/
def abandoned (s : System) (events : List Event) : List TaskId := s.along abandons events

structure Listed (s : System) (left : List TaskId) : Prop where
  distinct : (s.pool.entries.map (·.task)).Nodup
  fits : ∀ e ∈ s.pool.entries, ∃ u, s.task? e.task = some u ∧ e.Fits left u

namespace Listed

variable {s t : System} {left left' : List TaskId} {id : TaskId} {old new : Task}

theorem serve {change : Slots × List TaskId} (h : s.Listed left) (hl : left ⊆ left')
    (hid : s.task? id = some old) (hsub : t.pool.entries.Sublist s.pool.entries)
    (ht : t.tasks = (s.withSlots change).tasks.set id new)
    (hf : ∀ e ∈ t.pool.entries, e.task = id → e.Fits left old → e.Fits left' new) :
    t.Listed left' := by
  refine ⟨h.distinct.sublist (hsub.map _), ?_⟩
  intro e he
  obtain ⟨u, hu, hfit⟩ := h.fits e (hsub.subset he)
  have htask : t.task? e.task = ((s.withSlots change).setTask id new).task? e.task := by
    rw [task?, ht]
    rfl
  rw [htask, task?_setTask, task?_withSlots, task?_withSlots]
  by_cases heq : e.task = id
  · rw [heq, hid] at hu
    obtain rfl := Option.some.inj hu
    refine ⟨new, ?_, hf e he heq hfit⟩
    rw [if_pos heq, hid]
    split <;> rfl
  · rw [if_neg heq, hu]
    split
    · exact ⟨u.grant, rfl, hfit.grant.mono hl⟩
    · exact ⟨u, rfl, hfit.mono hl⟩

theorem setStage (h : s.Listed left) (hl : left ⊆ left') (hid : s.task? id = some old)
    (hsub : t.pool.entries.Sublist s.pool.entries) (ht : t.tasks = s.tasks.set id new)
    (hf : ∀ e ∈ t.pool.entries, e.task = id → e.Fits left old → e.Fits left' new) :
    t.Listed left' := by
  have hnone : t.tasks = (s.withSlots (s.pool.slots, [])).tasks.set id new := ht
  exact h.serve hl hid hsub hnone hf

theorem setAbsent (h : s.Listed left) (hl : left ⊆ left') (hid : s.task? id = some old)
    (hsub : t.pool.entries.Sublist s.pool.entries) (ht : t.tasks = s.tasks.set id new)
    (hno : ∀ e : Entry, ¬e.Fits left old) : t.Listed left' :=
  h.setStage hl hid hsub ht fun e _ _ hfit => absurd hfit (hno e)

theorem serveAbsent {change : Slots × List TaskId} (h : s.Listed left) (hl : left ⊆ left')
    (hid : s.task? id = some old) (hsub : t.pool.entries.Sublist s.pool.entries)
    (ht : t.tasks = (s.withSlots change).tasks.set id new) (hno : ∀ e : Entry, ¬e.Fits left old) :
    t.Listed left' :=
  h.serve hl hid hsub ht fun e _ _ hfit => absurd hfit (hno e)

theorem addTask (h : s.Listed left) (hl : left ⊆ left') (new : Task) :
    { s with tasks := s.tasks ++ [new] }.Listed left' := by
  refine ⟨h.distinct, ?_⟩
  intro e he
  obtain ⟨u, hu, hfit⟩ := h.fits e he
  exact ⟨u, task?_addTask hu new, hfit.mono hl⟩

theorem enter {request : Request} (h : s.Listed left) (hl : left ⊆ left')
    (hid : s.task? id = some (.submission request .admitted)) :
    ({ s with pool := s.pool.enter id request }.setStage id request .entered).Listed left' := by
  have hne : ∀ e ∈ s.pool.entries, e.task ≠ id := by
    rintro e he rfl
    obtain ⟨u, hu, hfit⟩ := h.fits e he
    rw [hid] at hu
    obtain rfl := Option.some.inj hu
    exact hfit
  refine ⟨?_, ?_⟩
  · change ((s.pool.entries ++ [Entry.mk id request false]).map (·.task)).Nodup
    rw [List.map_append, List.nodup_append]
    refine ⟨h.distinct, List.nodup_cons.2 ⟨List.not_mem_nil, List.nodup_nil⟩, ?_⟩
    intro a ha b hb
    obtain ⟨e, he, rfl⟩ := List.mem_map.1 ha
    obtain rfl := List.mem_singleton.1 hb
    exact hne e he
  · change ∀ e ∈ s.pool.entries ++ [Entry.mk id request false], _
    intro e he
    rcases List.mem_append.1 he with he | he
    · obtain ⟨u, hu, hfit⟩ := h.fits e he
      refine ⟨u, ?_, hfit.mono hl⟩
      rw [System.setStage, task?_setTask, if_neg (hne e he)]
      exact hu
    · obtain rfl := List.mem_singleton.1 he
      have hid' : { s with pool := s.pool.enter id request }.task? id =
        some (.submission request .admitted) := hid
      refine ⟨.submission request .entered, ?_, rfl⟩
      rw [System.setStage, task?_setTask, if_pos rfl, hid']
      rfl

theorem map_task_markRunning (p : Pool) (id : TaskId) :
    (p.markRunning id).entries.map (·.task) = p.entries.map (·.task) := by
  rw [Pool.markRunning, List.map_map]
  apply List.map_congr_left
  intro e _
  simp only [Function.comp_apply]
  split <;> rfl

theorem run {request : Request} (h : s.Listed left) (hl : left ⊆ left')
    (hid : s.task? id = some (.submission request .holding)) :
    ({ s with pool := s.pool.markRunning id }.setStage id request .running).Listed left' := by
  refine ⟨?_, ?_⟩
  · change ((s.pool.markRunning id).entries.map (·.task)).Nodup
    rw [map_task_markRunning]
    exact h.distinct
  · intro marked hmarked
    obtain ⟨e, he, rfl⟩ := List.mem_map.1 hmarked
    obtain ⟨u, hu, hfit⟩ := h.fits e he
    by_cases heq : e.task = id
    · have hid' : { s with pool := s.pool.markRunning id }.task? id =
        some (.submission request .holding) := hid
      rw [if_pos heq]
      refine ⟨.submission request .running, ?_, rfl⟩
      rw [System.setStage, task?_setTask, if_pos heq, hid']
      rfl
    · rw [if_neg heq]
      refine ⟨u, ?_, hfit.mono hl⟩
      rw [System.setStage, task?_setTask, if_neg heq]
      exact hu

theorem isRunning_of_mem_forget {p : Pool} {e : Entry} (he : e ∈ (p.forget id).entries)
    (heq : e.task = id) :
    e.isRunning = true := by
  have hkeep := (List.mem_filter.1 he).2
  simpa [heq] using hkeep

theorem entries_finish (p : Pool) (id : TaskId) (isSuccess : Bool) :
    (p.finish id isSuccess).entries = p.entries.filter (·.task ≠ id) := by
  unfold Pool.finish
  split
  · rfl
  · rename_i hany
    symm
    rw [List.filter_eq_self]
    intro e he
    simp only [List.any_eq_true, decide_eq_true_eq, not_exists, not_and] at hany
    simpa using hany e he

/-- No step breaks it. A submission that is given up while its command runs leaves its entry. -/
theorem of_move {e : Event} (hm : s.Move e t) (h : s.Listed left) :
    t.Listed (left ++ s.abandons e) := by
  have hl : left ⊆ left ++ s.abandons e := List.subset_append_left _ _
  have hsub : s.pool.entries.Sublist s.pool.entries := List.Sublist.refl _
  have hnil : [].Sublist s.pool.entries := List.nil_sublist _
  cases hm with
  | submit | shutDown => exact h.addTask hl _
  | accept hid | reject hid | dropArrived hid | stopAccepting hid | takeAll hid | waitAll hid
  | noticeAll hid | dropShutdown hid => exact h.setAbsent hl hid hsub rfl fun _ hfit => hfit
  | answer hid | close hid | dropShutdownWaiting hid | dropShutdownGranted hid =>
    exact h.serveAbsent hl hid hsub rfl fun _ hfit => hfit
  | clear hid | repeatClosed hid => exact h.setAbsent hl hid hnil rfl fun _ hfit => hfit
  | repeatGranted hid => exact h.serveAbsent hl hid hnil rfl fun _ hfit => hfit
  | enter hid => exact h.enter hl hid
  | run hid => exact h.run hl hid
  | take hid | wait hid | notice hid => exact h.setStage hl hid hsub rfl fun _ _ _ hfit => hfit
  -- The entry of a submission that is turned away or given up in the queue does not run, so it
  -- goes.
  | refuse hid hs =>
    refine h.setStage hl hid List.filter_sublist rfl fun e he heq hfit => ?_
    have hrun := isRunning_of_mem_forget he heq
    rcases hs with rfl | rfl <;> exact absurd (hrun.symm.trans hfit) (by decide)
  | refuseGranted hid | dropWaiting hid | dropGranted hid =>
    refine h.serve hl hid List.filter_sublist rfl fun e he heq hfit => ?_
    have hrun := isRunning_of_mem_forget he heq
    exact absurd (hrun.symm.trans hfit) (by decide)
  | @finish id request hid answer =>
    have hentries := entries_finish s.pool id answer.isSuccess
    refine h.setStage hl hid (hentries ▸ List.filter_sublist) rfl fun e he heq _ => ?_
    change e ∈ (s.pool.finish id answer.isSuccess).entries at he
    rw [hentries] at he
    exact absurd heq (by simpa using (List.mem_filter.1 he).2)
  | @abandon id request hid =>
    -- Nothing removes this entry: it runs for good.
    refine h.serve hl hid hsub rfl fun e _ heq hfit => ⟨hfit, ?_⟩
    rw [heq]
    apply List.mem_append_right
    simp [abandons, hid]

end Listed

end System

end Shorthand
