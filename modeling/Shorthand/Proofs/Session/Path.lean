import Shorthand.Pool.Simulation
import Shorthand.Proofs.Pool.Progress
/-!
What a session does on its host, step by step. Each step goes with the events of the pool that it
consists of: a command ends in the pool where its process ends on the host, or where it does not
come to a process.
-/
set_option autoImplicit false

namespace Shorthand

/-- What is relied on of a host, where `runs` tells which processes run on it: a process that starts
is none of those that run, one that ends ran, and where none ends none runs. -/
structure Host.Lawful {σ : Type} [Host σ] (runs : σ → ProcessId → Prop) : Prop where
  start : ∀ {request h p h'}, Host.start request h = .ok (p, h') → ¬runs h p ∧ ∀ q, runs h' q ↔
    runs h q ∨ q = p
  next : ∀ {h p ended h'}, Host.next? h = some ((p, ended), h') → runs h p ∧ ∀ q, runs h' q ↔
    runs h q ∧ q ≠ p
  stuck : ∀ {h}, Host.next? h = none → ∀ p, ¬runs h p

theorem start_of_launch {σ : Type} [Host σ] {request : Request} {h h' : σ} {p : ProcessId}
    (hl : launch request h = .ok (p, h')) : Host.start request h = .ok (p, h') := by
  unfold launch at hl
  split at hl
  · cases hl
  · cases hs : Host.start request h with
    | error e =>
      rw [hs] at hl
      cases hl
    | ok started =>
      rw [hs] at hl
      exact congrArg Except.ok (Except.ok.inj hl)

namespace Simulation

variable {σ : Type} {runs : σ → ProcessId → Prop} {s t u : Simulation σ} {events new : List Event}

structure Linked (runs : σ → ProcessId → Prop) (s : Simulation σ) : Prop where
  processes : ∀ p, runs s.host p ↔ p ∈ s.children.map (·.process)
  tasks : ∀ id, s.system.Runs id ↔ id ∈ s.children.map (·.task)
  distinctProcesses : (s.children.map (·.process)).Nodup
  distinctTasks : (s.children.map (·.task)).Nodup

namespace Linked

theorem ofPool (pool : Pool) {host : σ} (h : ∀ p, ¬runs host p) :
    (Simulation.ofPool pool host).Linked runs := by
  refine ⟨fun p => ?_, fun id => ?_, List.nodup_nil, List.nodup_nil⟩
  · exact iff_of_false (h p) List.not_mem_nil
  · refine iff_of_false ?_ List.not_mem_nil
    rintro ⟨request, hid⟩
    cases hid

/-- A step that leaves host, children and running commands alone. -/
theorem keep (h : s.Linked runs) {system : System} (hr : ∀ id, system.Runs id ↔ s.system.Runs id) :
    { s with system }.Linked runs :=
  ⟨h.processes, fun id => (hr id).trans (h.tasks id), h.distinctProcesses, h.distinctTasks⟩

end Linked

variable [Host σ]

inductive Step (s : Simulation σ) : List Event → Simulation σ → Prop where
  | call {request : Request} {system : System}
      (h : s.system.step? (.submit request) = some system) :
    Step s [.submit request] { s with system }
  | advance {id : TaskId} {system : System} (h : s.system.step? (.advance id) = some system)
    (hquiet : ¬system.Runs id) : Step s [.advance id] { s with system }
  /-- The process of a command starts. -/
  | start {id : TaskId} {system : System} {request : Request} {process : ProcessId} {host : σ}
      {journal : Journal} (h : s.system.step? (.advance id) = some system)
    (hid : system.task? id = some (.submission request .running))
    (hlaunch : launch request s.host = .ok (process, host)) :
    Step s [.advance id]
      { s with
        system, host, children := s.children ++ [⟨process, id, request, s.isTracked⟩], journal }
  /-- There is no process for a command. -/
  | fail {id : TaskId} {started system : System} {request : Request} {error : RunError}
    (h : s.system.step? (.advance id) = some started)
    (hid : started.task? id = some (.submission request .running))
    (hlaunch : launch request s.host = .error error)
    (hfinish : started.step? (.finish id (.error error)) = some system) :
    Step s [.advance id, .finish id (.error error)] { s with system }
  /-- The process of a command ends, or waiting for it fails. -/
  | finish {child : Child} {ended : Except SystemError Ending} {host : σ} {system : System}
    {journal : Journal} (hnext : Host.next? s.host = some ((child.process, ended), host))
    (hchild : child ∈ s.children)
    (h : s.system.step? (.finish child.task (child.answer ended)) = some system) :
    Step s [.finish child.task (child.answer ended)]
      { s with system, host, children := s.children.filter (·.process ≠ child.process), journal }

inductive Path (s : Simulation σ) : List Event → Simulation σ → Prop where
  | refl : Path s [] s
  | concat {events new : List Event} {t u : Simulation σ} (path : Path s events t)
      (step : t.Step new u) :
    Path s (events ++ new) u

theorem Step.run? (h : s.Step events t) : s.system.run? events = some t.system := by
  cases h with
  | call h | advance h | start h | finish _ _ h => exact System.run?_of_step? h rfl
  | fail h _ _ hfinish => exact System.run?_of_step? h (System.run?_of_step? hfinish rfl)

theorem Path.run? (h : s.Path events t) : s.system.run? events = some t.system := by
  induction h with
  | refl => rfl
  | concat _ step ih => exact System.run?_of_run? ih step.run?

theorem Path.trans (h : s.Path events t) (h' : t.Path new u) : s.Path (events ++ new) u := by
  induction h' with
  | refl => rwa [List.append_nil]
  | concat _ step ih =>
    rw [← List.append_assoc]
    exact ih.concat step

theorem Path.single (h : s.Step events t) : s.Path events t := Path.refl.concat h

namespace Linked

theorem start (laws : Host.Lawful runs) (h : s.Linked runs) {id : TaskId} {system : System}
    {child : Child} {host : σ} {journal : Journal} (hid : child.task = id)
    (hstart : Host.start child.request s.host = .ok (child.process, host))
    (hr : ∀ j, system.Runs j ↔ s.system.Runs j ∨ j = id) (hnot : ¬s.system.Runs id) :
    { s with system, host, children := s.children ++ [child], journal }.Linked runs := by
  obtain ⟨hfresh, hruns⟩ := laws.start hstart
  refine ⟨fun p => ?_, fun j => ?_, ?_, ?_⟩
  · rw [hruns, h.processes, List.map_append, List.mem_append, List.map_singleton,
      List.mem_singleton]
  · rw [hr, h.tasks, List.map_append, List.mem_append, List.map_singleton, List.mem_singleton, hid]
  · rw [h.processes] at hfresh
    rw [List.map_append, List.nodup_append]
    refine ⟨h.distinctProcesses, List.nodup_singleton _, fun p hp q hq => ?_⟩
    rintro rfl
    rw [List.map_singleton, List.mem_singleton] at hq
    exact hfresh (hq ▸ hp)
  · rw [h.tasks] at hnot
    rw [List.map_append, List.nodup_append]
    refine ⟨h.distinctTasks, List.nodup_singleton _, fun p hp q hq => ?_⟩
    rintro rfl
    rw [List.map_singleton, List.mem_singleton] at hq
    exact hnot (hid ▸ hq ▸ hp)

theorem finish (laws : Host.Lawful runs) (h : s.Linked runs) {child : Child}
    {ended : Except SystemError Ending} {host : σ} {system : System} {journal : Journal}
    (hnext : Host.next? s.host = some ((child.process, ended), host)) (hchild : child ∈ s.children)
    (hr : ∀ j, system.Runs j ↔ s.system.Runs j ∧ j ≠ child.task) :
    { s with
      system, host, journal
      children := s.children.filter (·.process ≠ child.process) }.Linked runs := by
  obtain ⟨-, hruns⟩ := laws.next hnext
  have hsame {c : Child} (hc : c ∈ s.children) :
      c.process = child.process ↔ c.task = child.task := by
    constructor
    · exact fun heq =>
        congrArg Child.task (List.inj_on_of_nodup_map h.distinctProcesses hc hchild heq)
    · exact fun heq =>
        congrArg Child.process (List.inj_on_of_nodup_map h.distinctTasks hc hchild heq)
  refine ⟨fun p => ?_, fun j => ?_, h.distinctProcesses.sublist (List.filter_sublist.map _),
    h.distinctTasks.sublist (List.filter_sublist.map _)⟩
  · rw [hruns, h.processes]
    simp only [List.mem_map, List.mem_filter, decide_eq_true_eq, ne_eq]
    constructor
    · rintro ⟨⟨c, hc, rfl⟩, hne⟩
      exact ⟨c, ⟨hc, hne⟩, rfl⟩
    · rintro ⟨c, ⟨hc, hne⟩, rfl⟩
      exact ⟨⟨c, hc, rfl⟩, hne⟩
  · rw [hr, h.tasks]
    simp only [List.mem_map, List.mem_filter, decide_eq_true_eq, ne_eq]
    constructor
    · rintro ⟨⟨c, hc, rfl⟩, hne⟩
      exact ⟨c, ⟨hc, mt (hsame hc).1 hne⟩, rfl⟩
    · rintro ⟨c, ⟨hc, hne⟩, rfl⟩
      exact ⟨⟨c, hc, rfl⟩, mt (hsame hc).2 hne⟩

theorem of_step (laws : Host.Lawful runs) (h : s.Linked runs) (hs : s.Step events t) :
    t.Linked runs := by
  cases hs with
  | call hstep =>
    have hm := System.move_of_step? hstep
    exact h.keep fun id => hm.runs_iff.trans (by simp [Event.task?])
  | @advance id system hstep hquiet =>
    have hm := System.move_of_step? hstep
    refine h.keep fun j => ?_
    by_cases hj : j = id
    · subst hj
      exact iff_of_false hquiet (System.not_runs_of_advance hstep)
    · exact hm.runs_iff.trans (by simp [Event.task?, Ne.symm hj])
  | @start id system request process host journal hstep hid hlaunch =>
    have hm := System.move_of_step? hstep
    let child : Child := ⟨process, id, request, s.isTracked⟩
    have hstart : Host.start child.request s.host = .ok (child.process, host) :=
      start_of_launch hlaunch
    refine h.start laws rfl hstart (fun j => ?_) (System.not_runs_of_advance hstep)
    by_cases hj : j = id
    · subst hj
      exact iff_of_true ⟨request, hid⟩ (.inr rfl)
    · exact hm.runs_iff.trans (by simp [Event.task?, Ne.symm hj, hj])
  | @fail id started system request error hstep hid hlaunch hfinish =>
    have hm := System.move_of_step? hstep
    have hm' := System.move_of_step? hfinish
    refine h.keep fun j => ?_
    by_cases hj : j = id
    · subst hj
      exact iff_of_false (fun hr => by simpa [Event.task?] using hm'.runs_iff.1 hr)
        (System.not_runs_of_advance hstep)
    · rw [hm'.runs_iff, hm.runs_iff]
      simp [Event.task?, Ne.symm hj]
  | finish hnext hchild hstep =>
    have hm := System.move_of_step? hstep
    exact h.finish laws hnext hchild fun j => hm.runs_iff.trans (by simp [Event.task?, eq_comm])

theorem of_path (laws : Host.Lawful runs) (h : s.Linked runs) (hp : s.Path events t) :
    t.Linked runs := by
  induction hp with
  | refl => exact h
  | concat _ step ih => exact ih.of_step laws step

end Linked

end Simulation

end Shorthand
