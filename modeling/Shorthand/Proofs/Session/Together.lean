import Shorthand.Proofs.Fanout.Schedule
import Shorthand.Proofs.Session.Waiting
import Shorthand.Session
set_option autoImplicit false

namespace Shorthand

namespace System

variable {s t : System} {events : List Event} {id : TaskId}

def IsSubmission (s : System) (id : TaskId) : Prop :=
  ∃ request stage, s.task? id = some (.submission request stage)

theorem IsSubmission.of_run? (h : s.IsSubmission id) (hr : s.run? events = some t) :
    t.IsSubmission id := by
  refine run?_induction (P := fun _ t => t.IsSubmission id) h ?_ hr
  rintro _ t e u - ⟨request, stage, hid⟩ hm
  obtain ⟨stage', hid'⟩ := hm.exists_stage hid
  exact ⟨request, stage', hid'⟩

end System

namespace Fanout

variable {tell : TaskId → String} {f : Fanout} {s t : System}

def Act.ofEvent : Event → Act
  | .advance id => .advance id
  | .finish id answer => .finish id answer
  | .drop id => .drop id
  | .submit _ | .shutDown => .spawn

theorem run?_ofEvent {events : List Event} (ht : System.IsTurns events)
    (hr : s.run? events = some t) :
    run? tell (f, s) (events.map Act.ofEvent) = some (f, t) := by
  induction events generalizing s with
  | nil =>
    obtain rfl := Option.some.inj hr
    rfl
  | cons e rest ih =>
    obtain ⟨u, hstep, hrest⟩ := System.exists_of_run?_cons hr
    have hact : (Act.ofEvent e).event? = some e := by
      have he := ht e List.mem_cons_self
      cases e <;> first | rfl | exact absurd rfl he
    rw [List.map_cons, run?, List.foldlM_cons, step?_of_event? hact, hstep]
    exact ih (fun e he => ht e (List.mem_cons_of_mem _ he)) hrest

theorem filterMap_ofEvent {events : List Event} (ht : System.IsTurns events) :
    (events.map Act.ofEvent).filterMap Act.event? = events := by
  induction events with
  | nil => rfl
  | cons e rest ih =>
    have he := ht e List.mem_cons_self
    have hrest := ih fun e he => ht e (List.mem_cons_of_mem _ he)
    cases e with
    | submit | shutDown => exact absurd rfl he
    | _ => exact congrArg (_ :: ·) hrest

def arrivals (plans : List Plan) : List Task :=
  plans.map fun plan => .submission (plan.invocation.request true) .arrived

theorem foldl_spawn? (tell : TaskId → String) (plans : List Plan) (f : Fanout) (s : System)
    (h : f.pending = plans) :
    ∃ g, plans.foldl (fun p _ => (p.1.spawn? p.2).getD p) (f, s) =
        (g, { s with tasks := s.tasks ++ arrivals plans }) ∧
      run? tell (f, s) (plans.map fun _ => .spawn) =
        some (g, { s with tasks := s.tasks ++ arrivals plans }) ∧
      g.pending = [] ∧
      g.awaited.map (·.2) = f.awaited.map (·.2) ++ List.range' s.tasks.length plans.length := by
  induction plans generalizing f s with
  | nil => exact ⟨f, by simp [arrivals], by simp [arrivals, run?], h, by simp⟩
  | cons plan rest ih =>
    obtain ⟨g, hfold, hrun, hpending, hawaited⟩ := ih
      { f with
        pending := rest
        awaited := f.awaited ++ [(plan.label, s.tasks.length)]
        outputs := f.outputs ++ [Report.announcement plan] }
      { s with tasks := s.tasks ++ [.submission (plan.invocation.request true) .arrived] } rfl
    refine ⟨g, ?_, ?_, hpending, ?_⟩
    · rw [List.foldl_cons, spawn?_of_pending h, Option.getD_some, hfold]
      simp [arrivals]
    · rw [List.map_cons, run?, List.foldlM_cons, step?, spawn?_of_pending h, Option.bind_eq_bind,
        Option.bind_some]
      simpa [run?, arrivals] using hrun
    · rw [hawaited]
      simp [List.range'_succ]

end Fanout

namespace Simulation

variable {σ : Type} {runs : σ → ProcessId → Prop} {s : Simulation σ} [Host σ]

theorem path_arrivals (plans : List Plan) (s : Simulation σ) :
    s.Path (plans.map fun plan => .submit (plan.invocation.request true))
      { s with system := { s.system with tasks := s.system.tasks ++ Fanout.arrivals plans } } := by
  induction plans generalizing s with
  | nil => simpa [Fanout.arrivals] using Path.refl
  | cons plan rest ih =>
    have hfirst : s.Path [.submit (plan.invocation.request true)] _ := .single (.call rfl)
    simpa [Fanout.arrivals] using hfirst.trans (ih _)

theorem exists_collectNext (laws : Host.Lawful runs) {f : Fanout} {label : String} {id : TaskId}
    {left : List (String × TaskId)} (h : s.Ready runs) (hp : f.pending = [])
    (ha : f.awaited = (label, id) :: left) (hid : (s.wait id).system.IsSubmission id) :
    ∃ g : Fanout, Session.collectNext (f, s) id = (g, s.wait id) ∧ g.pending = [] ∧
      g.awaited = left ∧ Fanout.Move Session.cancelled (f, (s.wait id).system) .collect
        (g, (s.wait id).system) := by
  obtain ⟨request, stage, htask⟩ := hid
  obtain ⟨-, -, -, -, hover⟩ := exists_path_wait laws id h
  obtain ⟨fate, hfate⟩ : ∃ fate,
      (Task.submission request stage).fate? (Session.cancelled id) = some fate := by
    refine Fanout.exists_fate? rfl ?_ _
    rwa [isOver, htask, Option.all_some] at hover
  let g : Fanout :=
    { f with
      awaited := left
      outcomes := f.outcomes ++ [⟨label, fate⟩]
      outputs := f.outputs ++ Report.outcome ⟨label, fate⟩ }
  have hmove : Fanout.Move Session.cancelled (f, (s.wait id).system) .collect
      (g, (s.wait id).system) := .collect hp ha (by rw [htask]; exact hfate)
  refine ⟨g, ?_, hp, rfl, hmove⟩
  obtain ⟨_, hsome, heq⟩ := Option.map_eq_some_iff.1 (Fanout.step?_of_move hmove)
  cases heq
  rw [Session.collectNext, hsome, Option.getD_some]

theorem exists_run_collectNext (laws : Host.Lawful runs) (ids : List TaskId) (f : Fanout)
    (h : s.Ready runs) (hp : f.pending = []) (ha : f.awaited.map (·.2) = ids)
    (hids : ∀ id ∈ ids, s.system.IsSubmission id) :
    ∃ acts, Fanout.run? Session.cancelled (f, s.system) acts =
        some ((ids.foldl Session.collectNext (f, s)).1,
          (ids.foldl Session.collectNext (f, s)).2.system) ∧
      s.Path (acts.filterMap Fanout.Act.event?) (ids.foldl Session.collectNext (f, s)).2 ∧
      (ids.foldl Session.collectNext (f, s)).1.isDone = true := by
  induction ids generalizing f s with
  | nil =>
    refine ⟨[], rfl, .refl, ?_⟩
    rw [List.foldl_nil, Fanout.isDone, hp, List.map_eq_nil_iff.1 ha]
    rfl
  | cons id rest ih =>
    obtain ⟨⟨label, task⟩, left, hawaited, hfirst, hleft⟩ := List.map_eq_cons_iff.1 ha
    obtain rfl : task = id := hfirst
    obtain ⟨turns, hpath, hturns, hready, -⟩ := exists_path_wait laws task h
    have hkeep {j : TaskId} (hj : s.system.IsSubmission j) : (s.wait task).system.IsSubmission j :=
      hj.of_run? hpath.run?
    obtain ⟨g, hcollect, hpending, hrest, hmove⟩ :=
      exists_collectNext laws h hp hawaited (hkeep (hids task List.mem_cons_self))
    rw [List.foldl_cons, hcollect]
    obtain ⟨acts, hrun, hpath', hdone⟩ := ih g hready hpending (by rw [hrest, hleft])
      fun j hj => hkeep (hids j (List.mem_cons_of_mem task hj))
    refine ⟨turns.map .ofEvent ++ .collect :: acts, ?_, ?_, hdone⟩
    · rw [Fanout.run?_append, Fanout.run?_ofEvent hturns hpath.run?, Option.bind_some, Fanout.run?,
        List.foldlM_cons, Fanout.step?_of_move hmove]
      exact hrun
    · rw [List.filterMap_append, Fanout.filterMap_ofEvent hturns]
      exact hpath.trans hpath'

end Simulation

namespace Session

variable {σ : Type} {runs : σ → ProcessId → Prop} {s : Simulation σ} [Host σ]

/-- A session that is ready makes a whole run of the call, in which nobody gives up a task. -/
theorem exists_run_runPlans (laws : Host.Lawful runs) (word : String) (plans : List Plan)
    (h : s.Ready runs) :
    ∃ acts, Fanout.run? cancelled (.ofPlans word plans, s.system) acts =
        some ((runPlans word plans s).1, (runPlans word plans s).2.system) ∧
      s.Path (plans.map (fun plan => .submit (plan.invocation.request true)) ++
        acts.filterMap Fanout.Act.event?) (runPlans word plans s).2 ∧
      (runPlans word plans s).1.isDone = true := by
  obtain ⟨f, hfold, hspawn, hpending, hawaited⟩ :=
    Fanout.foldl_spawn? cancelled plans (.ofPlans word plans) s.system rfl
  let arrived : Simulation σ :=
    { s with system := { s.system with tasks := s.system.tasks ++ Fanout.arrivals plans } }
  obtain ⟨turns, hpath, hturns, hpolled⟩ := Simulation.exists_path_settle arrived
  have hready := h.of_path laws ((Simulation.path_arrivals plans s).trans hpath) hpolled
  have hids : ∀ id ∈ f.awaited.map (·.2), arrived.settle.system.IsSubmission id := by
    intro id hid
    have hrange : id ∈ List.range' s.system.tasks.length plans.length := by rwa [hawaited] at hid
    obtain ⟨i, hi, rfl⟩ := List.mem_range'.1 hrange
    refine System.IsSubmission.of_run? ⟨plans[i].invocation.request true, .arrived, ?_⟩ hpath.run?
    simp [arrived, System.task?, Fanout.arrivals, hi]
  obtain ⟨acts, hrun, hpath', hdone⟩ :=
    Simulation.exists_run_collectNext laws _ f hready hpending rfl hids
  have hplans : runPlans word plans s =
      (f.awaited.map (·.2)).foldl collectNext (f, arrived.settle) := by rw [runPlans, hfold]
  rw [hplans]
  refine ⟨plans.map (fun _ => .spawn) ++ (turns.map .ofEvent ++ acts), ?_, ?_, hdone⟩
  · rw [Fanout.run?_append, hspawn, Option.bind_some, Fanout.run?_append,
      Fanout.run?_ofEvent hturns hpath.run?]
    exact hrun
  · have hnone : (plans.map fun _ => Fanout.Act.spawn).filterMap Fanout.Act.event? = [] := by
      simp [Fanout.Act.event?]
    rw [List.filterMap_append, List.filterMap_append, hnone, Fanout.filterMap_ofEvent hturns,
      List.nil_append]
    exact (Simulation.path_arrivals plans s).trans (hpath.trans hpath')

theorem requests_runPlans (word : String) (plans : List Plan) (s : Simulation σ) :
    (runPlans word plans s).2.system.requests =
      s.system.requests ++ plans.map fun plan => plan.invocation.request true := by
  obtain ⟨f, hfold, -⟩ := Fanout.foldl_spawn? cancelled plans (.ofPlans word plans) s.system rfl
  have hcollect (ids : List TaskId) (p : Fanout × Simulation σ) :
      (ids.foldl collectNext p).2.system.requests = p.2.system.requests := by
    induction ids generalizing p with
    | nil => rfl
    | cons id rest ih => exact (ih _).trans (Simulation.requests_wait id p.2)
  rw [runPlans, hfold]
  simp only
  rw [hcollect, Simulation.requests_settle]
  simp [System.requests, Fanout.arrivals, Function.comp_def, Task.request?]

end Session

end Shorthand
