import Shorthand.Fanout
import Shorthand.Proofs.Pool.Serving
set_option autoImplicit false

namespace Shorthand.Fanout

variable {tell : TaskId → String} {f g : Fanout} {s t : System} {p q r : Fanout × System}
  {act : Act} {acts : List Act} {plans : List Plan} {word : String} {fates : Nat → Fate}

def Act.event? : Act → Option Event
  | spawn | collect => none
  | advance id => some (.advance id)
  | finish id answer => some (.finish id answer)
  | drop id => some (.drop id)

inductive Move (tell : TaskId → String) : Fanout × System → Act → Fanout × System → Prop
  | spawn {f : Fanout} {s : System} {plan : Plan} {rest : List Plan}
      (h : f.pending = plan :: rest) :
    Move tell (f, s) .spawn
      ({ f with
          pending := rest
          awaited := f.awaited ++ [(plan.label, s.tasks.length)]
          outputs := f.outputs ++ [Report.announcement plan] },
        { s with tasks := s.tasks ++ [.submission (plan.invocation.request true) .arrived] })
  | collect {f : Fanout} {s : System} {label : String} {id : TaskId} {rest : List (String × TaskId)}
    {fate : Fate} (hp : f.pending = []) (ha : f.awaited = (label, id) :: rest)
    (hfate : (s.task? id).bind (Task.fate? (tell id)) = some fate) :
    Move tell (f, s) .collect
      ({ f with
          awaited := rest
          outcomes := f.outcomes ++ [⟨label, fate⟩]
          outputs := f.outputs ++ Report.outcome ⟨label, fate⟩ }, s)
  | turn {f : Fanout} {s t : System} {act : Act} {e : Event} (he : act.event? = some e)
    (h : s.step? e = some t) : Move tell (f, s) act (f, t)

theorem spawn?_of_pending {plan : Plan} {rest : List Plan} (h : f.pending = plan :: rest) :
    f.spawn? s = some
      ({ f with
          pending := rest
          awaited := f.awaited ++ [(plan.label, s.tasks.length)]
          outputs := f.outputs ++ [Report.announcement plan] },
        { s with tasks := s.tasks ++ [.submission (plan.invocation.request true) .arrived] }) := by
  rw [spawn?, h]
  rfl

theorem step?_of_event? {e : Event} (he : act.event? = some e) :
    step? tell (f, s) act = (s.step? e).map (f, ·) := by
  cases act <;> cases he <;> rfl

theorem move_of_step? (h : step? tell p act = some q) : Move tell p act q := by
  obtain ⟨f, s⟩ := p
  cases he : act.event? with
  | some e =>
    rw [step?_of_event? he] at h
    obtain ⟨t, ht, rfl⟩ := Option.map_eq_some_iff.1 h
    exact .turn he ht
  | none =>
    cases act with
    | spawn =>
      change f.spawn? s = some q at h
      cases hp : f.pending with
      | nil => rw [spawn?, hp] at h; cases h
      | cons plan rest =>
        rw [spawn?_of_pending hp] at h
        obtain rfl := Option.some.inj h
        exact .spawn hp
    | collect =>
      obtain ⟨g, hg, rfl⟩ := Option.map_eq_some_iff.1 h
      unfold collect? at hg
      split at hg
      · rename_i label id rest hp ha
        obtain ⟨fate, hfate, rfl⟩ := Option.map_eq_some_iff.1 hg
        exact .collect hp ha hfate
      · cases hg
    | advance | finish | drop => cases he

theorem step?_of_move (h : Move tell p act q) : step? tell p act = some q := by
  cases h with
  | spawn h => exact spawn?_of_pending h
  | collect hp ha hfate => simp [step?, collect?, hp, ha, hfate]
  | turn he h => rw [step?_of_event? he, h]; rfl

@[simp] theorem run?_append (a b : List Act) :
    run? tell p (a ++ b) = (run? tell p a).bind (run? tell · b) := by
  simp only [run?, List.foldlM_append]
  rfl

theorem run?_induction {P : List Act → Fanout × System → Prop} (start : P [] p)
    (step : ∀ {acts q act r},
      run? tell p acts = some q → P acts q → Move tell q act r → P (acts ++ [act]) r)
    (h : run? tell p acts = some q) : P acts q := by
  induction acts using List.reverseRecOn generalizing q with
  | nil =>
    obtain rfl := Option.some.inj h
    exact start
  | append_singleton acts act ih =>
    rw [run?_append] at h
    obtain ⟨r, hrun, hlast⟩ := Option.bind_eq_some_iff.1 h
    obtain ⟨u, hstep, hend⟩ := Option.bind_eq_some_iff.1 hlast
    obtain rfl := Option.some.inj hend
    exact step hrun (ih hrun) (move_of_step? hstep)

/-- The pool goes on by the submissions of the call and, in their order, the turns of the tasks. -/
theorem exists_events (h : run? tell (f, s) acts = some (g, t)) :
    ∃ events, s.run? events = some t ∧ .shutDown ∉ events ∧
      events.filter (·.task?.isSome) = acts.filterMap Act.event? := by
  refine run?_induction (P := fun acts q => ∃ events,
    s.run? events = some q.2 ∧ .shutDown ∉ events ∧
    events.filter (·.task?.isSome) = acts.filterMap Act.event?) ⟨[], rfl, by simp, rfl⟩ ?_ h
  rintro acts q act r - ⟨events, hr, hs, hturns⟩ hm
  cases hm with
  | @spawn f s plan rest hp =>
    refine ⟨events ++ [.submit (plan.invocation.request true)], ?_, by simp [hs], ?_⟩
    · exact System.run?_of_run? hr rfl
    · rw [List.filter_append, List.filterMap_append, hturns]
      rfl
  | collect => exact ⟨events, hr, hs, by simpa [List.filterMap_cons, Act.event?] using hturns⟩
  | @turn f s t act e hact hstep =>
    refine ⟨events ++ [e], System.run?_of_run? hr (System.run?_of_step? hstep rfl), ?_, ?_⟩
    · have hne : e ≠ .shutDown := by rintro rfl; cases act <;> cases hact
      simp [hs, Ne.symm hne]
    · have hturn : e.task?.isSome := by cases act <;> cases hact <;> rfl
      simp [hturns, hact, hturn]

/-- Where a call stands that has `n` tasks before its own: which plans have a task, which of these
are still awaited, and what has been written. -/
structure Stands (tell : TaskId → String) (word : String) (count : Nat) (s : System)
    (spawned : List Plan) (f : Fanout) (t : System) : Prop where
  tasks : t.tasks.map Task.request? =
    s.tasks.map Task.request? ++ spawned.map fun plan => some (plan.invocation.request true)
  awaited : f.awaited =
    ((spawned.zipIdx s.tasks.length).drop f.outcomes.length).map fun p => (p.1.label, p.2)
  collected : ∀ i o, f.outcomes[i]? = some o →
    ∃ plan, spawned[i]? = some plan ∧ o.label = plan.label ∧
    (t.task? (s.tasks.length + i)).bind (Task.fate? (tell (s.tasks.length + i))) = some o.fate
  early : f.pending ≠ [] → f.outcomes = []
  outputs : f.outputs = Report.heading word count :: spawned.map Report.announcement ++
    f.outcomes.flatMap Report.outcome

theorem stands_ofPlans (tell : TaskId → String) (word : String) (plans : List Plan) (s : System) :
    Stands tell word plans.length s [] (ofPlans word plans) s :=
  ⟨by simp, rfl, by simp [ofPlans], fun _ => rfl, rfl⟩

theorem Stands.length_eq {spawned : List Plan} {count : Nat}
    (h : Stands tell word count s spawned f t) :
    t.tasks.length = s.tasks.length + spawned.length := by
  simpa using congrArg List.length h.tasks

theorem fate?_eq_none_of_not_isOver {u : Task} {reason : String} (h : u.isOver = false) :
    u.fate? reason = none := by
  cases u with
  | submission request stage => cases stage <;> first | rfl | cases h
  | shutdown => rfl

theorem isOver_of_fate? {u : Task} {reason : String} {fate : Fate}
    (h : u.fate? reason = some fate) :
    u.isOver = true := by
  by_contra hover
  rw [fate?_eq_none_of_not_isOver (Bool.eq_false_iff.2 hover)] at h
  cases h

theorem Stands.next {spawned : List Plan} {count : Nat} (h : Stands tell word count s spawned f t)
    {label : String} {id : TaskId} {rest : List (String × TaskId)}
    (ha : f.awaited = (label, id) :: rest) :
    ∃ plan, spawned[f.outcomes.length]? = some plan ∧ label = plan.label ∧
      id = s.tasks.length + f.outcomes.length ∧
      rest = ((spawned.zipIdx s.tasks.length).drop (f.outcomes.length + 1)).map fun p =>
        (p.1.label, p.2) := by
  have hdrop := h.awaited.symm
  rw [ha, List.map_eq_cons_iff] at hdrop
  obtain ⟨⟨plan, j⟩, left, hleft, heq, hrest⟩ := hdrop
  have hnext : (spawned.zipIdx s.tasks.length)[f.outcomes.length]? = some (plan, j) := by
    rw [← List.head?_drop, hleft]
    rfl
  rw [List.getElem?_zipIdx] at hnext
  obtain ⟨_, hplan, hpair⟩ := Option.map_eq_some_iff.1 hnext
  cases hpair
  cases heq
  refine ⟨plan, hplan, rfl, rfl, ?_⟩
  rw [← List.tail_drop, hleft]
  exact hrest.symm

theorem Stands.exists_task? {spawned : List Plan} {count : Nat}
    (h : Stands tell word count s spawned f t) {i : Nat} {plan : Plan}
    (hi : spawned[i]? = some plan) :
    ∃ u, t.task? (s.tasks.length + i) = some u ∧
      u.request? = some (plan.invocation.request true) := by
  have hget := congrArg (·[s.tasks.length + i]?) h.tasks
  simp only [List.getElem?_map] at hget
  rw [List.getElem?_append_right (by simp)] at hget
  simpa [hi, System.task?] using hget

theorem Stands.of_move {spawned : List Plan} {count : Nat}
    (h : Stands tell word count s spawned f t) (hm : Move tell (f, t) act q) :
    ∃ spawned', Stands tell word count s spawned' q.1 q.2 ∧
      spawned' ++ q.1.pending = spawned ++ f.pending := by
  cases hm with
  | @spawn _ _ plan rest hp =>
    have hnone := h.early (by simp [hp])
    refine ⟨spawned ++ [plan], ⟨?_, ?_, ?_, fun _ => hnone, ?_⟩, by simp [hp]⟩
    · simp [h.tasks, Task.request?]
    · simp [h.awaited, hnone, List.zipIdx_append, h.length_eq]
    · simp [hnone]
    · simp [h.outputs, hnone]
  | @collect _ _ label id rest fate hp ha hfate =>
    obtain ⟨plan, hplan, rfl, rfl, hrest⟩ := h.next ha
    refine ⟨spawned, ⟨h.tasks, ?_, fun i o ho => ?_, fun hne => absurd hp hne, ?_⟩, rfl⟩
    · rw [List.length_append]
      exact hrest
    · rcases Nat.lt_trichotomy i f.outcomes.length with hlt | rfl | hgt
      · exact h.collected i o (by rwa [List.getElem?_append_left hlt] at ho)
      · rw [List.getElem?_concat_length] at ho
        obtain rfl := Option.some.inj ho
        exact ⟨plan, hplan, rfl, hfate⟩
      · rw [List.getElem?_eq_none (by rw [List.length_append]; exact hgt)] at ho
        cases ho
    · simp [h.outputs]
  | @turn _ _ u _ e hact hstep =>
    have hmove := System.move_of_step? hstep
    have hcall : e.requests = [] ∧ e ≠ .shutDown := by
      cases act <;> cases hact <;> simp [Event.requests]
    refine ⟨spawned, ⟨?_, h.awaited, fun i o ho => ?_, h.early, h.outputs⟩, rfl⟩
    · rw [System.map_request?_of_move hmove hcall.2, hcall.1, ← h.tasks]
      simp
    · obtain ⟨plan, hplan, hlabel, hfate⟩ := h.collected i o ho
      obtain ⟨v, hv, hov⟩ := Option.bind_eq_some_iff.1 hfate
      refine ⟨plan, hplan, hlabel, ?_⟩
      rw [hmove.task?_of_isOver hv (isOver_of_fate? hov)]
      exact hov

theorem exists_stands (h : run? tell (ofPlans word plans, s) acts = some (f, t)) :
    ∃ spawned, Stands tell word plans.length s spawned f t ∧ spawned ++ f.pending = plans := by
  refine run?_induction (P := fun _ q => ∃ spawned,
    Stands tell word plans.length s spawned q.1 q.2 ∧
    spawned ++ q.1.pending = plans) ⟨[], stands_ofPlans tell word plans s, rfl⟩ ?_ h
  rintro acts ⟨f, t⟩ act q - ⟨spawned, hstands, hsplit⟩ hm
  obtain ⟨spawned', hstands', hsplit'⟩ := hstands.of_move hm
  exact ⟨spawned', hstands', hsplit'.trans hsplit⟩

/-- The call goes as it was settled beforehand: the commands that end do so in their way, and the
tasks that are given up are those that are to be lost. -/
structure Conforms (tell : TaskId → String) (s : System) (fates : Nat → Fate) (acts : List Act) :
    Prop where
  told : ∀ i reason, fates i = .lost reason → tell (s.tasks.length + i) = reason
  ends : ∀ i answer, .finish (s.tasks.length + i) answer ∈ acts → fates i = .answered answer
  lost : ∀ i, .drop (s.tasks.length + i) ∈ acts → ∃ reason, fates i = .lost reason

def stage : Fate → Stage
  | .answered answer => .answered answer
  | .lost _ => .dropped

theorem exists_events_mem (h : run? tell (f, s) acts = some (g, t)) :
    ∃ events, s.run? events = some t ∧ .shutDown ∉ events ∧
      (∀ id answer, .finish id answer ∈ events ↔ .finish id answer ∈ acts) ∧
      ∀ id, .drop id ∈ events ↔ .drop id ∈ acts := by
  obtain ⟨events, hr, hs, hturns⟩ := exists_events h
  have hmem {e : Event} (he : e.task?.isSome) : e ∈ events ↔ ∃ act ∈ acts, act.event? = some e := by
    rw [← List.mem_filterMap, ← hturns, List.mem_filter]
    simp [he]
  refine ⟨events, hr, hs, fun id answer => (hmem rfl).trans ⟨?_, fun h => ⟨_, h, rfl⟩⟩,
    fun id => (hmem rfl).trans ⟨?_, fun h => ⟨_, h, rfl⟩⟩⟩
  · rintro ⟨act, hact, he⟩
    cases act <;> cases he
    exact hact
  · rintro ⟨act, hact, he⟩
    cases act <;> cases he
    exact hact

variable {k : Nat}

theorem eq_of_isOver (hs : s.Serving k) (hr : run? tell (f, s) acts = some (g, t))
    (hc : Conforms tell s fates acts) {i : Nat} {u : Task}
    (hu : t.task? (s.tasks.length + i) = some u) (ho : u.isOver = true) {request : Request}
    (hreq : u.request? = some request) :
    u = .submission request (stage (fates i)) := by
  obtain ⟨events, hrun, hquiet, hfinish, hdrop⟩ := exists_events_mem hr
  have hnew : s.task? (s.tasks.length + i) = none := List.getElem?_eq_none (Nat.le_add_right ..)
  cases u with
  | shutdown => cases hreq
  | submission r st =>
    obtain rfl := Option.some.inj hreq
    cases st with
    | answered answer =>
      have hend := (hs.ended_of_answered hrun hquiet hnew hu).2
      rw [hc.ends i answer ((hfinish _ _).1 ((System.mem_endings_iff hrun).1 hend))]
      rfl
    | dropped =>
      have hlost : .drop (s.tasks.length + i) ∈ events := by
        by_contra hnot
        exact System.not_dropped_of_run? hrun hnew hnot r hu
      obtain ⟨reason, hi⟩ := hc.lost i ((hdrop _).1 hlost)
      rw [hi]
      rfl
    | _ => cases ho

theorem Conforms.fate?_stage (hc : Conforms tell s fates acts) (i : Nat) (request : Request) :
    (Task.submission request (stage (fates i))).fate? (tell (s.tasks.length + i)) =
      some (fates i) := by
  cases h : fates i with
  | answered answer => rfl
  | lost reason => simp [stage, Task.fate?, hc.told i reason h]

theorem Stands.exists_outcome {spawned : List Plan} {count : Nat}
    (h : Stands tell word count s spawned f t) (ha : f.awaited = []) {i : Nat} {u : Task}
    (hu : t.task? (s.tasks.length + i) = some u) :
    ∃ plan o, spawned[i]? = some plan ∧ f.outcomes[i]? = some o ∧ o.label = plan.label ∧
      u.fate? (tell (s.tasks.length + i)) = some o.fate := by
  have hlt : i < f.outcomes.length := by
    have hdrop := congrArg List.length h.awaited
    have htask := (List.getElem?_eq_some_iff.1 hu).1
    rw [h.length_eq] at htask
    simp [ha] at hdrop
    omega
  have ho := List.getElem?_eq_getElem hlt
  obtain ⟨plan, hplan, hlabel, hfate⟩ := h.collected i _ ho
  rw [hu, Option.bind_some] at hfate
  exact ⟨plan, _, hplan, ho, hlabel, hfate⟩

theorem of_isDone (hs : s.Serving k) (hr : run? tell (ofPlans word plans, s) acts = some (f, t))
    (hc : Conforms tell s fates acts) (hd : f.isDone = true) :
    t.tasks.drop s.tasks.length =
      plans.zipIdx.map (fun p => .submission (p.1.invocation.request true) (stage (fates p.2))) ∧
    f.outcomes = plans.zipIdx.map (fun p => ⟨p.1.label, fates p.2⟩) ∧
    f.outputs = Report.heading word plans.length :: plans.map Report.announcement ++
      f.outcomes.flatMap Report.outcome := by
  obtain ⟨spawned, h, hsplit⟩ := exists_stands hr
  rw [isDone, Bool.and_eq_true, List.isEmpty_iff, List.isEmpty_iff] at hd
  obtain ⟨hpending, hawaited⟩ := hd
  obtain rfl : spawned = plans := by simpa [hpending] using hsplit
  have htask {i : Nat} {plan : Plan} (hi : spawned[i]? = some plan) :
      t.task? (s.tasks.length + i) =
        some (.submission (plan.invocation.request true) (stage (fates i))) ∧
      f.outcomes[i]? = some ⟨plan.label, fates i⟩ := by
    obtain ⟨u, hu, hreq⟩ := h.exists_task? hi
    obtain ⟨plan', o, hplan', ho, hlabel, hfate⟩ := h.exists_outcome hawaited hu
    obtain rfl := Option.some.inj (hi.symm.trans hplan')
    obtain rfl := eq_of_isOver hs hr hc hu (isOver_of_fate? hfate) hreq
    rw [hc.fate?_stage] at hfate
    refine ⟨hu, ?_⟩
    rw [ho, Option.some.inj hfate, ← hlabel]
  have hnone {i : Nat} (hi : spawned[i]? = none) : f.outcomes[i]? = none := by
    cases ho : f.outcomes[i]? with
    | none => rfl
    | some o =>
      obtain ⟨plan, hplan, -⟩ := h.collected i o ho
      cases hi.symm.trans hplan
  refine ⟨List.ext_getElem? fun i => ?_, List.ext_getElem? fun i => ?_, h.outputs⟩
  · rw [List.getElem?_drop, List.getElem?_map, List.getElem?_zipIdx]
    cases hi : spawned[i]? with
    | some plan => simpa [System.task?] using (htask hi).1
    | none =>
      refine List.getElem?_eq_none ?_
      rw [h.length_eq]
      exact Nat.add_le_add_left (List.getElem?_eq_none_iff.1 hi) _
  · rw [List.getElem?_map, List.getElem?_zipIdx]
    cases hi : spawned[i]? with
    | some plan => simpa using (htask hi).2
    | none => simpa using hnone hi

theorem Conforms.concat (hc : Conforms tell s fates acts)
    (he : ∀ i answer, act = .finish (s.tasks.length + i) answer → fates i = .answered answer)
    (hl : ∀ i, act = .drop (s.tasks.length + i) → ∃ reason, fates i = .lost reason) :
    Conforms tell s fates (acts ++ [act]) := by
  refine ⟨hc.told, fun i answer hmem => ?_, fun i hmem => ?_⟩
  · rcases List.mem_append.1 hmem with hold | hnew
    · exact hc.ends i answer hold
    · exact he i answer (List.mem_singleton.1 hnew).symm
  · rcases List.mem_append.1 hmem with hold | hnew
    · exact hc.lost i hold
    · exact hl i (List.mem_singleton.1 hnew).symm

theorem exists_fate? {u : Task} {request : Request} (hreq : u.request? = some request)
    (ho : u.isOver = true) (reason : String) : ∃ fate, u.fate? reason = some fate := by
  cases u with
  | shutdown => cases hreq
  | submission r st => cases st <;> first | exact ⟨_, rfl⟩ | cases ho

/-- Where a task can go on, one can in a way that agrees with what was settled. -/
theorem Conforms.exists_turn (hc : Conforms tell s fates acts) (hbusy : ¬t.Settled) (f : Fanout) :
    ∃ act q, step? tell (f, t) act = some q ∧ Conforms tell s fates (acts ++ [act]) := by
  simp only [System.Settled, not_forall, not_and_or, ← ne_eq, Option.ne_none_iff_exists'] at hbusy
  obtain ⟨j, ⟨v, hv⟩ | ⟨answer, v, hv⟩⟩ := hbusy
  · exact ⟨.advance j, (f, v), by rw [step?, hv]; rfl, hc.concat (by simp) (by simp)⟩
  · obtain ⟨r, hj⟩ := System.runs_of_step?_finish hv
    -- a command of the call ends in its own way, or its task is given up
    by_cases hown : ∃ i, j = s.tasks.length + i
    · obtain ⟨i, rfl⟩ := hown
      cases hi : fates i with
      | answered own =>
        obtain ⟨w, hw⟩ := System.exists_step?_finish ⟨r, hj⟩ own
        refine ⟨.finish (s.tasks.length + i) own, (f, w), by rw [step?, hw]; rfl,
          hc.concat ?_ (by simp)⟩
        simp only [Act.finish.injEq, Nat.add_left_cancel_iff]
        rintro _ _ ⟨rfl, rfl⟩
        exact hi
      | lost reason =>
        obtain ⟨w, hw⟩ := System.exists_step?_drop ⟨r, hj⟩
        refine ⟨.drop (s.tasks.length + i), (f, w), by rw [step?, hw]; rfl,
          hc.concat (by simp) ?_⟩
        simp only [Act.drop.injEq, Nat.add_left_cancel_iff]
        rintro _ rfl
        exact ⟨reason, hi⟩
    · refine ⟨.finish j answer, (f, v), by rw [step?, hv]; rfl, hc.concat ?_ (by simp)⟩
      rw [not_exists] at hown
      simp [hown]

/-- As long as the call is not done, something can happen that agrees with what was settled. -/
theorem exists_step? (hs : s.Serving k) (hr : run? tell (ofPlans word plans, s) acts = some (f, t))
    (hc : Conforms tell s fates acts) (hd : f.isDone = false) :
    ∃ act q, step? tell (f, t) act = some q ∧ Conforms tell s fates (acts ++ [act]) := by
  obtain ⟨spawned, h, -⟩ := exists_stands hr
  cases hp : f.pending with
  | cons plan rest => exact ⟨.spawn, _, spawn?_of_pending hp, hc.concat (by simp) (by simp)⟩
  | nil =>
    cases ha : f.awaited with
    | nil => simp [isDone, hp, ha] at hd
    | cons next rest =>
      obtain ⟨plan, hplan, -, hid, -⟩ := h.next ha
      obtain ⟨u, hu, hreq⟩ := h.exists_task? hplan
      rw [← hid] at hu
      cases ho : u.isOver with
      | true =>
        obtain ⟨fate, hfate⟩ := exists_fate? hreq ho (tell next.2)
        have hmove : Move tell (f, t) .collect _ := .collect hp ha (by rw [hu]; exact hfate)
        exact ⟨.collect, _, step?_of_move hmove, hc.concat (by simp) (by simp)⟩
      | false =>
        -- nobody waits but for somebody who can go on
        obtain ⟨events, hrun, hquiet, -⟩ := exists_events hr
        have hregular := (hs.of_run? hrun hquiet).regular
        refine hc.exists_turn (fun hsettled => ?_) f
        rw [System.isOver_of_settled hregular hsettled hu] at ho
        cases ho

/-- A call that is done has gone as if the outcomes that it has had been settled beforehand. -/
theorem exists_conforms (hr : run? tell (ofPlans word plans, s) acts = some (f, t))
    (hd : f.isDone = true) :
    ∃ fates, Conforms tell s fates acts := by
  obtain ⟨events, hrun, -, hfinish, hdrop⟩ := exists_events_mem hr
  obtain ⟨spawned, h, -⟩ := exists_stands hr
  rw [isDone, Bool.and_eq_true, List.isEmpty_iff, List.isEmpty_iff] at hd
  let fates (i : Nat) : Fate :=
    (f.outcomes[i]?.map (·.fate)).getD (.lost (tell (s.tasks.length + i)))
  refine ⟨fates, fun i reason hi => ?_, fun i answer hmem => ?_, fun i hmem => ?_⟩
  · cases ho : f.outcomes[i]? with
    | none => simpa [fates, ho] using hi
    | some o =>
      obtain ⟨plan, -, -, hcollected⟩ := h.collected i o ho
      obtain ⟨u, -, hu⟩ := Option.bind_eq_some_iff.1 hcollected
      rw [show o.fate = .lost reason by simpa [fates, ho] using hi] at hu
      unfold Task.fate? at hu
      split at hu <;> simp_all
  · have hend := (System.mem_endings_iff hrun).2 ((hfinish _ _).2 hmem)
    obtain ⟨request, st, hu, hst⟩ := System.stage_of_mem_endings hrun hend
    obtain ⟨-, o, -, ho, -, hof⟩ := h.exists_outcome hd.2 hu
    rcases hst with rfl | rfl
    · cases hof
    · simpa [fates, ho] using (Option.some.inj hof).symm
  · obtain ⟨u, hu, rfl | ⟨request, rfl⟩⟩ := System.dropped_of_mem hrun ((hdrop _).2 hmem)
    · obtain ⟨-, o, -, -, -, hof⟩ := h.exists_outcome hd.2 hu
      cases hof
    · obtain ⟨-, o, -, ho, -, hof⟩ := h.exists_outcome hd.2 hu
      exact ⟨_, by simpa [fates, ho] using (Option.some.inj hof).symm⟩

def actsLeft (p : Fanout × System) : Nat :=
  10 * p.1.pending.length + p.1.awaited.length + p.2.turnsLeft

theorem Move.actsLeft_lt (h : Move tell p act q) : actsLeft q < actsLeft p := by
  cases h with
  | spawn h => simp [actsLeft, h, System.turnsLeft, Task.turnsLeft]; omega
  | collect hp ha => simp [actsLeft, ha]
  | @turn _ _ _ act _ he h =>
    have hlt := (System.move_of_step? h).turnsLeft_lt (by rintro _ rfl; cases act <;> cases he)
      (by rintro rfl; cases act <;> cases he)
    exact Nat.add_lt_add_left hlt _

theorem length_add_actsLeft_le (hr : run? tell p acts = some q) :
    acts.length + actsLeft q ≤ actsLeft p := by
  refine run?_induction (P := fun acts q => acts.length + actsLeft q ≤ actsLeft p) (by simp) ?_ hr
  intro acts q act r _ hle hm
  have hlt := hm.actsLeft_lt
  simp
  omega

end Shorthand.Fanout
