import Shorthand.Proofs.Pool.Precedence
import Shorthand.Proofs.Pool.Serving
set_option autoImplicit false

namespace Shorthand

/-- Whoever has asked does not go back to before it. -/
theorem Task.Turn.standing_ne_before {p : Pool} {id : TaskId} {e : Event} {a b : Task}
    (h : Turn p id e a b) (ha : a.standing ≠ .before) : b.standing ≠ .before := by
  cases h with
  | accept | enter | stopAccepting => exact absurd rfl ha
  | _ => exact fun hb => nomatch hb

namespace System

variable {s t u : System} {events : List Event} {e : Event} {k : Nat} {id : TaskId}

/-- The submissions that ask for a slot in a run, in the order in which they do. -/
def asked (s : System) (events : List Event) : List TaskId := s.along (leaves .entered) events

def GivenUp (s : System) (id : TaskId) : Prop :=
  ∃ request, s.task? id = some (.submission request .dropped)

/-- A slot is kept for the submission, and its command will be started at its next turns. -/
def IsNext (s : System) (id : TaskId) : Prop :=
  ∃ request stage, s.task? id = some (.submission request stage) ∧
    (stage = .granted ∨ stage = .holding)

theorem GivenUp.of_move (hm : s.Move e t) (h : s.GivenUp id) : t.GivenUp id := by
  obtain ⟨request, hid⟩ := h
  exact ⟨request, hm.task?_of_isOver hid rfl⟩

theorem mem_asked_concat (hr : s.run? events = some t) (hm : t.Move e u) :
    id ∈ s.asked (events ++ [e]) ↔ id ∈ s.asked events ∨
      e = .advance id ∧ ∃ request, t.task? id = some (.submission request .entered) := by
  rw [asked, along_concat hr hm, List.mem_append, mem_leaves]
  rfl

/-- Two that ask in a run, one after the other: both before its last step, or the second one in
it. -/
theorem pair_sublist_concat (hr : s.run? events = some t) (hm : t.Move e u) {a b : TaskId}
    (h : [a, b].Sublist (s.asked (events ++ [e]))) :
    [a, b].Sublist (s.asked events) ∨ a ∈ s.asked events ∧ b ∈ leaves .entered t e := by
  rw [asked, along_concat hr hm] at h
  obtain ⟨l, r, heq, hl, hr⟩ := List.sublist_append_iff.1 h
  match l, r with
  | [], [_, _] =>
    obtain ⟨rfl, rfl⟩ : _ ∧ _ := by simpa [eq_comm] using heq
    have ha := (mem_leaves.1 (hr.subset List.mem_cons_self)).1
    have hb := (mem_leaves.1 (hr.subset (List.mem_cons_of_mem _ List.mem_cons_self))).1
    obtain rfl := Event.advance.inj (ha.symm.trans hb)
    have hnodup := (leaves_nodup _ _ _).sublist hr
    simp at hnodup
  | [_], [_] =>
    obtain ⟨rfl, rfl⟩ : _ ∧ _ := by simpa [eq_comm] using heq
    exact .inr ⟨List.singleton_sublist.1 hl, List.singleton_sublist.1 hr⟩
  | [_, _], [] =>
    rw [heq, List.append_nil]
    exact .inl hl

structure InOrder (s : System) (events : List Event) (t : System) : Prop where
  past : ∀ id ∈ s.asked events, ∃ request stage, t.task? id = some (.submission request stage) ∧
    (Task.submission request stage).standing ≠ .before
  noted : ∀ id request stage, t.task? id = some (.submission request stage) →
    (Task.submission request stage).standing ≠ .before → id ∈ s.asked events ∨ t.GivenUp id
  /-- While a submission waits, those that asked after it wait behind it, or are given up. -/
  order : ∀ a b, [a, b].Sublist (s.asked events) →
    t.Waits a → b ∉ s.started events ∧ (t.Before a b ∨ t.GivenUp b)

namespace InOrder

theorem past_concat (hr : s.run? events = some t) (hm : t.Move e u) (h : s.InOrder events t)
    (id : TaskId) (hid : id ∈ s.asked (events ++ [e])) :
    ∃ request stage, u.task? id = some (.submission request stage) ∧
      (Task.submission request stage).standing ≠ .before := by
  have hkeep {request : Request} {stage : Stage}
      (hold : t.task? id = some (.submission request stage))
      (hpast : ∀ v, u.task? id = some v → v.standing ≠ .before) :
      ∃ request stage, u.task? id = some (.submission request stage) ∧
        (Task.submission request stage).standing ≠ .before := by
    obtain ⟨stage', hstage⟩ := hm.exists_stage hold
    exact ⟨request, stage', hstage, hpast _ hstage⟩
  rcases (mem_asked_concat hr hm).1 hid with hid | ⟨rfl, request, hentered⟩
  · obtain ⟨request, stage, hold, hpast⟩ := h.past id hid
    refine hkeep hold fun v hv => ?_
    obtain ⟨w, hw, rfl | rfl | hturn⟩ := hm.exists_task? hold
    · obtain rfl := Option.some.inj (hw.symm.trans hv)
      exact hpast
    · obtain rfl := Option.some.inj (hw.symm.trans hv)
      rw [Task.standing_grant]
      split
      · decide
      · exact hpast
    · obtain rfl := Option.some.inj (hw.symm.trans hv)
      exact hturn.standing_ne_before hpast
  · refine hkeep hentered fun v hv => ?_
    obtain ⟨a, b, ha, hb, hturn⟩ := hm.exists_turn rfl
    obtain rfl := Option.some.inj (hentered.symm.trans ha)
    obtain rfl := Option.some.inj (hb.symm.trans hv)
    cases hturn <;> exact fun hb => nomatch hb

theorem noted_concat (hr : s.run? events = some t) (hm : t.Move e u) (ht : t.Serving k)
    (h : s.InOrder events t) (id : TaskId) (request : Request) (stage : Stage)
    (hid : u.task? id = some (.submission request stage))
    (hpast : (Task.submission request stage).standing ≠ .before) :
    id ∈ s.asked (events ++ [e]) ∨ u.GivenUp id := by
  have hold {stage : Stage} (hid : t.task? id = some (.submission request stage))
      (hpast : (Task.submission request stage).standing ≠ .before) :
      id ∈ s.asked (events ++ [e]) ∨ u.GivenUp id :=
    (h.noted id request stage hid hpast).imp (fun hid => (mem_asked_concat hr hm).2 (.inl hid))
      (·.of_move hm)
  rcases hm.exists_submission hid with ⟨-, rfl⟩ | ⟨stage', hid', rfl | ⟨rfl, -⟩ | hturn⟩
  · exact absurd rfl hpast
  · exact hold hid' hpast
  · exact hold hid' fun hb => nomatch hb
  · by_cases hbefore : (Task.submission request stage').standing = .before
    · cases hturn with
      | wait => exact .inl ((mem_asked_concat hr hm).2 (.inr ⟨rfl, request, hid'⟩))
      | hold _ hs =>
        rcases hs with rfl | rfl
        · exact .inl ((mem_asked_concat hr hm).2 (.inr ⟨rfl, request, hid'⟩))
        · cases hbefore
      | drop => exact .inr ⟨request, hid⟩
      | reject _ ha => exact absurd (ha.symm.trans ht.accepting) (by decide)
      | refuse _ _ hc => exact absurd (hc.symm.trans ht.isClosed_eq_false) (by decide)
      | accept | enter => exact absurd rfl hpast
      | run | finish | answer => cases hbefore
    · exact hold hid' hbefore

/-- A submission that stood in the queue and is gone without being answered was given up. -/
theorem givenUp_of_gone (hm : t.Move e u) (ht : t.Serving k) (hq : id ∈ t.queue)
    (hanswered : ∀ request answer, u.task? id ≠ some (.submission request (.answered answer)))
    {v : Task} (hv : u.task? id = some v) (hgone : v.standing = .gone) : u.GivenUp id := by
  obtain ⟨w, hw, hwaits⟩ := ht.regular.accounts.waits_of_mem hq
  rcases ht.cases_task hw with ⟨request, stage, rfl⟩ | rfl
  · obtain ⟨stage', hstage⟩ := hm.exists_stage hw
    obtain rfl := Option.some.inj (hstage.symm.trans hv)
    cases stage' with
    | answered answer => exact absurd hv (hanswered request answer)
    | dropped => exact ⟨request, hv⟩
    | _ => cases hgone
  · cases hwaits

theorem order_concat (hr : s.run? events = some t) (hm : t.Move e u) (ht : t.Serving k)
    (hu : u.Serving k) (hrec : s.Recorded events t)
    (hanswered : ∀ id request answer, u.task? id = some (.submission request (.answered answer)) →
      id ∈ s.started (events ++ [e]))
    (h : s.InOrder events t) (a b : TaskId) (hab : [a, b].Sublist (s.asked (events ++ [e])))
    (hwait : u.Waits a) :
    b ∉ s.started (events ++ [e]) ∧ (u.Before a b ∨ u.GivenUp b) := by
  have hopen := hu.isClosed_eq_false
  have hwaited (ha : a ∈ s.asked events) : t.Waits a := by
    obtain ⟨v, hv, hbefore | hwaits⟩ := hm.exists_of_waits hwait
    · obtain ⟨request, stage, hid, hpast⟩ := h.past a ha
      obtain rfl := Option.some.inj (hv.symm.trans hid)
      exact absurd hbefore hpast
    · exact ⟨v, hv, hwaits⟩
  rcases pair_sublist_concat hr hm hab with hab | ⟨ha, hb⟩
  · obtain ⟨hnot, hbehind⟩ := h.order a b hab (hwaited (hab.subset List.mem_cons_self))
    have hnot' : b ∉ s.started (events ++ [e]) := by
      rw [mem_started_concat hr hm]
      rintro (hs | ⟨-, request, hholding⟩)
      · exact hnot hs
      · rcases hbehind with hqueue | ⟨request', hdropped⟩
        · obtain ⟨v, hv, hwaits⟩ := ht.regular.accounts.waits_of_mem hqueue.right_mem
          obtain rfl := Option.some.inj (hholding.symm.trans hv)
          cases hwaits
        · cases hholding.symm.trans hdropped
    refine ⟨hnot', ?_⟩
    rcases hbehind with hqueue | hdropped
    · rcases hqueue.of_move hm ht.regular hwait hopen with hqueue' | ⟨v, hv, hgone⟩
      · exact .inl hqueue'
      · refine .inr (givenUp_of_gone hm ht hqueue.right_mem (fun request answer hid => ?_) hv hgone)
        exact hnot' (hanswered b request answer hid)
    · exact .inr (hdropped.of_move hm)
  · -- The second one asks in this very step; the first one is in the queue, so no slot is free.
    obtain ⟨rfl, request, hentered⟩ := mem_leaves.1 hb
    have hmem : a ∈ t.queue := ht.regular.inLine ht.isClosed_eq_false a (hwaited ha)
    have hnot : b ∉ s.started events := hrec.known b _ hentered
    constructor
    · rw [mem_started_concat hr hm]
      rintro (hs | ⟨-, request', hholding⟩)
      · exact hnot hs
      · cases hentered.symm.trans hholding
    · obtain ⟨v, w, hv, hw, hturn⟩ := hm.exists_turn rfl
      obtain rfl := Option.some.inj (hentered.symm.trans hv)
      have hunserved :=
        standing_ne_served_of_queue hm ht.regular hmem ht.isClosed_eq_false hentered rfl hw
      cases hturn with
      | wait =>
        exact .inl (before_of_enqueue hm ht.regular hmem hwait hentered rfl ⟨_, hw, rfl⟩ hopen)
      | hold => exact absurd rfl hunserved
      | refuse _ _ hc => exact absurd (hc.symm.trans ht.isClosed_eq_false) (by decide)

theorem of_run? {capacity : Nat} (hr : (System.ofPool (.ofCapacity capacity)).run? events = some t)
    (hs : .shutDown ∉ events) : (System.ofPool (.ofCapacity capacity)).InOrder events t := by
  let start := System.ofPool (.ofCapacity capacity)
  have hserving : start.Serving (max capacity 1) := .ofPool capacity
  have hstart : start.InOrder [] start := by
    constructor
    · exact fun _ hid => nomatch hid
    · exact fun _ _ _ hid => (by cases hid)
    · exact fun _ _ hab => (by cases hab)
  refine run?_induction (P := fun events t => .shutDown ∉ events → start.InOrder events t)
    (fun _ => hstart) ?_ hr hs
  intro events t e u hrun ih hm hs
  have hrun' : start.run? (events ++ [e]) = some u :=
    run?_of_run? hrun (run?_of_step? (step?_of_move hm) rfl)
  have hanswered (id : TaskId) (request : Request) (answer : Answer)
      (hid : u.task? id = some (.submission request (.answered answer))) :
      id ∈ start.started (events ++ [e]) :=
    (hserving.ended_of_answered hrun' hs rfl hid).1
  have hs' := hs
  rw [List.mem_append, List.mem_singleton, not_or] at hs'
  have ht := hserving.of_run? hrun hs'.1
  have h := ih hs'.1
  refine ⟨h.past_concat hrun hm, h.noted_concat hrun hm ht, ?_⟩
  exact h.order_concat hrun hm ht (hserving.of_run? hrun' hs) (Recorded.of_run? hrun) hanswered

theorem started_or_isNext (h : s.InOrder events t) (hrec : s.Recorded events t)
    (hanswered : ∀ id request answer, t.task? id = some (.submission request (.answered answer)) →
      id ∈ s.started events) {a b : TaskId}
    (hab : [a, b].Sublist (s.asked events)) (hb : b ∈ s.started events) :
    a ∈ s.started events ∨ t.GivenUp a ∨ t.IsNext a := by
  obtain ⟨request, stage, hid, hpast⟩ := h.past a (hab.subset List.mem_cons_self)
  have hwaits : (Task.submission request stage).standing ≠ .waits :=
    fun hwaits => (h.order a b hab ⟨_, hid, hwaits⟩).1 hb
  cases stage with
  | arrived | admitted | entered => exact absurd rfl hpast
  | waiting => exact absurd rfl hwaits
  | granted => exact .inr (.inr ⟨request, _, hid, .inl rfl⟩)
  | holding => exact .inr (.inr ⟨request, _, hid, .inr rfl⟩)
  | running => exact .inl (hrec.known a _ hid)
  | finished => exact .inl (hrec.known a _ hid).1
  | answered answer => exact .inl (hanswered a request answer hid)
  | dropped => exact .inr (.inl ⟨request, hid⟩)

end InOrder

theorem not_isNext_of_polled (h : s.Polled) : ¬s.IsNext id := by
  rintro ⟨request, stage, hid, rfl | rfl⟩ <;>
    rcases waits_or_isRunning_of_polled h hid rfl with ⟨hwaits, -⟩ | hrunning
  · cases hwaits
  · cases hrunning
  · cases hwaits
  · cases hrunning

/-- Without a shutdown, whatever ends in whatever way and whatever is given up at whatever time:
each slot is free or held by a submission; while a submission waits, those that asked after it wait
behind it or are given up and were not started; and a submission is started only after each that
asked before it has its slot or was given up. Once all tasks have gone on as far as they can, every
submission has asked or was given up, nobody is queued or as many submissions run as there are
slots, and whoever asked before one that was started was started or given up. -/
theorem slots_kept_and_served_in_order {capacity : Nat} {events : List Event} {s : System}
    (hr : (ofPool (.ofCapacity capacity)).run? events = some s) (hs : .shutDown ∉ events) :
    s.pool.slots.free + s.tasks.countP Task.hasSlot = max capacity 1 ∧
    (∀ a b, [a, b].Sublist ((ofPool (.ofCapacity capacity)).asked events) →
      (s.Waits a → b ∉ (ofPool (.ofCapacity capacity)).started events ∧
        (s.Before a b ∨ s.GivenUp b)) ∧
      (b ∈ (ofPool (.ofCapacity capacity)).started events →
        a ∈ (ofPool (.ofCapacity capacity)).started events ∨ s.GivenUp a ∨ s.IsNext a)) ∧
    (s.Polled →
      (∀ id < s.tasks.length, id ∈ (ofPool (.ofCapacity capacity)).asked events ∨ s.GivenUp id) ∧
      (s.pool.metrics.queued = 0 ∧ (∀ id, ¬s.Waits id) ∨
        s.tasks.countP Task.isRunning = max capacity 1) ∧
      ∀ a b, [a, b].Sublist ((ofPool (.ofCapacity capacity)).asked events) →
        b ∈ (ofPool (.ofCapacity capacity)).started events →
        a ∈ (ofPool (.ofCapacity capacity)).started events ∨ s.GivenUp a) := by
  let start := ofPool (.ofCapacity capacity)
  have hserving := (Serving.ofPool capacity).of_run? hr hs
  have horder := InOrder.of_run? hr hs
  have hfifo (a b : TaskId) (hab : [a, b].Sublist (start.asked events))
    (hb : b ∈ start.started events) :
      a ∈ start.started events ∨ s.GivenUp a ∨ s.IsNext a :=
    horder.started_or_isNext (Recorded.of_run? hr)
      (fun _ _ _ hid => ((Serving.ofPool capacity).ended_of_answered hr hs rfl hid).1) hab hb
  refine ⟨hserving.free_add_countP, fun a b hab => ⟨horder.order a b hab, hfifo a b hab⟩,
    fun hp => ⟨fun id hid => ?_, ?_, fun a b hab hb => ?_⟩⟩
  · -- Only submissions were called.
    have htask : s.task? id = some s.tasks[id] := List.getElem?_eq_getElem hid
    rcases hserving.cases_task htask with ⟨request, stage, hu⟩ | hu
    · rw [hu] at htask
      exact horder.noted id request stage htask (standing_ne_before_of_polled hp htask)
    · have hshutdown : (s.tasks.map Task.request?)[id]? = some none := by
        rw [List.getElem?_map, List.getElem?_eq_getElem hid, hu]
        rfl
      rw [map_request?_of_run? hr hs] at hshutdown
      obtain ⟨_, -, hnone⟩ := List.mem_map.1 (List.mem_of_getElem? hshutdown)
      cases hnone
  · by_cases hw : ∃ id, s.Waits id
    · obtain ⟨id, hw⟩ := hw
      exact .inr ((hserving.countP_hasSlot hp).symm.trans (hserving.countP_hasSlot_of_waits hw))
    · have hnone (id : TaskId) : ¬s.Waits id := fun hid => hw ⟨id, hid⟩
      exact .inl ⟨hserving.queued_eq_zero hp hnone, hnone⟩
  · rcases hfifo a b hab hb with hstarted | hdropped | hnext
    · exact .inl hstarted
    · exact .inr hdropped
    · exact absurd hnext (not_isNext_of_polled hp)

/-- Six submissions queue behind one that fails: one is given up in the queue, one when the slot was
handed to it and it has not noticed, and one while its command runs; the command of another does not
start. -/
def roughRun : List Event :=
  launch { program := "false" } 0 ++
  ([1, 2, 3, 4, 5, 6].flatMap fun id =>
    [.submit { program := "true" }, .advance id, .advance id, .advance id]) ++
  [.drop 2, .finish 0 (.ok { code := 1 }), .advance 0, .drop 1, .advance 3, .advance 3, .drop 3,
    .advance 4, .advance 4, .finish 4 (.error (.notStarted "true" .notFound)), .advance 4,
    .advance 5, .advance 5]

def afterRoughRun : System := ((ofPool (.ofCapacity 1)).run? roughRun).getD (ofPool (.ofCapacity 1))

theorem slots_kept_and_served_in_order_roughRun :
    (ofPool (.ofCapacity 1)).run? roughRun = some afterRoughRun ∧
      .shutDown ∉ roughRun ∧ afterRoughRun.Polled ∧
    (ofPool (.ofCapacity 1)).asked roughRun = [0, 1, 2, 3, 4, 5, 6] ∧
    (ofPool (.ofCapacity 1)).started roughRun = [0, 3, 4, 5] ∧
    afterRoughRun.tasks.countP Task.isRunning = max 1 1 ∧ afterRoughRun.GivenUp 1 := by
  have hr : (ofPool (.ofCapacity 1)).run? roughRun = some afterRoughRun := by decide +kernel
  have hs : .shutDown ∉ roughRun := by decide
  have hp : afterRoughRun.Polled := by
    intro id
    have hall : ∀ id < 7, afterRoughRun.step? (.advance id) = none := by decide +kernel
    have hlength : afterRoughRun.tasks.length = 7 := by decide +kernel
    rcases Nat.lt_or_ge id 7 with hlt | hge
    · exact hall id hlt
    · have hnone : afterRoughRun.task? id = none := List.getElem?_eq_none (hlength ▸ hge)
      simp only [step?, hnone]
  have hasked : (ofPool (.ofCapacity 1)).asked roughRun = [0, 1, 2, 3, 4, 5, 6] := by decide +kernel
  have hstarted : (ofPool (.ofCapacity 1)).started roughRun = [0, 3, 4, 5] := by decide +kernel
  have hpair : [1, 5].Sublist ((ofPool (.ofCapacity 1)).asked roughRun) := by
    rw [hasked]
    decide
  obtain ⟨-, -, hpolled⟩ := slots_kept_and_served_in_order hr hs
  obtain ⟨-, hbusy, horder⟩ := hpolled hp
  refine ⟨hr, hs, hp, hasked, hstarted, hbusy.resolve_left fun hidle => ?_, ?_⟩
  · have hqueued : afterRoughRun.pool.metrics.queued = 1 := by decide +kernel
    exact absurd (hqueued.symm.trans hidle.1) (by decide)
  · refine (horder 1 5 hpair ?_).resolve_left ?_ <;> rw [hstarted] <;> decide

end System

end Shorthand
