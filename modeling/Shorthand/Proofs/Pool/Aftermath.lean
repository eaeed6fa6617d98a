import Shorthand.Proofs.Pool.Ledger
import Shorthand.Proofs.Pool.Precedence
import Shorthand.Proofs.Pool.Progress
/-!
What a shutdown leaves behind. Who asked for a slot before it is served, who comes later is refused
and leaves no trace, and when it has returned no command is started any more.
-/
set_option autoImplicit false

namespace Shorthand.System

variable {s t : System} {e : Event} {k : Nat} {id : TaskId}

/-- The counts are zero, and every entry is that of a submission that is still on its way. -/
structure Swept (s : System) : Prop where
  listed : s.Listed []
  completed : s.pool.completed = 0
  failed : s.pool.failed = 0

theorem Swept.of_reset (hpool : ∃ p : Pool, t.pool = p.reset) : t.Swept := by
  obtain ⟨p, hp⟩ := hpool
  refine ⟨⟨?_, ?_⟩, ?_, ?_⟩
  · rw [hp]
    exact List.nodup_nil
  · rw [hp]
    exact fun _ he => nomatch he
  · rw [hp]
    rfl
  · rw [hp]
    rfl

/-- Without a command that runs nothing is counted, and nothing is left behind. -/
theorem Swept.of_move (hm : s.Move e t) (h : s.Swept)
    (hrun : ∀ id request, s.task? id ≠ some (.submission request .running)) : t.Swept := by
  have hlisted : t.Listed [] := by
    have hl := h.listed.of_move hm
    have hnone : s.abandons e = [] := by
      cases e with
      | drop id =>
        simp only [abandons]
        split
        · exact absurd ‹_› (hrun id _)
        · rfl
      | _ => rfl
    rw [hnone] at hl
    exact hl
  cases hm with
  | finish hid => exact absurd hid (hrun _ _)
  | repeatClosed | repeatGranted | clear => exact ⟨hlisted, rfl, rfl⟩
  | _ => exact ⟨hlisted, h.completed, h.failed⟩

theorem not_running_of_hasDrained (h : s.Regular k) (hk : s.pool.shutdownCount = k)
    (hd : s.hasDrained = true) (id : TaskId) (request : Request) :
    s.task? id ≠ some (.submission request .running) := by
  intro hid
  obtain ⟨j, c, hj, rfl | rfl⟩ := exists_of_hasDrained hd
  · exact h.not_served_of_holder hk hj (.inr (.inr rfl)) hid rfl
  · exact h.not_served_of_isClosed hk (h.closed_iff.2 ⟨j, hj⟩) hid rfl

theorem pool_of_clear (hm : s.Move (.advance id) t) (hid : s.task? id = some (.shutdown .holding)) :
    t.pool = s.pool.reset := by
  have hstep := step?_of_move hm
  simp only [step?, hid, advanceShutdown, Option.some.injEq] at hstep
  rw [← hstep]
  rfl

theorem swept_of_move (hm : s.Move e t) (h : s.Regular k) (hk : s.pool.shutdownCount = k)
    (hs : s.hasDrained = true → s.Swept) (hd : t.hasDrained = true) : t.Swept := by
  cases hd' : s.hasDrained with
  | true => exact (hs hd').of_move hm (not_running_of_hasDrained h hk hd')
  | false =>
    have hnot {j : TaskId} {c : Closing} (hj : s.task? j = some (.shutdown c))
      (hc : c = .cleared ∨ c = .returned) :
        False := absurd ((hasDrained_of_task? hj hc).symm.trans hd') (by decide)
    obtain ⟨j, c, hj, hc⟩ := exists_of_hasDrained hd
    rcases hm.exists_shutdown hj with ⟨-, rfl⟩ | ⟨c', hc', rfl | ⟨-, rfl⟩ | hturn⟩
    · rcases hc with hc | hc <;> cases hc
    · exact absurd hc (hnot hc')
    · rcases hc with hc | hc <;> cases hc
    · cases hturn with
      | clear => exact .of_reset ⟨_, pool_of_clear hm hc'⟩
      | close => exact (hnot hc' (.inl rfl)).elim
      | repeated _ hclosed =>
        obtain ⟨i, hi⟩ := h.closed_iff.1 hclosed
        exact (hnot hi (.inr rfl)).elim
      | stopAccepting | waitAll | holdAll | dropShutdown => rcases hc with hc | hc <;> cases hc

theorem entries_eq_nil (h : s.Swept)
    (hover : ∀ id request stage, s.task? id = some (.submission request stage) →
      stage = .arrived ∨ (Task.submission request stage).isOver = true) : s.pool.entries = [] := by
  rw [List.eq_nil_iff_forall_not_mem]
  intro entry he
  obtain ⟨u, hu, hfit⟩ := h.listed.fits entry he
  cases u with
  | shutdown c => exact hfit
  | submission request stage =>
    rcases hover _ _ _ hu with rfl | ho
    · exact hfit
    · cases stage with
      | answered answer => exact hfit
      | dropped => cases hfit.2
      | _ => cases ho

theorem metrics_eq (h : s.Swept) (he : s.pool.entries = []) : s.pool.metrics = {} := by
  simp [Pool.metrics, he, h.completed, h.failed]

/-- Whoever has not been accepted when the pool stops accepting is refused or given up. -/
theorem late_of_move {C : Request → Stage → Prop} (hm : s.Move e t)
    (ha : s.pool.isAccepting = false) (harrived : ∀ request, C request .arrived)
    (hrefused : ∀ request, C request (.answered request.refusal))
    (hdropped : ∀ request, C request .dropped)
    (hC : ∀ request stage, C request stage →
      stage = .arrived ∨ (Task.submission request stage).isOver = true)
    (h : ∀ request stage, s.task? id = some (.submission request stage) → C request stage)
    (request : Request) (stage : Stage) (hid : t.task? id = some (.submission request stage)) :
    C request stage := by
  rcases hm.exists_submission hid with ⟨-, rfl⟩ | ⟨stage', hid', rfl | ⟨rfl, -⟩ | hturn⟩
  · exact harrived request
  · exact h request stage hid'
  · rcases hC request _ (h request _ hid') with hc | hc <;> cases hc
  · have hbefore := hC request stage' (h request stage' hid')
    have hover := hturn.isOver_eq_false
    rcases hbefore with rfl | ho
    · cases hturn with
      | accept _ hc => exact absurd (hc.symm.trans ha) (by decide)
      | reject => exact hrefused request
      | drop => exact hdropped request
      | hold _ hs => rcases hs with hs | hs <;> cases hs
      | refuse _ hs => rcases hs with hs | hs | hs <;> cases hs
    · exact absurd (ho.symm.trans hover) (by decide)

/-- A submission stays out: it has not been accepted yet, or is refused or given up. -/
def Stage.IsOut (request : Request) (stage : Stage) : Prop :=
  stage = .arrived ∨ stage = .dropped ∨ stage = .answered request.refusal

theorem Stage.IsOut.arrived_or_isOver {request : Request} {stage : Stage}
    (h : IsOut request stage) :
    stage = .arrived ∨ (Task.submission request stage).isOver = true := by
  rcases h with h | rfl | rfl
  · exact .inl h
  · exact .inr rfl
  · exact .inr rfl

/-- The request of a submission comes after that of a shutdown that is not given up, or its call
after the pool has stopped accepting. -/
def ComesTooLate (s t : System) (id : TaskId) : Prop :=
  ((∃ j, s.ShutdownAsked j ∧ t.task? j ≠ some (.shutdown .dropped)) ∧
    ∀ u, s.task? id = some u → u.standing = .before) ∨
  s.pool.isAccepting = false ∧ ∀ request stage,
    s.task? id = some (.submission request stage) → stage = .arrived

section Run

variable {capacity : Nat} {events before after : List Event}

theorem swept_of_run? (hcap : capacity ≤ Nat.pow 2 32 - 1)
    (hr : (ofPool (.ofCapacity capacity)).run? events = some t) (hd : t.hasDrained = true) :
    t.Swept := by
  let P (_ : List Event) (u : System) : Prop := u.hasDrained = true → u.Swept
  have hstart : P [] (ofPool (.ofCapacity capacity)) := fun hd => nomatch hd
  have hstep {events : List Event} {u : System} {e : Event} {v : System}
      (hr : (ofPool (.ofCapacity capacity)).run? events = some u) (ih : P events u)
      (hm : u.Move e v) :
      P (events ++ [e]) v :=
    swept_of_move hm (Regular.of_run? hr (Regular.ofPool capacity))
      (shutdownCount_of_run? hcap hr) ih
  exact run?_induction (P := P) hstart hstep hr hd

theorem started_eq_nil (hcap : capacity ≤ Nat.pow 2 32 - 1)
    (hs : (ofPool (.ofCapacity capacity)).run? before = some s) (ht : s.run? after = some t)
    (hc : s.pool.slots.isClosed = true) : s.started after = [] := by
  let P (events : List Event) (u : System) : Prop :=
    u.pool.slots.isClosed = true ∧ s.started events = []
  have hstep {events : List Event} {u : System} {e : Event} {v : System}
      (hr : s.run? events = some u) (ih : P events u) (hm : u.Move e v) : P (events ++ [e]) v := by
    have hrun := run?_of_run? hs hr
    have hregular := Regular.of_run? hrun (Regular.ofPool capacity)
    refine ⟨hm.isClosed_mono ih.1, List.eq_nil_iff_forall_not_mem.2 ?_⟩
    intro id hid
    rcases (mem_started_concat hr hm).1 hid with hid | ⟨-, request, hholding⟩
    · rw [ih.2] at hid
      cases hid
    · exact hregular.not_served_of_isClosed (shutdownCount_of_run? hcap hrun) ih.1 hholding rfl
  exact (run?_induction (P := P) ⟨hc, rfl⟩ hstep ht).2

theorem over_of_run? (ha : s.pool.isAccepting = false) (ht : s.run? after = some t)
    (hover : ∀ id request stage, s.task? id = some (.submission request stage) →
      (Task.submission request stage).isOver = true)
    (id : TaskId) (request : Request) (stage : Stage)
    (hid : t.task? id = some (.submission request stage)) :
    stage = .arrived ∨ (Task.submission request stage).isOver = true := by
  let C (request : Request) (stage : Stage) : Prop :=
    stage = .arrived ∨ (Task.submission request stage).isOver = true
  let P (_ : List Event) (u : System) : Prop :=
    u.pool.isAccepting = false ∧ ∀ request stage,
      u.task? id = some (.submission request stage) → C request stage
  have hstep {events : List Event} {u : System} {e : Event} {v : System}
      (_ : s.run? events = some u) (ih : P events u) (hm : u.Move e v) : P (events ++ [e]) v :=
    ⟨isAccepting_of_move hm ih.1, late_of_move hm ih.1 (fun _ => .inl rfl) (fun _ => .inr rfl)
      (fun _ => .inr rfl) (fun _ _ h => h) ih.2⟩
  have hall := run?_induction (P := P)
    ⟨ha, fun request stage h => .inr (hover id request stage h)⟩ hstep ht
  exact hall.2 request stage hid

theorem isOut_of_run? (hs : (ofPool (.ofCapacity capacity)).run? before = some s)
    (ht : s.run? after = some t) (ha : s.pool.isAccepting = false)
    (hid : ∀ request stage, s.task? id = some (.submission request stage) → stage = .arrived) :
    (∀ request stage, t.task? id = some (.submission request stage) → Stage.IsOut request stage) ∧
      id ∉ (ofPool (.ofCapacity capacity)).started (before ++ after) := by
  let start := ofPool (.ofCapacity capacity)
  let P (events : List Event) (u : System) : Prop := u.pool.isAccepting = false ∧
    (∀ request stage, u.task? id = some (.submission request stage) → Stage.IsOut request stage) ∧
    id ∉ start.started (before ++ events)
  have hstart : P [] s := by
    refine ⟨ha, fun request stage h => .inl (hid request stage h), ?_⟩
    rw [List.append_nil]
    apply (Recorded.of_run? hs).not_started
    intro u hu p q hrecords
    cases u with
    | submission request stage =>
      obtain rfl := hid request stage hu
      exact hrecords
    | shutdown c => exact hrecords
  have hstep {events : List Event} {u : System} {e : Event} {v : System}
      (hr : s.run? events = some u) (ih : P events u) (hm : u.Move e v) : P (events ++ [e]) v := by
    refine ⟨isAccepting_of_move hm ih.1,
      late_of_move hm ih.1 (fun _ => .inl rfl) (fun _ => .inr (.inr rfl))
      (fun _ => .inr (.inl rfl)) (fun _ _ => Stage.IsOut.arrived_or_isOver) ih.2.1, ?_⟩
    rw [← List.append_assoc, mem_started_concat (run?_of_run? hs hr) hm]
    rintro (hstarted | ⟨-, request, hholding⟩)
    · exact ih.2.2 hstarted
    · rcases ih.2.1 request _ hholding with h | h | h <;> cases h
  exact (run?_induction (P := P) hstart hstep ht).2

theorem refused_of_comesTooLate (hcap : capacity ≤ Nat.pow 2 32 - 1)
    (hs : (ofPool (.ofCapacity capacity)).run? before = some s) (ht : s.run? after = some t)
    (hlate : s.ComesTooLate t id) :
    id ∉ (ofPool (.ofCapacity capacity)).started (before ++ after) ∧
      ∀ request answer, t.task? id = some (.submission request (.answered answer)) →
        answer = request.refusal := by
  rcases hlate with ⟨⟨j, hj, hd⟩, hid⟩ | ⟨ha, hid⟩
  · have hnot : id ∉ (ofPool (.ofCapacity capacity)).started before := by
      apply (Recorded.of_run? hs).not_started
      intro u hu p q hrecords
      have hbefore := hid u hu
      cases u with
      | submission request stage => cases stage <;> first | exact hrecords | cases hbefore
      | shutdown c => exact hrecords
    obtain ⟨hbehind, hstarted⟩ := (behind_of_asked hj hid).of_run? hcap hs ht hnot hd
    exact ⟨hstarted, fun request answer h => (hbehind.unserved request _ h).2 answer rfl⟩
  · obtain ⟨hout, hstarted⟩ := isOut_of_run? hs ht ha hid
    refine ⟨hstarted, ?_⟩
    intro request answer h
    rcases hout request _ h with h | h | h
    · cases h
    · cases h
    · exact Stage.answered.inj h

end Run

/-- Wherever a run of a pool of at most `2 ^ 32 - 1` slots is cut: what is in flight there, with no
shutdown before it, is not refused; what comes too late there is refused and not started; nothing is
started after a shutdown has returned; and when all submissions are over then, no entry and no count
is left, and none comes back. What can go on does so only finitely often without new calls, and ends
with all tasks over. -/
theorem shutdown_serves_and_refuses {capacity : Nat} (hcap : capacity ≤ Nat.pow 2 32 - 1)
    {before after : List Event} {s t : System}
    (hs : (ofPool (.ofCapacity capacity)).run? before = some s) (ht : s.run? after = some t) :
    (∀ id, s.InFlight id → (∀ j, s.ShutdownAsked j → t.task? j ≠ some (.shutdown .returned)) →
      (∃ request, t.task? id = some (.submission request .dropped)) ∨
        (ofPool (.ofCapacity capacity)).AnsweredInRun (before ++ after) t id ∨
          t.InFlight id ∧ ¬t.Settled) ∧
    (∀ id, s.ComesTooLate t id → id ∉ (ofPool (.ofCapacity capacity)).started (before ++ after) ∧
      ∀ request stage, t.task? id = some (.submission request stage) →
        stage = .dropped ∨ stage = .answered request.refusal ∨
          (Task.submission request stage).isOver = false ∧ ¬t.Settled) ∧
    (∀ j, s.task? j = some (.shutdown .returned) → s.started after = [] ∧
      ((∀ id request stage, s.task? id = some (.submission request stage) →
        (Task.submission request stage).isOver = true) →
          t.pool.entries = [] ∧ t.pool.metrics = {})) ∧
    (t.Settled → ∀ id u, t.task? id = some u → u.isOver = true) ∧
    ∀ events u, t.run? events = some u →
      (∀ e ∈ events, e.task? ≠ none) → events.length ≤ t.turnsLeft := by
  have hrun := run?_of_run? hs ht
  have hregular := Regular.of_run? hrun (Regular.ofPool capacity)
  have hregular' := Regular.of_run? hs (Regular.ofPool capacity)
  have hend : t.Settled → ∀ id u, t.task? id = some u → u.isOver = true :=
    fun hsettled id u hid => isOver_of_settled hregular hsettled hid
  refine ⟨?_, ?_, ?_, hend, ?_⟩
  · intro id hflight hothers
    rcases (ahead_of_inFlight hflight).of_run? hcap hs ht hothers with
      ⟨request, stage, hid, hstanding⟩ | hdropped | hanswered
    · have hflight' : t.InFlight id := ⟨request, stage, hid, hstanding.symm.imp_left And.left⟩
      refine .inr (.inr ⟨hflight', ?_⟩)
      intro hsettled
      obtain ⟨u, hu, ho⟩ := hflight'.exists_not_isOver
      exact absurd ((hend hsettled id u hu).symm.trans ho) (by decide)
    · exact .inl hdropped
    · exact .inr (.inl hanswered)
  · intro id hlate
    obtain ⟨hstarted, hrefused⟩ := refused_of_comesTooLate hcap hs ht hlate
    refine ⟨hstarted, ?_⟩
    intro request stage hid
    cases ho : (Task.submission request stage).isOver with
    | true =>
      cases stage with
      | dropped => exact .inl rfl
      | answered answer => exact .inr (.inl (congrArg Stage.answered (hrefused request answer hid)))
      | _ => cases ho
    | false =>
      refine .inr (.inr ⟨rfl, ?_⟩)
      intro hsettled
      exact absurd ((hend hsettled id _ hid).symm.trans ho) (by decide)
  · intro j hj
    have hclosed := hregular'.closed_iff.2 ⟨j, hj⟩
    refine ⟨started_eq_nil hcap hs ht hclosed, ?_⟩
    intro hover
    have haccepting : s.pool.isAccepting = false :=
      ((hregular'.refuses j _ hj).resolve_left (by decide)).resolve_left (by decide)
    have hdrained := hasDrained_of_task? (task?_of_run?_of_isOver ht hj rfl) (.inr rfl)
    have hswept := swept_of_run? hcap hrun hdrained
    have hnil := entries_eq_nil hswept (over_of_run? haccepting ht hover)
    exact ⟨hnil, metrics_eq hswept hnil⟩
  · intro events u hu hcalls
    exact Nat.le_trans (Nat.le_add_right _ _) (length_add_turnsLeft_le hu hcalls)

/-- In a pool with one slot the command of task 0 runs, task 1 waits, and task 2 is accepted, when a
shutdown has stopped that. -/
def raceBefore : List Event :=
  launch { program := "sleep" } 0 ++
  [.submit { program := "true" }, .advance 1, .advance 1, .advance 1, .submit { program := "ls" },
    .advance 2, .shutDown, .advance 3]

/-- The shutdown asks for its slot before task 2, and more calls come; all tasks go on until they
are over. -/
def raceEnd : List Event :=
  [.advance 2, .advance 2, .submit { program := "pwd" }, .advance 4, .shutDown, .advance 5,
    .advance 5, .finish 0 (.ok { code := 0 }), .advance 0, .advance 1, .advance 1,
    .finish 1 (.ok { code := 1 }), .advance 1, .advance 3, .advance 3, .advance 3, .advance 2,
    .advance 5]

def raceAfter : List Event :=
  [.submit { program := "date" }, .shutDown, .advance 7, .advance 7, .advance 6]

def raceAt (events : List Event) : System :=
  ((ofPool (.ofCapacity 1)).run? events).getD (ofPool (.ofCapacity 1))

def raceAsked : System := raceAt (raceBefore ++ [.advance 3])

def raceOver : System := raceAt (raceBefore ++ .advance 3 :: raceEnd)

theorem shutdown_serves_and_refuses_race :
    (ofPool (.ofCapacity 1)).run? (raceBefore ++ .advance 3 :: raceEnd) = some raceOver ∧
    (ofPool (.ofCapacity 1)).AnsweredInRun (raceBefore ++ .advance 3 :: raceEnd) raceOver 1 ∧
    2 ∉ (ofPool (.ofCapacity 1)).started (raceBefore ++ .advance 3 :: raceEnd) ∧
    4 ∉ (ofPool (.ofCapacity 1)).started (raceBefore ++ .advance 3 :: raceEnd) ∧
    raceOver.started raceAfter = [] ∧
    (raceAt (raceBefore ++ .advance 3 :: (raceEnd ++ raceAfter))).pool.metrics = {} := by
  have hbefore : (ofPool (.ofCapacity 1)).run? raceBefore = some (raceAt raceBefore) := by decide
  have hasked :
      (ofPool (.ofCapacity 1)).run? (raceBefore ++ [.advance 3]) = some raceAsked := by decide
  have hover : (ofPool (.ofCapacity 1)).run? (raceBefore ++ .advance 3 :: raceEnd) =
    some raceOver := by decide
  have hserve : (raceAt raceBefore).run? (.advance 3 :: raceEnd) = some raceOver := by decide
  have hrefuse : raceAsked.run? raceEnd = some raceOver := by decide
  have hafter : raceOver.run? raceAfter =
    some (raceAt (raceBefore ++ .advance 3 :: (raceEnd ++ raceAfter))) := by
    decide
  have hfirst := shutdown_serves_and_refuses (by decide) hbefore hserve
  have hsecond := shutdown_serves_and_refuses (by decide) hasked hrefuse
  have hthird := shutdown_serves_and_refuses (by decide) hover hafter
  refine ⟨hover, ?_, ?_, ?_, (hthird.2.2.1 3 (by decide)).1, ?_⟩
  · have hanswered : raceOver.task? 1 =
      some (.submission { program := "true" } (.answered (.ok { code := 1 }))) := by decide
    have hothers : ∀ j, (raceAt raceBefore).ShutdownAsked j →
      raceOver.task? j ≠ some (.shutdown .returned) := by
      rintro j ⟨c, hc, hstanding⟩
      have htasks : (raceAt raceBefore).tasks = [.submission { program := "sleep" } .running,
        .submission { program := "true" } .waiting, .submission { program := "ls" } .admitted,
        .shutdown .refusing] := by decide
      have hmem := List.mem_of_getElem? hc
      rw [htasks] at hmem
      obtain rfl : c = .refusing := by simpa using hmem
      rcases hstanding with h | h <;> cases h
    have hflight : (raceAt raceBefore).InFlight 1 :=
      ⟨{ program := "true" }, .waiting, by decide, .inl rfl⟩
    rcases hfirst.1 1 hflight hothers with ⟨request, hd⟩ | hrun | ⟨⟨request, stage, hf, hs⟩, -⟩
    · rw [hanswered] at hd
      cases hd
    · exact hrun
    · rw [hanswered] at hf
      cases hf
      rcases hs with hs | hs <;> cases hs
  · have hlate : raceAsked.ComesTooLate raceOver 2 := by
      refine .inl ⟨⟨3, ⟨.waiting, by decide, .inl rfl⟩, by decide⟩, ?_⟩
      intro u hu
      have htask : raceAsked.task? 2 = some (.submission { program := "ls" } .admitted) := by decide
      rw [htask] at hu
      cases hu
      rfl
    exact List.append_assoc raceBefore _ _ ▸ (hsecond.2.1 2 hlate).1
  · have hlate : raceAsked.ComesTooLate raceOver 4 := by
      refine .inr ⟨by decide, ?_⟩
      intro request stage hu
      have htask : raceAsked.task? 4 = none := by decide
      rw [htask] at hu
      cases hu
    exact List.append_assoc raceBefore _ _ ▸ (hsecond.2.1 4 hlate).1
  · have hall : ∀ u ∈ raceOver.tasks, u.isOver = true := by decide
    exact ((hthird.2.2.1 3 (by decide)).2 fun id request stage hid =>
      hall _ (List.mem_of_getElem? hid)).2

end Shorthand.System
