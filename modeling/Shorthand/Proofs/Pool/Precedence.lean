import Shorthand.Proofs.Pool.Closure
import Shorthand.Proofs.Pool.Records
set_option autoImplicit false

namespace Shorthand

theorem sublist_of_not_mem {a b : TaskId} {front rest : List TaskId}
    (h : [a, b].Sublist (front ++ rest)) (ha : a ∉ front) : [a, b].Sublist rest := by
  obtain ⟨l, r, heq, hl, hr⟩ := List.sublist_append_iff.1 h
  cases l with
  | nil =>
    rw [List.nil_append] at heq
    rw [heq]
    exact hr
  | cons x l =>
    obtain ⟨rfl, -⟩ := List.cons.inj heq
    exact absurd (hl.subset List.mem_cons_self) ha

namespace System

variable {s t : System} {e : Event} {k : Nat} {a b : TaskId}

/-- A submission waits for a slot or has one. -/
def InFlight (s : System) (id : TaskId) : Prop :=
  ∃ request stage, s.task? id = some (.submission request stage) ∧
    ((Task.submission request stage).standing = .waits ∨
      (Task.submission request stage).standing = .served)

theorem InFlight.exists_not_isOver {id : TaskId} (h : s.InFlight id) :
    ∃ u, s.task? id = some u ∧ u.isOver = false := by
  obtain ⟨request, stage, hid, hstanding⟩ := h
  refine ⟨_, hid, ?_⟩
  cases stage <;> first | rfl | (rcases hstanding with h | h <;> cases h)

/-- A shutdown has asked for its slots, and is not given up. -/
def ShutdownAsked (s : System) (id : TaskId) : Prop :=
  ∃ c, s.task? id = some (.shutdown c) ∧
    ((Task.shutdown c).standing = .waits ∨ (Task.shutdown c).standing = .served)

/-- One task comes before another one in the queue. -/
def Before (s : System) (a b : TaskId) : Prop := [a, b].Sublist s.queue

theorem Before.left_mem (h : s.Before a b) : a ∈ s.queue := h.subset List.mem_cons_self

theorem Before.right_mem (h : s.Before a b) : b ∈ s.queue :=
  h.subset (List.mem_cons_of_mem a List.mem_cons_self)

/-- As long as the first of two waits, the second one stays behind it or gives up. -/
theorem Before.of_move (hm : s.Move e t) (h : s.Regular k) (hb : s.Before a b) (hwait : t.Waits a)
    (hopen : t.pool.slots.isClosed = false) :
    t.Before a b ∨ ∃ v, t.task? b = some v ∧ v.standing = .gone := by
  obtain ⟨u, hu, hwaits⟩ := hwait
  obtain ⟨ua, hua, hwa⟩ := h.accounts.waits_of_mem hb.left_mem
  obtain ⟨ub, hub, hwb⟩ := h.accounts.waits_of_mem hb.right_mem
  rcases hm.cases_turn with ⟨new, rfl, -⟩ | ⟨id, old, new, hid, hturn, hdeal⟩
  · exact .inl hb
  · obtain ⟨served, kept, hqueue, htasks, hlast | ⟨hclosed, -, -⟩⟩ :=
      hdeal.exists_served h.accounts hid
    · have hda : a ≠ id := by
        rintro rfl
        obtain rfl := Option.some.inj (hua.symm.trans hid)
        have hnew := htasks a
        rw [if_pos rfl, hu] at hnew
        obtain rfl := Option.some.inj hnew
        exact hturn.standing_ne_waits hwa hwaits
      have hserved : a ∉ served := by
        intro hmem
        have hgrant := htasks a
        rw [if_neg hda, if_pos hmem, hua, hu] at hgrant
        obtain rfl := Option.some.inj hgrant
        exact ua.standing_grant_ne_waits hwaits
      by_cases hdb : b = id
      · subst hdb
        obtain rfl := Option.some.inj (hub.symm.trans hid)
        rcases hturn.of_waits hwb with hover | ⟨-, hc⟩
        · exact .inr ⟨new, by rw [htasks, if_pos rfl], hover⟩
        · exact absurd (hc.symm.trans (hm.isClosed_eq_false hopen)) (by decide)
      · have hboth : [a, b].Sublist (served ++ kept) := by
          rw [← hqueue]
          simpa [hda, hdb] using List.Sublist.filter (· ≠ id) hb
        refine .inl ?_
        rw [Before, hlast]
        exact (sublist_of_not_mem hboth hserved).trans (List.sublist_append_left _ _)
    · exact absurd (hclosed.symm.trans hopen) (by decide)

theorem before_of_enqueue (hm : s.Move e t) (h : s.Regular k) (ha : a ∈ s.queue) (hwait : t.Waits a)
    {u : Task} (hb : s.task? b = some u) (hbefore : u.standing = .before) (hb' : t.Waits b)
    (hopen : t.pool.slots.isClosed = false) : t.Before a b := by
  obtain ⟨ua, hua, hwa⟩ := h.accounts.waits_of_mem ha
  obtain ⟨va, hva, hwaits⟩ := hwait
  obtain ⟨vb, hvb, hwb⟩ := hb'
  have hne : a ≠ b := by
    rintro rfl
    obtain rfl := Option.some.inj (hua.symm.trans hb)
    rw [hwa] at hbefore
    cases hbefore
  rcases hm.cases_turn with ⟨new, rfl, -⟩ | ⟨id, old, new, hid, hturn, hdeal⟩
  · rw [task?_addTask hb] at hvb
    obtain rfl := Option.some.inj hvb
    rw [hwb] at hbefore
    cases hbefore
  · obtain ⟨served, kept, hqueue, htasks, hlast | ⟨hclosed, -, -⟩⟩ :=
      hdeal.exists_served h.accounts hid
    · have hbd : b = id := by
        by_contra hbd
        have hsame := htasks b
        rw [if_neg hbd, hb, hvb] at hsame
        split at hsame
        · obtain rfl := Option.some.inj hsame
          exact u.standing_grant_ne_waits hwb
        · obtain rfl := Option.some.inj hsame
          rw [hwb] at hbefore
          cases hbefore
      subst hbd
      have hnew := htasks b
      rw [if_pos rfl, hvb] at hnew
      obtain rfl := Option.some.inj hnew
      have hserved : a ∉ served := by
        intro hmem
        have hgrant := htasks a
        rw [if_neg hne, if_pos hmem, hua, hva] at hgrant
        obtain rfl := Option.some.inj hgrant
        exact ua.standing_grant_ne_waits hwaits
      have hkept : a ∈ kept := by
        have hmem : a ∈ s.queue.filter (· ≠ b) := List.mem_filter.2 ⟨ha, by simpa using hne⟩
        rw [hqueue] at hmem
        exact (List.mem_append.1 hmem).resolve_left hserved
      rw [Before, hlast, if_pos hwb]
      exact (List.singleton_sublist.2 hkept).append (List.Sublist.refl [b])
    · exact absurd (hclosed.symm.trans hopen) (by decide)

/-- While somebody waits, nobody gets slots without waiting. -/
theorem standing_ne_served_of_queue (hm : s.Move e t) (h : s.Regular k) (ha : a ∈ s.queue)
    (hopen : s.pool.slots.isClosed = false) {u v : Task} (hb : s.task? b = some u)
    (hbefore : u.standing = .before) (hb' : t.task? b = some v) : v.standing ≠ .served := by
  have hgrant : u.grant.standing = .before := by
    rw [Task.standing_grant, if_neg (by rw [hbefore]; decide)]
    exact hbefore
  have hfull : s.pool.slots.free = 0 := by
    apply h.orderly.full
    intro hnil
    rw [queue, hnil] at ha
    cases ha
  rcases hm.cases_turn with ⟨new, rfl, -⟩ | ⟨id, old, new, hid, hturn, hdeal⟩
  · rw [task?_addTask hb] at hb'
    obtain rfl := Option.some.inj hb'
    rw [hbefore]
    decide
  · obtain ⟨change, ht⟩ := hdeal.exists_change
    rw [task?_of_tasks_eq hid ht, hb] at hb'
    split at hb'
    · subst_vars
      obtain rfl := Option.some.inj (hb.symm.trans hid)
      obtain rfl := Option.some.inj hb'
      have hnone : u.slots s.pool.shutdownCount = 0 := Task.slots_eq_zero (by rw [hbefore]; decide)
      have hpos := h.count_pos
      cases hturn with
      | hold | holdAll =>
        exact absurd (hdeal.free_pos hnone (by simp [Task.slots, hpos])) (by omega)
      | repeated _ hc => exact absurd (hc.symm.trans hopen) (by decide)
      | run | finish | clear | close => cases hbefore
      | _ =>
        intro hserved
        cases hserved
    · split at hb'
      · obtain rfl := Option.some.inj hb'
        rw [hgrant]
        decide
      · obtain rfl := Option.some.inj hb'
        rw [hbefore]
        decide

theorem Move.eq_of_gone (hm : s.Move e t) {id : TaskId} {u v : Task} (hu : s.task? id = some u)
    (ho : u.standing = .gone) (hv : t.task? id = some v) : u = v := by
  have hover : u.isOver = true := by
    cases u with
    | submission request stage => cases stage <;> first | rfl | cases ho
    | shutdown c => cases c <;> first | rfl | cases ho
  exact Option.some.inj ((hm.task?_of_isOver hu hover).symm.trans hv)

/-- A shutdown has not asked yet, has given up, or stands behind the submission in the queue. -/
def ComesLater (s : System) (id j : TaskId) : Prop :=
  ∀ c, s.task? j = some (.shutdown c) →
    (Task.shutdown c).standing = .before ∨ (Task.shutdown c).standing = .gone ∨ s.Before id j

theorem ComesLater.not_served {id j : TaskId} (h : s.Regular k) (hl : s.ComesLater id j)
    {c : Closing} (hj : s.task? j = some (.shutdown c)) : (Task.shutdown c).standing ≠ .served := by
  intro hserved
  rcases hl c hj with hbefore | hover | hqueue
  · rw [hserved] at hbefore
    cases hbefore
  · rw [hserved] at hover
    cases hover
  · obtain ⟨u, hu, hwaits⟩ := h.accounts.waits_of_mem hqueue.right_mem
    obtain rfl := Option.some.inj (hj.symm.trans hu)
    rw [hserved] at hwaits
    cases hwaits

theorem ComesLater.of_move {id j : TaskId} (hm : s.Move e t) (h : s.Regular k)
    (hl : s.ComesLater id j) (hid : id ∈ s.queue) (hwait : t.Waits id)
    (hopen : t.pool.slots.isClosed = false) :
    t.ComesLater id j := by
  intro c hc
  rcases hm.exists_shutdown hc with ⟨-, rfl⟩ | ⟨c', hc', -⟩
  · exact .inl rfl
  · rcases hl c' hc' with hbefore | hover | hqueue
    · cases hst : (Task.shutdown c).standing with
      | before => exact .inl rfl
      | gone => exact .inr (.inl rfl)
      | waits => exact .inr (.inr (before_of_enqueue hm h hid hwait hc' hbefore ⟨_, hc, hst⟩ hopen))
      | served =>
        exact absurd hst
          (standing_ne_served_of_queue hm h hid (hm.isClosed_eq_false hopen) hc' hbefore hc)
    · rw [hm.eq_of_gone hc' hover hc] at hover
      exact .inr (.inl hover)
    · rcases hqueue.of_move hm h hwait hopen with hqueue | ⟨v, hv, hover⟩
      · exact .inr (.inr hqueue)
      · obtain rfl := Option.some.inj (hc.symm.trans hv)
        exact .inr (.inl hover)

/-- The slots stay open as long as all shutdowns come later, but for some in `G` that never
return. -/
theorem isClosed_eq_false_of_comesLater {G : TaskId → Prop} {id : TaskId} (hm : s.Move e t)
    (h : s.Regular k) (hl : ∀ j, ¬G j → s.ComesLater id j)
    (hG : ∀ j, G j → t.task? j ≠ some (.shutdown .returned)) :
    t.pool.slots.isClosed = false := by
  have hopen : s.pool.slots.isClosed = false := by
    rw [Bool.eq_false_iff]
    intro hc
    obtain ⟨j, hj⟩ := h.closed_iff.1 hc
    by_cases hjG : G j
    · exact hG j hjG (hm.task?_of_isOver hj rfl)
    · exact (hl j hjG).not_served h hj rfl
  rw [Bool.eq_false_iff]
  intro hc
  rcases hm.cases_turn with ⟨new, rfl, -⟩ | ⟨j, old, new, hj, hturn, hdeal⟩
  · exact absurd (hc.symm.trans hopen) (by decide)
  · rcases hdeal.of_isClosed hc with hs | rfl
    · exact absurd (hs.symm.trans hopen) (by decide)
    · obtain ⟨change, ht⟩ := hdeal.exists_change
      by_cases hjG : G j
      · exact hG j hjG (by rw [task?_of_tasks_eq hj ht, if_pos rfl])
      · cases hturn with
        | close => exact (hl j hjG).not_served h hj rfl
        | repeated _ hs => exact absurd (hs.symm.trans hopen) (by decide)

/-- A submission has a slot, or waits for one and all shutdowns outside `G` come later. -/
def Ahead (G : TaskId → Prop) (s : System) (id : TaskId) : Prop :=
  ∃ request stage, s.task? id = some (.submission request stage) ∧
    ((Task.submission request stage).standing = .served ∨
      (Task.submission request stage).standing = .waits ∧ ∀ j, ¬G j → s.ComesLater id j)

/-- As long as nobody in `G` returns, a submission that is ahead stays so until it is answered or
given up. -/
theorem Ahead.of_move {G : TaskId → Prop} {id : TaskId} (hm : s.Move e t) (h : s.Regular k)
    (hk : s.pool.shutdownCount = k) (ha : s.Ahead G id)
    (hG : ∀ j, G j → t.task? j ≠ some (.shutdown .returned)) :
    t.Ahead G id ∨ (∃ request, t.task? id = some (.submission request .dropped)) ∨
      ∃ request answer, s.task? id = some (.submission request (.finished answer)) ∧
        t.task? id = some (.submission request (.answered answer)) := by
  obtain ⟨request, stage, hid, hserved | ⟨hwaits, hl⟩⟩ := ha
  · have hopen : s.pool.slots.isClosed = false := by
      rw [Bool.eq_false_iff]
      intro hc
      exact h.not_served_of_isClosed hk hc hid hserved
    obtain ⟨u, hu, rfl | rfl | hturn⟩ := hm.exists_task? hid
    · exact .inl ⟨request, stage, hu, .inl hserved⟩
    · have hsame : (Task.submission request stage).grant = .submission request stage := by
        cases stage <;> first | rfl | cases hserved
      rw [hsame] at hu
      exact .inl ⟨request, stage, hu, .inl hserved⟩
    · cases hturn with
      | accept | reject | enter | wait => cases hserved
      | hold | run | finish => exact .inl ⟨request, _, hu, .inl rfl⟩
      | refuse _ _ hc => exact absurd (hc.symm.trans hopen) (by decide)
      | answer _ answer => exact .inr (.inr ⟨request, answer, hid, hu⟩)
      | drop => exact .inr (.inl ⟨request, hu⟩)
  · have hstage : stage = .waiting := by cases stage <;> first | rfl | cases hwaits
    subst hstage
    have hopen' := isClosed_eq_false_of_comesLater hm h hl hG
    have hopen := hm.isClosed_eq_false hopen'
    have hmem : id ∈ s.queue := h.inLine hopen id ⟨_, hid, rfl⟩
    obtain ⟨u, hu, rfl | rfl | hturn⟩ := hm.exists_task? hid
    · exact .inl ⟨request, .waiting, hu, .inr ⟨rfl, fun j hj =>
        (hl j hj).of_move hm h hmem ⟨_, hu, rfl⟩ hopen'⟩⟩
    · exact .inl ⟨request, .granted, hu, .inl rfl⟩
    · cases hturn with
      | hold _ hs => rcases hs with hs | hs <;> cases hs
      | refuse _ _ hc => exact absurd (hc.symm.trans hopen) (by decide)
      | drop => exact .inr (.inl ⟨request, hu⟩)

theorem Move.exists_of_waits (hm : s.Move e t) {id : TaskId} (h : t.Waits id) :
    ∃ u, s.task? id = some u ∧ (u.standing = .before ∨ u.standing = .waits) := by
  obtain ⟨v, hv, hwaits⟩ := h
  rcases hm.exists_origin hv with ⟨-, ⟨_, rfl⟩ | rfl⟩ | ⟨u, hu, rfl | rfl | hturn⟩
  · cases hwaits
  · cases hwaits
  · exact ⟨v, hu, .inr hwaits⟩
  · exact absurd hwaits u.standing_grant_ne_waits
  · cases hturn with
    | wait | waitAll => exact ⟨_, hu, .inl rfl⟩
    | _ => cases hwaits

structure Behind (s : System) (j id : TaskId) : Prop where
  asked : s.ShutdownAsked j
  unserved : ∀ request stage, s.task? id = some (.submission request stage) →
    (Task.submission request stage).standing ≠ .served ∧
      ∀ answer, stage = .answered answer → answer = request.refusal
  later : s.pool.slots.isClosed = false → s.Waits j → s.Waits id → s.Before j id

namespace Behind

variable {j id : TaskId}

theorem asked_of_move (hm : s.Move e t) (hb : s.Behind j id)
    (hd : t.task? j ≠ some (.shutdown .dropped)) :
    t.ShutdownAsked j := by
  obtain ⟨c, hc, hasked⟩ := hb.asked
  obtain ⟨u, hu, rfl | rfl | hturn⟩ := hm.exists_task? hc
  · exact ⟨c, hu, hasked⟩
  · rcases (Task.shutdown c).grant_cases with hg | ⟨_, hg, -⟩ | ⟨-, hg⟩
    · rw [hg] at hu
      exact ⟨c, hu, hasked⟩
    · cases hg
    · rw [hg] at hu
      exact ⟨.granted, hu, .inr rfl⟩
  · cases hturn with
    | stopAccepting | waitAll => rcases hasked with h | h <;> cases h
    | holdAll | clear | close | repeated => exact ⟨_, hu, .inr rfl⟩
    | dropShutdown => exact absurd hu hd

theorem waits_of_move (hm : s.Move e t) (hb : s.Behind j id) (hwait : t.Waits j) : s.Waits j := by
  obtain ⟨c, hc, hwaits | hserved⟩ := hb.asked
  · exact ⟨_, hc, hwaits⟩
  · obtain ⟨u, hu, hbefore | hwaits⟩ := hm.exists_of_waits hwait
    · obtain rfl := Option.some.inj (hc.symm.trans hu)
      rw [hserved] at hbefore
      cases hbefore
    · exact ⟨u, hu, hwaits⟩

theorem not_served_of_move (hm : s.Move e t) (h : s.Regular k) (ht : t.Regular k)
    (hk : s.pool.shutdownCount = k) (hb : s.Behind j id)
    (hd : t.task? j ≠ some (.shutdown .dropped)) {request : Request} {stage : Stage}
    (hid : t.task? id = some (.submission request stage)) :
    (Task.submission request stage).standing ≠ .served := by
  have hkt : t.pool.shutdownCount = k := (shutdownCount_of_move hm).trans hk
  cases hopen : t.pool.slots.isClosed with
  | true => exact ht.not_served_of_isClosed hkt hopen hid
  | false =>
    obtain ⟨c, hc, hwaits | hserved⟩ := asked_of_move hm hb hd
    · -- The shutdown waits still, so no slot is free, and the queue is served in order.
      intro hserved
      have hopen' := hm.isClosed_eq_false hopen
      have hwait := waits_of_move hm hb ⟨_, hc, hwaits⟩
      have hmem := h.inLine hopen' j hwait
      rcases hm.exists_submission hid with ⟨-, rfl⟩ | ⟨stage', hid', -⟩
      · cases hserved
      · cases hst : (Task.submission request stage').standing with
        | before => exact standing_ne_served_of_queue hm h hmem hopen' hid' hst hid hserved
        | served => exact (hb.unserved request stage' hid').1 hst
        | waits =>
          have hqueue := hb.later hopen' hwait ⟨_, hid', hst⟩
          rcases hqueue.of_move hm h ⟨_, hc, hwaits⟩ hopen with hqueue | ⟨v, hv, hover⟩
          · obtain ⟨v, hv, hw⟩ := ht.accounts.waits_of_mem hqueue.right_mem
            obtain rfl := Option.some.inj (hid.symm.trans hv)
            rw [hserved] at hw
            cases hw
          · obtain rfl := Option.some.inj (hid.symm.trans hv)
            rw [hserved] at hover
            cases hover
        | gone =>
          rw [hm.eq_of_gone hid' hst hid, hserved] at hst
          cases hst
    · have hholder : c = .granted ∨ c = .holding ∨ c = .cleared := by
        cases c with
        | granted => exact .inl rfl
        | holding => exact .inr (.inl rfl)
        | cleared => exact .inr (.inr rfl)
        | returned => exact absurd ((ht.closed_iff.2 ⟨j, hc⟩).symm.trans hopen) (by decide)
        | arrived | refusing | waiting | dropped => cases hserved
      exact ht.not_served_of_holder hkt hc hholder hid

theorem of_move (hm : s.Move e t) (h : s.Regular k) (ht : t.Regular k)
    (hk : s.pool.shutdownCount = k) (hb : s.Behind j id)
    (hd : t.task? j ≠ some (.shutdown .dropped)) : t.Behind j id := by
  refine ⟨asked_of_move hm hb hd, ?_, ?_⟩
  · intro request stage hid
    refine ⟨not_served_of_move hm h ht hk hb hd hid, ?_⟩
    rintro answer rfl
    rcases hm.exists_submission hid with ⟨-, hnew⟩ | ⟨stage', hid', rfl | ⟨-, hg⟩ | hturn⟩
    · cases hnew
    · exact (hb.unserved request _ hid').2 answer rfl
    · cases hg
    · cases hturn with
      | reject | refuse => rfl
      | answer => exact absurd rfl (hb.unserved request _ hid').1
  · intro hopen hwait hwait'
    have hopen' := hm.isClosed_eq_false hopen
    have hj := waits_of_move hm hb hwait
    obtain ⟨u, hu, hbefore | hwaits⟩ := hm.exists_of_waits hwait'
    · exact before_of_enqueue hm h (h.inLine hopen' j hj) hwait hu hbefore hwait' hopen
    · rcases (hb.later hopen' hj ⟨u, hu, hwaits⟩).of_move hm h hwait hopen with hqueue
        | ⟨v, hv, hover⟩
      · exact hqueue
      · obtain ⟨w, hw, hwaits⟩ := hwait'
        obtain rfl := Option.some.inj (hv.symm.trans hw)
        rw [hover] at hwaits
        cases hwaits

end Behind

theorem ahead_of_inFlight {id : TaskId} (h : s.InFlight id) : s.Ahead s.ShutdownAsked id := by
  obtain ⟨request, stage, hid, hwaits | hserved⟩ := h
  · refine ⟨request, stage, hid, .inr ⟨hwaits, ?_⟩⟩
    intro j hj c hc
    cases hst : (Task.shutdown c).standing with
    | before => exact .inl rfl
    | gone => exact .inr (.inl rfl)
    | waits => exact absurd ⟨c, hc, .inl hst⟩ hj
    | served => exact absurd ⟨c, hc, .inr hst⟩ hj
  · exact ⟨request, stage, hid, .inl hserved⟩

theorem behind_of_asked {j id : TaskId} (hj : s.ShutdownAsked j)
    (hid : ∀ u, s.task? id = some u → u.standing = .before) : s.Behind j id := by
  refine ⟨hj, ?_, ?_⟩
  · intro request stage hstage
    have hbefore := hid _ hstage
    refine ⟨by rw [hbefore]; decide, ?_⟩
    rintro answer rfl
    cases hbefore
  · rintro - - ⟨u, hu, hwaits⟩
    rw [hid u hu] at hwaits
    cases hwaits

/-- A submission was started in a run, and is answered with the way in which its command ended. -/
def AnsweredInRun (s : System) (events : List Event) (t : System) (id : TaskId) : Prop :=
  ∃ request answer, t.task? id = some (.submission request (.answered answer)) ∧
    id ∈ s.started events ∧ (id, answer) ∈ s.endings events

section Run

variable {capacity : Nat} {before after : List Event} {j id : TaskId}

theorem shutdownCount_of_run? (hcap : capacity ≤ Nat.pow 2 32 - 1)
    (hs : (ofPool (.ofCapacity capacity)).run? before = some s) :
    s.pool.shutdownCount = max capacity 1 := by
  obtain ⟨-, -, hcapacity⟩ := of_run? hs (listed_ofPool capacity) (accounts_ofPool capacity _)
  have hmax : max capacity 1 ≤ Nat.pow 2 32 - 1 := Nat.max_le.2 ⟨hcap, by decide⟩
  rw [Pool.shutdownCount, hcapacity]
  exact Nat.min_eq_left hmax

theorem AnsweredInRun.concat {start u v : System} {events : List Event}
    (hr : start.run? events = some u) (hm : u.Move e v) (h : start.AnsweredInRun events u id) :
    start.AnsweredInRun (events ++ [e]) v id := by
  obtain ⟨request, answer, hid, hstarted, hended⟩ := h
  exact ⟨request, answer, hm.task?_of_isOver hid rfl, (mem_started_concat hr hm).2 (.inl hstarted),
    (mem_endings_concat hr hm).2 (.inl hended)⟩

theorem Ahead.of_run? {G : TaskId → Prop} (hcap : capacity ≤ Nat.pow 2 32 - 1)
    (hs : (ofPool (.ofCapacity capacity)).run? before = some s) (ht : s.run? after = some t)
    (ha : s.Ahead G id) (hG : ∀ j, G j → t.task? j ≠ some (.shutdown .returned)) :
    t.Ahead G id ∨ (∃ request, t.task? id = some (.submission request .dropped)) ∨
      (ofPool (.ofCapacity capacity)).AnsweredInRun (before ++ after) t id := by
  let start := ofPool (.ofCapacity capacity)
  let P (events : List Event) (u : System) : Prop :=
    (∀ j, G j → u.task? j ≠ some (.shutdown .returned)) →
    u.Ahead G id ∨ (∃ request, u.task? id = some (.submission request .dropped)) ∨
      start.AnsweredInRun (before ++ events) u id
  have hstep {events : List Event} {u : System} {e : Event} {v : System}
      (hr : s.run? events = some u) (ih : P events u) (hm : u.Move e v) : P (events ++ [e]) v := by
    intro hG
    have hrun := run?_of_run? hs hr
    have hregular := Regular.of_run? hrun (Regular.ofPool capacity)
    have hG' : ∀ j, G j → u.task? j ≠ some (.shutdown .returned) :=
      fun j hj hreturned => hG j hj (hm.task?_of_isOver hreturned rfl)
    rw [← List.append_assoc]
    rcases ih hG' with hahead | ⟨request, hdropped⟩ | hanswered
    · rcases hahead.of_move hm hregular (shutdownCount_of_run? hcap hrun) hG with
        hahead | hdropped | ⟨request, answer, hfinished, hanswered⟩
      · exact .inl hahead
      · exact .inr (.inl hdropped)
      · obtain ⟨hstarted, hended⟩ := (Recorded.of_run? hrun).known id _ hfinished
        exact .inr
          (.inr ⟨request, answer, hanswered, (mem_started_concat hrun hm).2 (.inl hstarted),
          (mem_endings_concat hrun hm).2 (.inl hended)⟩)
    · exact .inr (.inl ⟨request, hm.task?_of_isOver hdropped rfl⟩)
    · exact .inr (.inr (hanswered.concat hrun hm))
  exact run?_induction (P := P) (fun _ => .inl ha) hstep ht hG

/-- A submission that is behind a shutdown is not started, as long as the shutdown is not given
up. -/
theorem Behind.of_run? (hcap : capacity ≤ Nat.pow 2 32 - 1)
    (hs : (ofPool (.ofCapacity capacity)).run? before = some s) (ht : s.run? after = some t)
    (hb : s.Behind j id) (hid : id ∉ (ofPool (.ofCapacity capacity)).started before)
    (hd : t.task? j ≠ some (.shutdown .dropped)) :
    t.Behind j id ∧ id ∉ (ofPool (.ofCapacity capacity)).started (before ++ after) := by
  let start := ofPool (.ofCapacity capacity)
  let P (events : List Event) (u : System) : Prop := u.task? j ≠ some (.shutdown .dropped) →
    u.Behind j id ∧ id ∉ start.started (before ++ events)
  have hstart : P [] s := by
    intro _
    rw [List.append_nil]
    exact ⟨hb, hid⟩
  have hstep {events : List Event} {u : System} {e : Event} {v : System}
      (hr : s.run? events = some u) (ih : P events u) (hm : u.Move e v) : P (events ++ [e]) v := by
    intro hd
    have hrun := run?_of_run? hs hr
    have hregular := Regular.of_run? hrun (Regular.ofPool capacity)
    have hd' : u.task? j ≠ some (.shutdown .dropped) :=
      fun hdropped => hd (hm.task?_of_isOver hdropped rfl)
    obtain ⟨hbehind, hnot⟩ := ih hd'
    refine ⟨hbehind.of_move hm hregular (hregular.of_move hm) (shutdownCount_of_run? hcap hrun) hd,
      ?_⟩
    rw [← List.append_assoc, mem_started_concat hrun hm]
    rintro (hstarted | ⟨-, request, hholding⟩)
    · exact hnot hstarted
    · exact (hbehind.unserved request _ hholding).1 rfl
  exact run?_induction (P := P) hstart hstep ht hd

end Run

end System

end Shorthand
