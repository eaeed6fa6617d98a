import Mathlib.Data.List.Perm.Basic
import Shorthand.Proofs.Pool.Closure
/-!
What becomes of the submissions that a pool accepts. Until a shutdown has drained the pool, each of
them is in its entries, or has ended and is counted, or was given up in the queue; and it is only
one of these.
-/
set_option autoImplicit false

namespace Shorthand

/-- The code with which a command ended, if it ran at all. -/
def Answer.exitCode? : Answer → Option Nat
  | .ok ending => some ending.code
  | .error _ => none

theorem Answer.isSuccess_eq (answer : Answer) :
    answer.isSuccess = decide (answer.exitCode? = some 0) := by
  cases answer with
  | ok ending => simp [isSuccess, Ending.isSuccess, exitCode?]
  | error e => simp [isSuccess, exitCode?]

def Pool.ids (p : Pool) : List TaskId := p.entries.map (·.task)

def Stage.isYoung : Stage → Bool
  | .arrived | .admitted => true
  | _ => false

def Stage.isEntered : Stage → Bool
  | .entered | .waiting | .granted | .holding | .running => true
  | _ => false

namespace System

def withdraws (s : System) : Event → List TaskId
  | .drop id =>
    match s.task? id with
    | some (.submission _ .waiting) | some (.submission _ .granted) => [id]
    | _ => []
  | _ => []

/-- The submissions that are given up in the queue in a run. -/
def withdrawn (s : System) (events : List Event) : List TaskId := s.along withdraws events

/-- A shutdown has waited for its slots and dropped what the pool kept. It closes the slots and
returns without waiting any more. -/
def hasDrained (s : System) : Bool :=
  s.tasks.any fun u => u = .shutdown .cleared ∨ u = .shutdown .returned

def removes (s : System) (e : Event) : List TaskId := (ends s e).map (·.1) ++ s.withdraws e

structure Books (s : System) (e : Event) (t : System) : Prop where
  ids : t.pool.ids = s.pool.ids.filter (· ∉ s.removes e) ++ leaves .admitted s e
  completed : t.pool.completed = s.pool.completed + (ends s e).countP (·.2.isSuccess)
  failed : t.pool.failed = s.pool.failed + (ends s e).countP (!·.2.isSuccess)

theorem Books.of_eq {s t : System} {e : Event} (hentries : t.pool.ids = s.pool.ids)
    (hcompleted : t.pool.completed = s.pool.completed) (hfailed : t.pool.failed = s.pool.failed)
    (hends : ends s e = []) (hwithdraws : s.withdraws e = [])
    (hleaves : leaves .admitted s e = []) :
    s.Books e t := by
  refine ⟨?_, ?_, ?_⟩
  · rw [hentries, removes, hends, hwithdraws, hleaves]
    simp
  · rw [hcompleted, hends]
    rfl
  · rw [hfailed, hends]
    rfl

theorem ids_forget {s : System} {id : TaskId}
    (hrun : ∀ e ∈ s.pool.entries, e.task = id → e.isRunning = false) :
    (s.pool.forget id).ids = s.pool.ids.filter (· ≠ id) := by
  have hsame : (s.pool.forget id).entries = s.pool.entries.filter (·.task ≠ id) := by
    apply List.filter_congr
    intro e he
    by_cases heq : e.task = id
    · simp [heq, hrun e he heq]
    · simp [heq]
  rw [Pool.ids, hsame, Pool.ids, List.filter_map]
  rfl

theorem Books.withdraw {s t : System} {id : TaskId} {request : Request} {stage : Stage}
    (hid : s.task? id = some (.submission request stage)) (hs : stage = .waiting ∨ stage = .granted)
    (hl : s.Listed []) (hentries : t.pool.ids = (s.pool.forget id).ids)
    (hcompleted : t.pool.completed = s.pool.completed) (hfailed : t.pool.failed = s.pool.failed) :
    s.Books (.drop id) t := by
  have hwithdraws : s.withdraws (.drop id) = [id] := by
    rcases hs with rfl | rfl <;> simp [withdraws, hid]
  refine ⟨?_, ?_, ?_⟩
  · rw [hentries, ids_forget, removes, hwithdraws]
    · simp [leaves, ends]
    · intro e he heq
      obtain ⟨u, hu, hfit⟩ := hl.fits e he
      rw [heq, hid] at hu
      obtain rfl := Option.some.inj hu
      rcases hs with rfl | rfl <;> exact hfit
  · rw [hcompleted]
    rfl
  · rw [hfailed]
    rfl

theorem Books.finish {s : System} {id : TaskId} {request : Request} (answer : Answer)
    (hmem : id ∈ s.pool.ids) :
    s.Books (.finish id answer)
      ({ s with pool := s.pool.finish id answer.isSuccess }.setStage id request
        (.finished answer)) := by
  have hany : s.pool.entries.any (·.task = id) = true := by
    obtain ⟨e, he, heq⟩ := List.mem_map.1 hmem
    exact List.any_eq_true.2 ⟨e, he, decide_eq_true heq⟩
  refine ⟨?_, ?_, ?_⟩
  · change (s.pool.finish id answer.isSuccess).ids = _
    rw [Pool.ids, Listed.entries_finish, Pool.ids, List.filter_map]
    simp [removes, ends, withdraws, leaves, Function.comp_def]
  · change (s.pool.finish id answer.isSuccess).completed = _
    rw [Pool.finish, if_pos hany]
    cases h : answer.isSuccess <;> simp [ends, h]
  · change (s.pool.finish id answer.isSuccess).failed = _
    rw [Pool.finish, if_pos hany]
    cases h : answer.isSuccess <;> simp [ends, h]

theorem hasDrained_of_task? {s : System} {id : TaskId} {c : Closing}
    (hid : s.task? id = some (.shutdown c)) (hc : c = .cleared ∨ c = .returned) :
    s.hasDrained = true := by
  refine List.any_eq_true.2 ⟨.shutdown c, List.mem_of_getElem? hid, ?_⟩
  rcases hc with rfl | rfl <;> rfl

theorem exists_of_hasDrained {s : System} (h : s.hasDrained = true) :
    ∃ id c, s.task? id = some (.shutdown c) ∧ (c = .cleared ∨ c = .returned) := by
  obtain ⟨u, hu, hc⟩ := List.any_eq_true.1 h
  obtain ⟨id, hid⟩ := List.mem_iff_getElem?.1 hu
  rcases of_decide_eq_true hc with rfl | rfl
  · exact ⟨id, .cleared, hid, .inl rfl⟩
  · exact ⟨id, .returned, hid, .inr rfl⟩

theorem Move.hasDrained_eq_false {s t : System} {e : Event} (hm : s.Move e t)
    (h : t.hasDrained = false) :
    s.hasDrained = false := by
  rw [Bool.eq_false_iff] at h ⊢
  intro hs
  apply h
  obtain ⟨id, c, hid, hc⟩ := exists_of_hasDrained hs
  rcases hc with rfl | rfl
  · obtain ⟨u, hu, rfl | rfl | hturn⟩ := hm.exists_task? hid
    · exact hasDrained_of_task? hu (.inl rfl)
    · exact hasDrained_of_task? hu (.inl rfl)
    · cases hturn with
      | close => exact hasDrained_of_task? hu (.inr rfl)
      | holdAll h | repeated h | dropShutdown h => simp at h
  · exact hasDrained_of_task? (hm.task?_of_isOver hid rfl) (.inr rfl)

/-- A step before any shutdown has drained the pool removes what ends or is given up in the queue,
and adds what is accepted. -/
theorem books_of_move {s t : System} {e : Event} {k : Nat} (hm : s.Move e t) (h : s.Regular k)
    (hl : s.Listed [])
    (hp : ∀ id request stage,
      s.task? id = some (.submission request stage) → stage.isEntered = true →
      id ∈ s.pool.ids) (ha : s.abandons e = []) (hd : t.hasDrained = false) : s.Books e t := by
  have hd' := hm.hasDrained_eq_false hd
  have hopen : s.pool.slots.isClosed = false := by
    rw [Bool.eq_false_iff]
    intro hc
    obtain ⟨id, hid⟩ := h.closed_iff.1 hc
    exact absurd ((hasDrained_of_task? hid (.inr rfl)).symm.trans hd') (by decide)
  cases hm with
  | submit | shutDown => exact .of_eq rfl rfl rfl rfl rfl rfl
  | accept hid | reject hid | take hid | wait hid | notice hid | answer hid | stopAccepting hid
  | takeAll hid | waitAll hid | noticeAll hid =>
    exact .of_eq rfl rfl rfl rfl rfl (by simp [leaves, hid])
  | dropArrived hid | dropShutdown hid | dropShutdownWaiting hid | dropShutdownGranted hid =>
    exact .of_eq rfl rfl rfl rfl (by simp [withdraws, hid]) rfl
  | run hid =>
    exact .of_eq (Listed.map_task_markRunning _ _) rfl rfl rfl rfl (by simp [leaves, hid])
  | @enter id request hid =>
    refine ⟨?_, rfl, rfl⟩
    change (s.pool.entries ++ [Entry.mk id request false]).map (·.task) = _
    simp [removes, ends, withdraws, leaves, hid, Pool.ids]
  | finish hid answer => exact .finish answer (hp _ _ _ hid rfl)
  | dropWaiting hid => exact .withdraw hid (.inl rfl) hl rfl rfl rfl
  | dropGranted hid => exact .withdraw hid (.inr rfl) hl rfl rfl rfl
  | abandon hid => simp [abandons, hid] at ha
  | refuse _ _ hc | refuseGranted _ hc | repeatClosed _ _ hc | repeatGranted _ hc =>
    exact absurd (hc.symm.trans hopen) (by decide)
  | close hid => exact absurd ((hasDrained_of_task? hid (.inl rfl)).symm.trans hd') (by decide)
  | @clear id hid =>
    have hcleared : ({ s with pool := s.pool.reset }.setClosing id .cleared).task? id =
      some (.shutdown .cleared) := by
      have hid' : { s with pool := s.pool.reset }.task? id = some (.shutdown .holding) := hid
      rw [setClosing, task?_setTask, if_pos rfl, hid']
      rfl
    exact absurd ((hasDrained_of_task? hcleared (.inl rfl)).symm.trans hd) (by decide)

theorem mem_withdraws {s : System} {e : Event} {id : TaskId} (h : id ∈ s.withdraws e) :
    e = .drop id ∧ ∃ request stage,
      s.task? id = some (.submission request stage) ∧ stage.isEntered = true := by
  cases e with
  | drop j =>
    simp only [withdraws] at h
    split at h
    · rename_i request hj
      obtain rfl := List.mem_singleton.1 h
      exact ⟨rfl, request, .waiting, hj, rfl⟩
    · rename_i request hj
      obtain rfl := List.mem_singleton.1 h
      exact ⟨rfl, request, .granted, hj, rfl⟩
    · cases h
  | _ => cases h

theorem removes_nodup (s : System) (e : Event) : (s.removes e).Nodup := by
  cases e with
  | finish id answer => exact List.nodup_singleton id
  | drop id =>
    simp only [removes, withdraws]
    split
    · exact List.nodup_singleton id
    · exact List.nodup_singleton id
    · exact List.nodup_nil
  | _ => exact List.nodup_nil

theorem mem_removes {s t : System} {e : Event} {id : TaskId} (hm : s.Move e t)
    (h : id ∈ s.removes e) :
    (∃ request stage, s.task? id = some (.submission request stage) ∧ stage.isEntered = true) ∧
      ∃ request stage, t.task? id = some (.submission request stage) ∧ stage.isEntered = false := by
  rcases List.mem_append.1 h with h | h
  · obtain ⟨⟨_, answer⟩, hend, rfl⟩ := List.mem_map.1 h
    obtain rfl := mem_ends.1 hend
    obtain ⟨a, b, ha, hb, hturn⟩ := hm.exists_turn rfl
    cases hturn with
    | finish request => exact ⟨⟨request, _, ha, rfl⟩, request, _, hb, rfl⟩
  · obtain ⟨rfl, request, stage, hid, hs⟩ := mem_withdraws h
    obtain ⟨a, b, ha, hb, hturn⟩ := hm.exists_turn rfl
    obtain rfl := Option.some.inj (hid.symm.trans ha)
    cases hturn with
    | drop => exact ⟨⟨request, stage, hid, hs⟩, request, _, hb, rfl⟩

structure Ledger (s : System) (events : List Event) (t : System) : Prop where
  split :
      (s.accepted events).Perm (t.pool.ids ++ ((s.endings events).map (·.1) ++ s.withdrawn events))
  distinct : (s.accepted events).Nodup
  grown : ∀ id ∈ s.accepted events, ∃ request stage,
    t.task? id = some (.submission request stage) ∧ stage.isYoung = false
  entered : ∀ id request stage,
    t.task? id = some (.submission request stage) → stage.isEntered = true →
    id ∈ t.pool.ids
  completed : t.pool.completed = (s.endings events).countP (·.2.isSuccess)
  failed : t.pool.failed = (s.endings events).countP (!·.2.isSuccess)
  listed : t.Listed []

theorem perm_filter_append {ids gone : List TaskId} (hids : ids.Nodup) (hgone : gone.Nodup)
    (hsub : gone ⊆ ids) :
    ids.Perm (ids.filter (· ∉ gone) ++ gone) := by
  have hmem : (ids.filter (· ∈ gone)).Perm gone := by
    rw [List.perm_ext_iff_of_nodup (hids.filter _) hgone]
    intro id
    simp only [List.mem_filter, decide_eq_true_eq]
    exact ⟨And.right, fun h => ⟨hsub h, h⟩⟩
  have hsplit := List.filter_append_perm (· ∈ gone) ids
  have hnot : ids.filter (fun id => !decide (id ∈ gone)) = ids.filter (· ∉ gone) := by
    apply List.filter_congr
    intro id _
    simp
  rw [hnot] at hsplit
  exact hsplit.symm.trans (List.perm_append_comm.trans (hmem.append_left _))

namespace Ledger

variable {s t u : System} {events : List Event} {e : Event} {k : Nat}

theorem grown_concat (hr : s.run? events = some t) (hm : t.Move e u) (h : s.Ledger events t)
    (id : TaskId) (hid : id ∈ s.accepted (events ++ [e])) :
    ∃ request stage, u.task? id = some (.submission request stage) ∧ stage.isYoung = false := by
  rw [accepted, along_concat hr hm, List.mem_append] at hid
  rcases hid with hid | hid
  · obtain ⟨request, stage, htask, hs⟩ := h.grown id hid
    obtain ⟨v, hv, rfl | rfl | hturn⟩ := hm.exists_task? htask
    · exact ⟨request, stage, hv, hs⟩
    · rcases (Task.submission request stage).grant_cases with hg | ⟨_, -, hg⟩ | ⟨hg, -⟩
      · rw [hg] at hv
        exact ⟨request, stage, hv, hs⟩
      · rw [hg] at hv
        exact ⟨_, .granted, hv, rfl⟩
      · cases hg
    · cases hturn with
      | accept => cases hs
      | _ => exact ⟨request, _, hv, rfl⟩
  · obtain ⟨rfl, request, htask⟩ := mem_leaves.1 hid
    obtain ⟨a, b, ha, hb, hturn⟩ := hm.exists_turn rfl
    obtain rfl := Option.some.inj (htask.symm.trans ha)
    cases hturn with
    | enter => exact ⟨request, .entered, hb, rfl⟩
    | hold _ hs => rcases hs with hs | hs <;> cases hs
    | refuse _ hs => rcases hs with hs | hs | hs <;> cases hs

theorem entered_of_move (hm : t.Move e u) (h : s.Ledger events t) (hb : t.Books e u) (id : TaskId)
    (request : Request) (stage : Stage) (hid : u.task? id = some (.submission request stage))
    (hs : stage.isEntered = true) : id ∈ u.pool.ids := by
  have hkept (hmem : id ∈ t.pool.ids) : id ∈ u.pool.ids := by
    rw [hb.ids]
    refine List.mem_append_left _ (List.mem_filter.2 ⟨hmem, decide_eq_true ?_⟩)
    intro hgone
    obtain ⟨-, _, _, hid', hs'⟩ := mem_removes hm hgone
    rw [hid] at hid'
    cases hid'
    exact absurd (hs.symm.trans hs') (by decide)
  rcases hm.exists_submission hid with ⟨-, rfl⟩ | ⟨stage', hid', rfl | ⟨rfl, -⟩ | hturn⟩
  · cases hs
  · exact hkept (h.entered id request stage hid' hs)
  · exact hkept (h.entered id request .waiting hid' rfl)
  · cases hturn with
    | enter =>
      rw [hb.ids]
      exact List.mem_append_right _ (mem_leaves.2 ⟨rfl, request, hid'⟩)
    | wait | run => exact hkept (h.entered id request _ hid' rfl)
    | hold _ hs' => rcases hs' with rfl | rfl <;> exact hkept (h.entered id request _ hid' rfl)
    | _ => cases hs

theorem split_concat (hr : s.run? events = some t) (hm : t.Move e u) (h : s.Ledger events t)
    (hb : t.Books e u) :
    (s.accepted (events ++ [e])).Perm
      (u.pool.ids ++ ((s.endings (events ++ [e])).map (·.1) ++ s.withdrawn (events ++ [e]))) := by
  have hsub : t.removes e ⊆ t.pool.ids := by
    intro id hid
    obtain ⟨⟨request, stage, hstage, hs⟩, -⟩ := mem_removes hm hid
    exact h.entered id request stage hstage hs
  have hids := perm_filter_append h.listed.distinct (t.removes_nodup e) hsub
  have haccepted : s.accepted (events ++ [e]) = s.accepted events ++ leaves .admitted t e :=
    along_concat hr hm
  have hendings : s.endings (events ++ [e]) = s.endings events ++ ends t e := along_concat hr hm
  have hwithdrawn : s.withdrawn (events ++ [e]) = s.withdrawn events ++ t.withdraws e :=
    along_concat hr hm
  rw [haccepted, hendings, hwithdrawn, hb.ids, List.map_append]
  rw [List.perm_iff_count]
  intro id
  have hsplit := h.split.count_eq id
  have hcount := hids.count_eq id
  simp only [removes, Pool.ids, List.count_append] at hsplit hcount ⊢
  omega

theorem concat (hr : s.run? events = some t) (hm : t.Move e u) (hreg : t.Regular k)
    (h : s.Ledger events t) (ha : t.abandons e = []) (hd : u.hasDrained = false) :
    s.Ledger (events ++ [e]) u := by
  have hb := books_of_move hm hreg h.listed h.entered ha hd
  have hendings : s.endings (events ++ [e]) = s.endings events ++ ends t e := along_concat hr hm
  refine ⟨split_concat hr hm h hb, ?_, grown_concat hr hm h, entered_of_move hm h hb, ?_, ?_, ?_⟩
  · rw [accepted, along_concat hr hm, List.nodup_append]
    refine ⟨h.distinct, leaves_nodup _ _ _, ?_⟩
    rintro id hold _ hnew rfl
    obtain ⟨request, stage, hid, hs⟩ := h.grown id hold
    obtain ⟨-, _, hid'⟩ := mem_leaves.1 hnew
    rw [hid] at hid'
    cases hid'
    cases hs
  · rw [hb.completed, h.completed, hendings, List.countP_append]
  · rw [hb.failed, h.failed, hendings, List.countP_append]
  · have hl := h.listed.of_move hm
    rw [ha] at hl
    exact hl

theorem ofPool (capacity : Nat) :
    (ofPool (.ofCapacity capacity)).Ledger [] (ofPool (.ofCapacity capacity)) :=
  ⟨List.Perm.refl _, List.nodup_nil, fun _ h => (nomatch h), fun _ _ _ h => (nomatch h), rfl, rfl,
    listed_ofPool capacity⟩

theorem of_run? {capacity : Nat} (hr : (System.ofPool (.ofCapacity capacity)).run? events = some t)
    (ha : (System.ofPool (.ofCapacity capacity)).abandoned events = [])
    (hd : t.hasDrained = false) :
    (System.ofPool (.ofCapacity capacity)).Ledger events t := by
  let start := System.ofPool (.ofCapacity capacity)
  let P (events : List Event) (t : System) : Prop :=
    start.abandoned events = [] → t.hasDrained = false → start.Ledger events t
  have hstep {events : List Event} {t : System} {e : Event} {u : System}
      (hr : start.run? events = some t) (ih : P events t) (hm : t.Move e u) :
      P (events ++ [e]) u := by
    intro ha hd
    rw [abandoned, along_concat hr hm, List.append_eq_nil_iff] at ha
    have hregular := Regular.of_run? hr (Regular.ofPool capacity)
    exact (ih ha.1 (hm.hasDrained_eq_false hd)).concat hr hm hregular ha.2 hd
  exact run?_induction (fun _ _ => ofPool capacity) hstep hr ha hd

theorem completed_eq (h : s.Ledger events t) :
    t.pool.metrics.completed = (s.endings events).countP (·.2.exitCode? = some 0) := by
  have hcompleted := h.completed
  simp only [Answer.isSuccess_eq] at hcompleted
  exact hcompleted

theorem failed_eq (h : s.Ledger events t) :
    t.pool.metrics.failed = (s.endings events).countP (·.2.exitCode? ≠ some 0) := by
  have hfailed := h.failed
  simp only [Answer.isSuccess_eq, ← decide_not] at hfailed
  exact hfailed

theorem length_accepted (h : s.Ledger events t) :
    (s.accepted events).length =
      t.pool.metrics.queued + t.pool.metrics.active +
        t.pool.metrics.completed + t.pool.metrics.failed +
        (s.withdrawn events).length := by
  have hsplit := h.split.length_eq
  have hentries := List.length_eq_countP_add_countP (·.isRunning) (l := t.pool.entries)
  have hendings := List.length_eq_countP_add_countP (fun e : TaskId × Answer => e.2.isSuccess)
    (l := s.endings events)
  have hcompleted := h.completed
  have hfailed := h.failed
  simp only [Pool.ids, List.length_append, List.length_map] at hsplit
  simp only [Pool.metrics, Bool.not_eq_true, Bool.decide_eq_false] at hentries hendings ⊢
  omega

theorem mem_ids_iff (h : s.Ledger events t) (id : TaskId) :
    id ∈ t.pool.ids ↔
      id ∈ s.accepted events ∧ id ∉ (s.endings events).map (·.1) ∧ id ∉ s.withdrawn events := by
  have hapart := h.split.nodup_iff.1 h.distinct
  have hmem := h.split.mem_iff (a := id)
  rw [List.nodup_append] at hapart
  rw [List.mem_append, List.mem_append] at hmem
  constructor
  · intro hid
    refine ⟨hmem.2 (.inl hid), ?_, ?_⟩
    · intro hended
      exact hapart.2.2 id hid id (List.mem_append_left _ hended) rfl
    · intro hwithdrawn
      exact hapart.2.2 id hid id (List.mem_append_right _ hwithdrawn) rfl
  · rintro ⟨haccepted, hended, hwithdrawn⟩
    exact (hmem.1 haccepted).resolve_right (not_or.2 ⟨hended, hwithdrawn⟩)

end Ledger

def Labelled (s : System) : Prop :=
  ∀ e ∈ s.pool.entries, ∃ stage, s.task? e.task = some (.submission e.request stage)

theorem exists_entry_origin {s t : System} {e : Event} (hm : s.Move e t) {entry : Entry}
    (he : entry ∈ t.pool.entries) :
    (∃ old ∈ s.pool.entries, old.task = entry.task ∧ old.request = entry.request) ∨
      s.task? entry.task = some (.submission entry.request .admitted) := by
  cases hm with
  | @enter id request hid =>
    rcases List.mem_append.1 he with he | he
    · exact .inl ⟨entry, he, rfl, rfl⟩
    · obtain rfl := List.mem_singleton.1 he
      exact .inr hid
  | run =>
    obtain ⟨old, hold, rfl⟩ := List.mem_map.1 he
    refine .inl ⟨old, hold, ?_⟩
    split <;> exact ⟨rfl, rfl⟩
  | @finish id request hid answer =>
    change entry ∈ (s.pool.finish id answer.isSuccess).entries at he
    rw [Listed.entries_finish] at he
    exact .inl ⟨entry, List.mem_of_mem_filter he, rfl, rfl⟩
  | refuse | refuseGranted | dropWaiting | dropGranted =>
    exact .inl ⟨entry, List.mem_of_mem_filter he, rfl, rfl⟩
  | repeatClosed | repeatGranted | clear => cases he
  | _ => exact .inl ⟨entry, he, rfl, rfl⟩

theorem labelled_of_run? {pool : Pool} {events : List Event} {t : System}
    (hr : (ofPool pool).run? events = some t) (hp : pool.entries = []) : t.Labelled := by
  refine run?_induction (P := fun _ t => t.Labelled) ?_ ?_ hr
  · intro e he
    rw [ofPool, hp] at he
    cases he
  · intro events t e u _ h hm entry he
    rcases exists_entry_origin hm he with ⟨old, hold, htask, hrequest⟩ | hid
    · obtain ⟨stage, hid⟩ := h old hold
      rw [htask, hrequest] at hid
      exact hm.exists_stage hid
    · exact hm.exists_stage hid

/-- Until a shutdown has drained the pool, and as long as no submission is given up while its
command runs: accepted submissions are queued, or run, or are counted, or were given up in the
queue; counts go by exit codes; and entries are exactly those that neither ended nor were given up,
each once and with its own request. -/
theorem accepted_eq_accounted {capacity : Nat} {events : List Event} {s : System}
    (hr : (ofPool (.ofCapacity capacity)).run? events = some s)
    (ha : (ofPool (.ofCapacity capacity)).abandoned events = []) (hd : s.hasDrained = false) :
    ((ofPool (.ofCapacity capacity)).accepted events).length =
      s.pool.metrics.queued + s.pool.metrics.active +
        s.pool.metrics.completed + s.pool.metrics.failed +
        ((ofPool (.ofCapacity capacity)).withdrawn events).length ∧
    s.pool.metrics.completed =
      ((ofPool (.ofCapacity capacity)).endings events).countP (·.2.exitCode? = some 0) ∧
    s.pool.metrics.failed =
      ((ofPool (.ofCapacity capacity)).endings events).countP (·.2.exitCode? ≠ some 0) ∧
    (s.pool.entries.map (·.task)).Nodup ∧
    (∀ id, id ∈ s.pool.entries.map (·.task) ↔
      id ∈ (ofPool (.ofCapacity capacity)).accepted events ∧
      id ∉ ((ofPool (.ofCapacity capacity)).endings events).map (·.1) ∧
      id ∉ (ofPool (.ofCapacity capacity)).withdrawn events) ∧
    ∀ e ∈ s.pool.entries, ∃ stage, s.task? e.task = some (.submission e.request stage) := by
  have h := Ledger.of_run? hr ha hd
  exact ⟨h.length_accepted, h.completed_eq, h.failed_eq, h.listed.distinct, h.mem_ids_iff,
    labelled_of_run? hr rfl⟩

/-- One slot, and commands that end well, badly and not at all, with two given up in the queue, one
of them when a slot was handed to it already. -/
def mixedRun : List Event :=
  launch { program := "true" } 0 ++
  [.submit { program := "grep", args := ["x"] }, .advance 1, .advance 1, .advance 1,
    .submit { program := "ls" }, .advance 2, .advance 2, .advance 2,
    .submit { program := "pwd" }, .advance 3, .advance 3, .advance 3,
    .drop 2, .finish 0 (.ok { code := 0 }), .advance 0,
    .advance 1, .advance 1, .finish 1 (.ok { code := 1 }), .advance 1, .drop 3] ++
  launch { program := "" } 4 ++ [.finish 4 (.error .emptyCommand), .advance 4] ++
  launch { program := "sleep", args := ["1"] } 5 ++
  [.submit { program := "true" }, .advance 6, .advance 6, .advance 6, .shutDown, .advance 7,
    .advance 7]

def afterMixedRun : System := ((ofPool (.ofCapacity 1)).run? mixedRun).getD (ofPool (.ofCapacity 1))

theorem accepted_eq_accounted_mixedRun :
    (ofPool (.ofCapacity 1)).run? mixedRun = some afterMixedRun ∧
    (ofPool (.ofCapacity 1)).abandoned mixedRun = [] ∧ afterMixedRun.hasDrained = false ∧
    afterMixedRun.pool.metrics = { active := 1, queued := 1, completed := 1, failed := 2 } ∧
    ((ofPool (.ofCapacity 1)).accepted mixedRun).length =
      afterMixedRun.pool.metrics.queued + afterMixedRun.pool.metrics.active +
        afterMixedRun.pool.metrics.completed + afterMixedRun.pool.metrics.failed +
        ((ofPool (.ofCapacity 1)).withdrawn mixedRun).length ∧
    (5 ∈ afterMixedRun.pool.entries.map (·.task) ∧
      6 ∈ afterMixedRun.pool.entries.map (·.task)) := by
  have hr : (ofPool (.ofCapacity 1)).run? mixedRun = some afterMixedRun := by decide
  have ha : (ofPool (.ofCapacity 1)).abandoned mixedRun = [] := by decide
  have hd : afterMixedRun.hasDrained = false := by decide
  have h := accepted_eq_accounted hr ha hd
  exact ⟨hr, ha, hd, by decide, h.1, (h.2.2.2.2.1 5).2 (by decide), (h.2.2.2.2.1 6).2 (by decide)⟩

end System

end Shorthand
