import Shorthand.Proofs.Shell.Coherence
/-!
What a detector does not see. Only the variables that tell shells apart decide what it answers, what
it keeps and how often it examines the environment; all others may come and go at any time.
-/
set_option autoImplicit false

namespace Shorthand

/-- The variables that tell shells apart are the same. -/
def Environment.Agrees (env env' : Environment) : Prop :=
  ∀ name ∈ Shell.fingerprintNames, env.get? name = env'.get? name

namespace Environment.Agrees

variable {env env' : Environment}

theorem insert (h : env.Agrees env') (name value : String) :
    Agrees (env.insert name value) (env'.insert name value) := by
  intro n hn
  rw [SortedMap.get?_insert, SortedMap.get?_insert, h n hn]

theorem erase (h : env.Agrees env') (name : String) :
    Agrees (env.erase name) (env'.erase name) := by
  intro n hn
  rw [SortedMap.get?_erase, SortedMap.get?_erase, h n hn]

theorem insert_left (h : env.Agrees env') {name : String} (hname : name ∉ Shell.fingerprintNames)
    (value : String) :
    Agrees (env.insert name value) env' := by
  intro n hn
  have hne : name ≠ n := by
    rintro rfl
    exact hname hn
  rw [SortedMap.get?_insert, if_neg hne, h n hn]

theorem erase_left (h : env.Agrees env') {name : String} (hname : name ∉ Shell.fingerprintNames) :
    Agrees (env.erase name) env' := by
  intro n hn
  have hne : name ≠ n := by
    rintro rfl
    exact hname hn
  rw [SortedMap.get?_erase, if_neg hne, h n hn]

theorem fingerprint_eq (h : env.Agrees env') : Shell.fingerprint env = Shell.fingerprint env' := by
  have hinput : Shell.fingerprintInput env = Shell.fingerprintInput env' :=
    List.flatMap_congr fun name hname => by
      rw [Shell.fingerprintPart, Shell.fingerprintPart, h name hname]
  rw [Shell.fingerprint, hinput, Shell.fingerprint]

theorem detect_eq (h : env.Agrees env') : Shell.detect env = Shell.detect env' := by
  have hsubset : ∀ name ∈ Shell.decisiveNames.dropLast, name ∈ Shell.fingerprintNames := by decide
  exact Shell.detect_congr fun name hname => h name (hsubset name hname)

theorem isInTask_eq (h : env.Agrees env') : Shell.isInTask env = Shell.isInTask env' := by
  simp only [Shell.isInTask, SortedMap.contains_eq_isSome_get?, List.any_cons, List.any_nil]
  rw [h "NX_TASK_HASH" (by decide), h "NX_TASK_TARGET_PROJECT" (by decide),
    h "NX_WORKSPACE_ROOT" (by decide)]

theorem answer_eq (h : env.Agrees env') (d : Detector) : d.answer env = d.answer env' := by
  simp only [Detector.answer, Detector.examine, h.fingerprint_eq, h.detect_eq]

end Environment.Agrees

namespace Detector

def Use.next (s : Detector × Environment) : Use → Detector × Environment
  | set name value => (s.1, s.2.insert name value)
  | unset name => (s.1, s.2.erase name)
  | clear => (s.1.clear, s.2)
  | examine => ((s.1.examine s.2).2, s.2)
  | answer => ((s.1.answer s.2).2, s.2)

/-- A use, or a question that leaves everything as it is. -/
inductive Step where
  | use (use : Use)
  | fingerprint
  | examinations
  | kept
  | task
  deriving DecidableEq, Repr

inductive Reply where
  | shell (shell : Shell)
  | fingerprint (text : String)
  | examinations (count : Nat)
  | kept (entry : Option (String × Shell))
  | task (isInTask : Bool)
  deriving DecidableEq, Repr

namespace Step

def next (s : Detector × Environment) : Step → Detector × Environment
  | use u => u.next s
  | _ => s

def reply? (s : Detector × Environment) : Step → Option Reply
  | use .examine => some (.shell (s.1.examine s.2).1)
  | use .answer => some (.shell (s.1.answer s.2).1)
  | use _ => none
  | fingerprint => some (.fingerprint (Shell.fingerprint s.2))
  | examinations => some (.examinations s.1.examinations)
  | kept => some (.kept s.1.cache)
  | task => some (.task (Shell.isInTask s.2))

/-- Whether it sets or unsets a variable that does not tell shells apart. -/
def isUnrelated : Step → Bool
  | use (.set name _) | use (.unset name) => name ∉ Shell.fingerprintNames
  | _ => false

def replies (s : Detector × Environment) : List Step → List Reply
  | [] => []
  | step :: rest => (step.reply? s).toList ++ replies (step.next s) rest

variable {d : Detector} {env env' : Environment}

theorem of_isUnrelated (h : env.Agrees env') {step : Step} (hstep : step.isUnrelated = true) :
    step.reply? (d, env) = none ∧ ∃ after, step.next (d, env) = (d, after) ∧ after.Agrees env' := by
  cases step with
  | use u =>
    cases u with
    | set name value =>
      exact ⟨rfl, _, rfl, h.insert_left (by simpa [isUnrelated] using hstep) value⟩
    | unset name => exact ⟨rfl, _, rfl, h.erase_left (by simpa [isUnrelated] using hstep)⟩
    | clear => cases hstep
    | examine => cases hstep
    | answer => cases hstep
  | fingerprint => cases hstep
  | examinations => cases hstep
  | kept => cases hstep
  | task => cases hstep

theorem reply?_congr (h : env.Agrees env') (step : Step) :
    step.reply? (d, env) = step.reply? (d, env') := by
  cases step with
  | use u =>
    cases u with
    | set name value => rfl
    | unset name => rfl
    | clear => rfl
    | examine => simp only [reply?, examine, h.detect_eq]
    | answer => simp only [reply?, h.answer_eq]
  | fingerprint => simp only [reply?, h.fingerprint_eq]
  | examinations => rfl
  | kept => rfl
  | task => simp only [reply?, h.isInTask_eq]

theorem next_congr (h : env.Agrees env') (step : Step) :
    ∃ d' after after', step.next (d, env) = (d', after) ∧
      step.next (d, env') = (d', after') ∧ after.Agrees after' := by
  cases step with
  | use u =>
    cases u with
    | set name value => exact ⟨_, _, _, rfl, rfl, h.insert name value⟩
    | unset name => exact ⟨_, _, _, rfl, rfl, h.erase name⟩
    | clear => exact ⟨_, _, _, rfl, rfl, h⟩
    | examine => exact ⟨_, _, _, rfl, rfl, h⟩
    | answer => exact ⟨_, _, _, rfl, by simp only [next, Use.next, h.answer_eq], h⟩
  | fingerprint => exact ⟨_, _, _, rfl, rfl, h⟩
  | examinations => exact ⟨_, _, _, rfl, rfl, h⟩
  | kept => exact ⟨_, _, _, rfl, rfl, h⟩
  | task => exact ⟨_, _, _, rfl, rfl, h⟩

theorem replies_filter (h : env.Agrees env') (steps : List Step) :
    replies (d, env) steps = replies (d, env') (steps.filter (!·.isUnrelated)) := by
  induction steps generalizing d env env' with
  | nil => rfl
  | cons step rest ih =>
    cases hstep : step.isUnrelated with
    | true =>
      obtain ⟨hreply, after, hnext, hafter⟩ := of_isUnrelated (d := d) h hstep
      rw [replies, hreply, hnext, List.filter_cons_of_neg (by simp [hstep])]
      exact ih hafter
    | false =>
      obtain ⟨d', after, after', hnext, hnext', hafter⟩ := next_congr (d := d) h step
      rw [List.filter_cons_of_pos (by simp [hstep]), replies, replies, hnext, hnext',
        reply?_congr h, ih hafter]

end Step

/-- How often an answer in such an environment has to be found out yet: once, unless it is kept. -/
def pending (d : Detector) (env : Environment) : Nat :=
  if d.cache.any (·.1 = Shell.fingerprint env) then 0 else 1

theorem pending_of_cache {d : Detector} {env : Environment} {shell : Shell}
    (h : d.cache = some (Shell.fingerprint env, shell)) : d.pending env = 0 := by
  simp [pending, h]

theorem pending_of_cache_ne {d : Detector} {env : Environment}
    (h : ∀ shell, d.cache ≠ some (Shell.fingerprint env, shell)) : d.pending env = 1 := by
  cases hcache : d.cache with
  | none => simp [pending, hcache]
  | some entry =>
    obtain ⟨kept, shell⟩ := entry
    have hne : kept ≠ Shell.fingerprint env := by
      rintro rfl
      exact h shell hcache
    simp [pending, hcache, hne]

theorem pending_answer (d : Detector) (env : Environment) :
    (d.answer env).2.pending env = 0 ∧
      (d.answer env).2.examinations = d.examinations + d.pending env := by
  by_cases hc : ∃ shell, d.cache = some (Shell.fingerprint env, shell)
  · obtain ⟨shell, hc⟩ := hc
    rw [answer_of_cache hc, pending_of_cache hc]
    exact ⟨rfl, rfl⟩
  · have hne : ∀ shell, d.cache ≠ some (Shell.fingerprint env, shell) :=
      fun shell h => hc ⟨shell, h⟩
    rw [answer_of_cache_ne hne, pending_of_cache_ne hne]
    exact ⟨pending_of_cache rfl, rfl⟩

theorem examinations_le {d : Detector} {env base : Environment} {uses : List Use}
    (hc : .clear ∉ uses) (ha : ∀ p ∈ d.answers env uses, p.1.Agrees base) :
    (uses.foldl Use.next (d, env)).1.examinations ≤
      d.examinations + uses.count .examine + d.pending base := by
  induction uses generalizing d env with
  | nil => exact Nat.le_add_right ..
  | cons use rest ih =>
    have hrest : .clear ∉ rest := List.not_mem_of_not_mem_cons hc
    cases use with
    | set name value => simpa [Use.next] using ih hrest ha
    | unset name => simpa [Use.next] using ih hrest ha
    | clear => exact absurd List.mem_cons_self hc
    | examine =>
      have h := ih (d := (d.examine env).2) hrest ha
      have hexamine : (d.examine env).2.examinations = d.examinations + 1 := rfl
      have hpending : (d.examine env).2.pending base = d.pending base := rfl
      rw [hexamine, hpending] at h
      simp only [List.foldl_cons, Use.next, List.count_cons_self]
      omega
    | answer =>
      -- what was pending is examined now, and from here on nothing is
      have hbase : env.Agrees base := ha _ List.mem_cons_self
      have h := ih hrest fun p hp => ha p (List.mem_cons_of_mem _ hp)
      obtain ⟨hpending, hexaminations⟩ := d.pending_answer env
      simp only [pending, hbase.fingerprint_eq] at hpending hexaminations h ⊢
      have hcount : (Use.answer :: rest).count .examine = rest.count .examine := by simp
      simp only [List.foldl_cons, Use.next, hcount]
      omega

/-- What is done to the other variables never shows in the replies of a detector. And as long as its
cache is not cleared and the variables that tell shells apart are the same whenever it answers, it
examines the environment at most once more than it is told to. -/
theorem replies_eq_of_filter (d : Detector) (env : Environment) :
    (∀ steps steps' : List Step, steps.filter (!·.isUnrelated) = steps'.filter (!·.isUnrelated) →
      Step.replies (d, env) steps = Step.replies (d, env) steps') ∧
    ∀ (uses : List Use) (base : Environment),
      .clear ∉ uses → (∀ p ∈ d.answers env uses, p.1.Agrees base) →
      (uses.foldl Use.next (d, env)).1.examinations ≤ d.examinations + uses.count .examine + 1 := by
  have hself : env.Agrees env := fun _ _ => rfl
  refine ⟨fun steps steps' h => ?_, fun uses base hc ha => (examinations_le hc ha).trans ?_⟩
  · rw [Step.replies_filter hself, h, ← Step.replies_filter hself]
  · have hpending : d.pending base ≤ 1 := by
      unfold pending
      split <;> decide
    omega

theorem replies_eq_of_filter_home :
    Step.replies ({}, inBash) [.use .answer, .use (.set "HOME" "/root"), .use .answer, .fingerprint,
        .use (.unset "CI"), .use (.unset "HOME"), .use .examine, .use (.set "SHELL" "x"),
          .use .answer, .examinations] =
      Step.replies ({}, inBash) [.use (.set "LANG" "C"), .use .answer, .use .answer, .fingerprint,
        .use (.unset "CI"), .use .examine, .use (.set "SHELL" "x"), .use .answer, .examinations] ∧
    ([.answer, .set "HOME" "/root", .examine, .answer].foldl Use.next ({}, inBash)).1.examinations ≤
      2 := by
  have hself : inBash.Agrees inBash := fun _ _ => rfl
  refine ⟨(replies_eq_of_filter {} inBash).1 _ _ (by decide), ?_⟩
  refine (replies_eq_of_filter {} inBash).2 [.answer, .set "HOME" "/root", .examine,
    .answer] inBash (by decide) ?_
  simp only [answers, List.mem_cons, List.not_mem_nil, or_false]
  rintro p (rfl | rfl)
  · exact hself
  · exact hself.insert_left (by decide) "/root"

end Detector

end Shorthand
