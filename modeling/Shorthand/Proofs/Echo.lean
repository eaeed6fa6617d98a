import Shorthand.Host.Memory
import Shorthand.Machine.Programs
import Shorthand.Proofs.Invocation.Display
import Shorthand.Proofs.Session.Together
import Shorthand.Proofs.Success
/-!
Showing instead of running. With the setting `echo` a call starts nothing and writes one line for
each process, and the line reads back as the very process that the call gives to the pool without
the setting.
-/
set_option autoImplicit false

namespace Shorthand

def Action.requests : Action → List Request
  | tell _ _ => []
  | run plan => [plan.invocation.request false]
  | runMany _ plans => plans.map fun p => p.invocation.request true

def Plan.shown (p : Plan) : Plan := { p with isEchoed := true }

namespace Workspace

variable {σ : Type} [Host σ]

/-- An action performed gives the pool its own requests, each once and in order, and no others. -/
theorem requests_perform (w : Workspace) (s : Simulation σ) (a : Action) :
    (w.perform s a).2.system.requests = s.system.requests ++ a.requests := by
  cases a with
  | tell outputs code => simp [perform, Action.requests]
  | run plan => exact Simulation.requests_submit _ s
  | runMany word plans => exact Session.requests_runPlans word plans s

def withEcho (w : Workspace) (echo : Bool) : Workspace :=
  { w with settings := { w.settings with echo } }

theorem planBase_withEcho (w : Workspace) (label : String) (base : List String) (context : Context)
    (words : List String) :
    (w.withEcho true).planBase label base context words =
      ((w.withEcho false).planBase label base context words).map Plan.shown := by
  simp only [planBase, withEcho, shell, expander]
  cases Invocation.build _ base _ <;> rfl

theorem planResolved_withEcho (w : Workspace) (r : Resolution) (word : String)
    (flags : List String) :
    (w.withEcho true).planResolved r word flags =
      ((w.withEcho false).planResolved r word flags).map Plan.shown := by
  have hb : (w.withEcho true).targetBase r.project word =
    (w.withEcho false).targetBase r.project word := rfl
  have hc : (w.withEcho true).config = (w.withEcho false).config := rfl
  simp only [planResolved, hb, hc]
  cases (w.withEcho false).targetBase r.project word with
  | error e => rfl
  | ok base =>
    simp only [ok_bind, planBase_withEcho]
    cases (w.withEcho false).planBase _ base _ flags <;> rfl

theorem planAlias_withEcho (w : Workspace) (short word : String) (flags : List String) :
    (w.withEcho true).planAlias short word flags =
      ((w.withEcho false).planAlias short word flags).map Plan.shown := by
  have hr :
      (w.withEcho true).resolveFor short word = (w.withEcho false).resolveFor short word := rfl
  simp only [planAlias, hr]
  cases (w.withEcho false).resolveFor short word with
  | error e => rfl
  | ok r => exact planResolved_withEcho w r word flags

theorem planCommand_withEcho (w : Workspace) (name : String) (words : List String) :
    (w.withEcho true).planCommand name words =
      ((w.withEcho false).planCommand name words).map Plan.shown := by
  have hc : (w.withEcho true).config = (w.withEcho false).config := rfl
  simp only [planCommand, hc]
  cases (w.withEcho false).config.commands.get? name with
  | none => rfl
  | some line =>
    dsimp only
    cases Words.splitSome line with
    | none => rfl
    | some base =>
      simp only [planBase_withEcho]
      cases (w.withEcho false).planBase name base {} words <;> rfl

theorem planMany_withEcho (w : Workspace) (coverage : Coverage) (aliases : List String)
    (word : String) (flags : List String) :
    (w.withEcho true).planMany coverage aliases word flags =
      ((w.withEcho false).planMany coverage aliases word flags).map (List.map Plan.shown) := by
  have hr : (w.withEcho true).resolutions coverage aliases =
      (w.withEcho false).resolutions coverage aliases := rfl
  simp only [planMany, hr]
  cases (w.withEcho false).resolutions coverage aliases with
  | error e => rfl
  | ok rs =>
    simp only [planResolved_withEcho]
    exact mapM_map _ _ rs

theorem isName_of_planBase {w : Workspace} {label : String} {base : List String} {context : Context}
    {words : List String} {plan : Plan} (h : w.planBase label base context words = .ok plan) :
    ∀ v ∈ plan.invocation.environment, Assignment.isName v.1.toList = true := by
  obtain ⟨i, hi, h⟩ := exists_of_bind_eq_ok h
  obtain rfl := Except.ok.inj h
  exact Invocation.isName_of_build hi

theorem isName_of_planResolved {w : Workspace} {r : Resolution} {word : String}
    {flags : List String} {plan : Plan} (h : w.planResolved r word flags = .ok plan) :
    ∀ v ∈ plan.invocation.environment, Assignment.isName v.1.toList = true := by
  obtain ⟨base, -, h⟩ := exists_of_bind_eq_ok h
  exact isName_of_planBase (eq_ok_of_mapError h)

theorem isName_of_planAlias {w : Workspace} {short word : String} {flags : List String}
    {plan : Plan} (h : w.planAlias short word flags = .ok plan) :
    ∀ v ∈ plan.invocation.environment, Assignment.isName v.1.toList = true := by
  obtain ⟨r, -, h⟩ := exists_of_bind_eq_ok h
  exact isName_of_planResolved h

theorem isName_of_planCommand {w : Workspace} {name : String} {words : List String} {plan : Plan}
    (h : w.planCommand name words = .ok plan) :
    ∀ v ∈ plan.invocation.environment, Assignment.isName v.1.toList = true := by
  unfold planCommand at h
  split at h
  · cases h
  · split at h
    · cases h
    · exact isName_of_planBase (eq_ok_of_mapError h)

theorem isName_of_planMany {w : Workspace} {coverage : Coverage} {aliases : List String}
    {word : String} {flags : List String} {plans : List Plan}
    (h : w.planMany coverage aliases word flags = .ok plans) :
    ∀ plan ∈ plans, ∀ v ∈ plan.invocation.environment, Assignment.isName v.1.toList = true := by
  obtain ⟨rs, -, h⟩ := exists_of_bind_eq_ok h
  intro plan hp
  obtain ⟨r, -, hr⟩ := exists_of_mem_mapM h hp
  exact isName_of_planResolved hr

/-- One package, from the words of the user to the end of the process. -/
def runAlias (w : Workspace) (short word : String) (flags : List String) (s : Simulation σ) :
    Except CommandError (Performed × Simulation σ) :=
  (w.actAlias short word flags).map (w.perform s)

/-- A command of the configuration, from the words of the user to the end of the process. -/
def runCommand (w : Workspace) (name : String) (words : List String) (s : Simulation σ) :
    Except CommandError (Performed × Simulation σ) := (w.actCommand name words).map (w.perform s)

/-- Many packages, from the words of the user to the end of all processes. -/
def runMany (w : Workspace) (coverage : Coverage) (aliases : List String) (word : String)
    (flags : List String) (s : Simulation σ) : Except CommandError (Performed × Simulation σ) :=
  (w.actMany coverage aliases word flags).map (w.perform s)

/-- Of two outcomes of a call with the given plans, the first has nothing started and shows one line
for each plan, which reads back as the variables, the program and the arguments of its process; and
the second has given the pool these very processes, or none if the flags ask to show them anyhow. -/
def Echoes (s : Simulation σ) (isCaptured : Bool) (plans : List Plan)
    (shown done : Except CommandError (Performed × Simulation σ)) : Prop :=
  ∃ (lines : List String) (submitted : List Request) (performed : Performed) (t : Simulation σ),
    shown = .ok (⟨lines.map fun line : String => say [line], .ok 0⟩, s) ∧
    done = .ok (performed, t) ∧
    t.system.requests = s.system.requests ++ submitted ∧
    lines.length = plans.length ∧
    submitted.length = (if plans.any (·.isEchoed) then 0 else plans.length) ∧
    ∀ (i : Nat) (line : String) (plan : Plan), lines[i]? = some line → plans[i]? = some plan →
      plan.invocation.IsNulFree →
      Words.split line = some (plan.invocation.environment.map (fun v => v.1 ++ "=" ++ v.2) ++
        plan.invocation.program :: plan.invocation.args) ∧
      ∀ request, submitted[i]? = some request →
        Words.split line = some (request.environment.map (fun v => v.1 ++ "=" ++ v.2) ++
          request.program :: request.args) ∧
        request = { program := plan.invocation.program, args := plan.invocation.args,
                    environment := plan.invocation.environment, directory := none, isCaptured }

theorem echoes_perform {w v : Workspace} (s : Simulation σ) {isCaptured : Bool} {plans : List Plan}
    {shown done : Action} (hs : shown = Action.echo plans)
    (hd : done.requests = if plans.any (·.isEchoed) then [] else
      plans.map fun p => p.invocation.request isCaptured)
    (hn : ∀ plan ∈ plans, ∀ v ∈ plan.invocation.environment, Assignment.isName v.1.toList = true) :
    Echoes s isCaptured plans (.ok (w.perform s shown)) (.ok (v.perform s done)) := by
  refine ⟨plans.map (·.invocation.display), done.requests, (v.perform s done).1,
    (v.perform s done).2, ?_, rfl, requests_perform v s done, by simp, ?_, ?_⟩
  · subst hs
    simp [Action.echo, perform, Function.comp_def]
  · rw [hd]
    split <;> simp
  · intro i line plan hl hp hf
    rw [List.getElem?_map, hp] at hl
    obtain rfl := Option.some.inj hl
    have hsplit := Invocation.split_display (hn plan (List.mem_of_getElem? hp)) hf
    refine ⟨hsplit, fun request hr => ?_⟩
    rw [hd] at hr
    split at hr
    · cases hr
    · rw [List.getElem?_map, hp] at hr
      obtain rfl := Option.some.inj hr
      exact ⟨hsplit, rfl⟩

theorem requests_ofPlan (plan : Plan) :
    (Action.ofPlan plan).requests =
      if [plan].any (·.isEchoed) then [] else [plan].map fun p => p.invocation.request false := by
  unfold Action.ofPlan
  cases h : plan.isEchoed <;> simp [h, Action.requests, Action.echo]

theorem requests_ofPlans (coverage : Coverage) (word : String) {plans : List Plan}
    (h : plans ≠ []) :
    (Action.ofPlans coverage word plans).requests =
      if plans.any (·.isEchoed) then [] else plans.map fun p => p.invocation.request true := by
  rw [Action.ofPlans, if_neg (by simpa using h)]
  split <;> rfl

theorem ofPlans_shown (coverage : Coverage) (word : String) {plans : List Plan} (h : plans ≠ []) :
    Action.ofPlans coverage word (plans.map Plan.shown) = Action.echo plans := by
  obtain ⟨p, ps, rfl⟩ := List.exists_cons_of_ne_nil h
  simp [Action.ofPlans, Action.echo, Plan.shown, Function.comp_def]

/-- With the setting `echo` a call starts nothing, ends with 0 and shows, line by line, the
processes that the same call gives to the pool without the setting. Where there are none, it says so
with either setting. -/
theorem split_echo_eq_submitted (w : Workspace) (s : Simulation σ) :
    (∀ (short word : String) (flags : List String) (plan : Plan),
      (w.withEcho false).planAlias short word flags = .ok plan →
      Echoes s false [plan] ((w.withEcho true).runAlias short word flags s)
        ((w.withEcho false).runAlias short word flags s)) ∧
    (∀ (name : String) (words : List String) (plan : Plan),
      (w.withEcho false).planCommand name words = .ok plan →
      Echoes s false [plan] ((w.withEcho true).runCommand name words s)
        ((w.withEcho false).runCommand name words s)) ∧
    ∀ (coverage : Coverage) (aliases : List String) (word : String) (flags : List String)
      (plans : List Plan),
      (w.withEcho false).planMany coverage aliases word flags = .ok plans →
      (plans ≠ [] → Echoes s true plans ((w.withEcho true).runMany coverage aliases word flags s)
        ((w.withEcho false).runMany coverage aliases word flags s)) ∧
      (plans = [] → ∃ outputs, ∀ echo,
        (w.withEcho echo).runMany coverage aliases word flags s = .ok (⟨outputs, .ok 0⟩, s)) := by
  refine ⟨fun short word flags plan h => ?_, fun name words plan h => ?_,
    fun coverage aliases word flags plans h => ⟨fun hne => ?_, ?_⟩⟩
  · rw [runAlias, runAlias, actAlias, actAlias, planAlias_withEcho, h]
    exact echoes_perform s rfl (requests_ofPlan plan) (by simpa using isName_of_planAlias h)
  · rw [runCommand, runCommand, actCommand, actCommand, planCommand_withEcho, h]
    exact echoes_perform s rfl (requests_ofPlan plan) (by simpa using isName_of_planCommand h)
  · rw [runMany, runMany, actMany, actMany, planMany_withEcho, h]
    exact echoes_perform s (ofPlans_shown coverage word hne) (requests_ofPlans coverage word hne)
      (isName_of_planMany h)
  · rintro rfl
    refine ⟨(w.perform s (Action.noMatch coverage)).1.outputs, fun echo => ?_⟩
    cases echo with
    | true => rw [runMany, actMany, planMany_withEcho, h]; rfl
    | false => rw [runMany, actMany, h]; rfl

def sample : Workspace where
  config :=
    { packages := .ofList [("dc", .direct "@fux/dc")]
      environmentFlags := .ofList [("sto", .literal "PAE_TIMEOUT='9 0'")] }
  settings := {}
  environment := ∅

def samplePlan : Plan where
  label := "@fux/dc"
  invocation :=
    { program := "npx"
      args := ["nx", "run", "@fux/dc:b", "it's ^!"]
      environment := [("PAE_TIMEOUT", "9 0")] }
  isEchoed := false
  isTraced := false

/-- A variable with a blank in its value, and a word with every kind of quote. -/
theorem split_echo_eq_submitted_sample :
    (sample.withEcho false).planAlias "dc" "b" ["--sto", "it's ^!"] = .ok samplePlan ∧
    samplePlan.invocation.IsNulFree ∧
    ∃ line performed t,
      (sample.withEcho true).runAlias "dc" "b" ["--sto", "it's ^!"]
        (.ofPool (.ofCapacity 1) (Machine.withFiles .standard [] [])) =
          .ok (⟨[say [(line : String)]], .ok 0⟩,
            .ofPool (.ofCapacity 1) (Machine.withFiles .standard [] [])) ∧
      (sample.withEcho false).runAlias "dc" "b" ["--sto", "it's ^!"]
        (.ofPool (.ofCapacity 1) (Machine.withFiles .standard [] [])) = .ok (performed, t) ∧
      Words.split line = some ["PAE_TIMEOUT=9 0", "npx", "nx", "run", "@fux/dc:b", "it's ^!"] ∧
      t.system.requests =
        [{ program := "npx"
           args := ["nx", "run", "@fux/dc:b", "it's ^!"]
           environment := [("PAE_TIMEOUT", "9 0")]
           isCaptured := false }] := by
  have hp : (sample.withEcho false).planAlias "dc" "b" ["--sto", "it's ^!"] = .ok samplePlan :=
    eq_ok_of_toOption (by decide +kernel)
  have hnul : samplePlan.invocation.IsNulFree := ⟨by decide +kernel, by decide +kernel⟩
  obtain ⟨lines, submitted, performed, t, hshown, hdone, hrequests, hlines, hsubmitted, hsplit⟩ :=
    (split_echo_eq_submitted sample (.ofPool (.ofCapacity 1) (Machine.withFiles .standard [] []))).1
      _ _ _ _ hp
  obtain ⟨line, rfl⟩ := List.length_eq_one_iff.1 hlines
  obtain ⟨request, rfl⟩ := List.length_eq_one_iff.1 hsubmitted
  obtain ⟨hwords, hrequest⟩ := hsplit 0 line samplePlan rfl rfl hnul
  obtain ⟨-, rfl⟩ := hrequest request rfl
  exact ⟨hp, hnul, line, performed, t, hshown, hdone, hwords, hrequests⟩

end Workspace

end Shorthand
