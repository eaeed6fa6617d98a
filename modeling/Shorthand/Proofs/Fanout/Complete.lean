import Shorthand.Proofs.Echo
import Shorthand.Proofs.Fanout.Schedule
import Shorthand.Proofs.Pool.Ledger
set_option autoImplicit false

namespace Shorthand

/-- The code of a command that came to its end. -/
def Fate.exitCode? : Fate → Option Nat
  | .answered answer => answer.exitCode?
  | .lost _ => none

theorem Outcome.isSuccess_eq (o : Outcome) : o.isSuccess = decide (o.fate.exitCode? = some 0) := by
  obtain ⟨label, fate⟩ := o
  cases fate with
  | answered answer => exact Answer.isSuccess_eq answer
  | lost reason => rfl

namespace Report

def outcomes (plans : List Plan) (fates : Nat → Fate) : List Outcome :=
  plans.zipIdx.map fun p => ⟨p.1.label, fates p.2⟩

def lined (text : String) : String :=
  if text.toList.getLast? = some '\n' then text else text ++ "\n"

/-- What is told of a command that came to its end, before the errors that it wrote. -/
def told (o : Outcome) : String :=
  match o.fate with
  | .answered (.ok e) =>
    (if e.code = 0 then "✓ " ++ o.label ++ " (<duration>)\n"
      else "✗ " ++ o.label ++ " (exit code " ++ toString e.code ++ ")\n") ++
    if e.out.toList.all Text.isBlank then "" else lined e.out
  | _ => ""

def complained (o : Outcome) : String :=
  match o.fate with
  | .answered (.ok e) => if e.code = 0 ∨ e.err = "" then "" else lined e.err
  | .answered (.error e) => "✗ " ++ o.label ++ ": " ++ e.message ++ "\n"
  | .lost reason => "✗ " ++ o.label ++ ": " ++ reason ++ "\n"

/-- The labels of all that did not end with 0. -/
def failed (outcomes : List Outcome) : List String :=
  (outcomes.filter fun o => o.fate.exitCode? ≠ some 0).map (·.label)

def verdict (outcomes : List Outcome) : String :=
  if failed outcomes = [] then "└─ All " ++ toString outcomes.length ++ " packages succeeded.\n"
  else
    "└─ " ++ toString (failed outcomes).length ++ " of " ++ toString outcomes.length ++
      " packages failed: " ++ ", ".intercalate (failed outcomes) ++ "\n"

variable {word : String} {plans : List Plan} {fates : Nat → Fate}

theorem failures_eq (outcomes : List Outcome) : failures outcomes = failed outcomes := by
  simp [failures, failed, Outcome.isSuccess_eq]

@[simp] theorem render_whole (inColor : Bool) (c : Channel) (text : String) :
    (whole c text).render inColor = lined text := rfl

@[simp] theorem channel_whole (c : Channel) (text : String) : (whole c text).channel = c := rfl

theorem render_complaint (label text : String) :
    (complain [paint (.plain .red) "✗", " ", paint .bold label, ": " ++ text]).render false =
      "✗ " ++ label ++ ": " ++ text ++ "\n" := by
  simp [complain, paint, ← String.toList_inj]

theorem render_success (label : String) :
    (say [paint (.plain .green) "✓", " ", paint .bold label, " ",
        paint .dimmed elapsed]).render false =
      "✓ " ++ label ++ " (<duration>)\n" := by
  simp [say, paint, elapsed, ← String.toList_inj]

theorem render_failure (label code : String) :
    (say [paint (.plain .red) "✗", " ", paint .bold label, " ",
        paint (.plain .red) ("(exit code " ++ code ++ ")")]).render false =
      "✗ " ++ label ++ " (exit code " ++ code ++ ")\n" := by
  simp [say, paint, ← String.toList_inj]

theorem text_outcome (o : Outcome) :
    Output.text false .out (outcome o) = told o ∧
      Output.text false .err (outcome o) = complained o := by
  obtain ⟨label, fate⟩ := o
  match fate with
  | .lost reason => simp [outcome, told, complained, render_complaint]
  | .answered (.error e) => simp [outcome, told, complained, render_complaint]
  | .answered (.ok e) =>
    have hblank : Text.isAllBlank e.out = e.out.toList.all Text.isBlank := rfl
    have hsuccess : e.isSuccess = decide (e.code = 0) := rfl
    simp only [outcome, told, complained, hsuccess, hblank, decide_eq_true_eq, Bool.or_eq_true,
      String.isEmpty_iff]
    by_cases hcode : e.code = 0 <;> by_cases hout : e.out.toList.all Text.isBlank <;>
      by_cases herr : e.err = "" <;>
      simp [hcode, hout, herr, render_success, render_failure]

theorem render_heading (count : Nat) :
    (heading word count).render false =
      "┌─ Running '" ++ word ++ "' for " ++ toString count ++ " packages...\n" := by
  simp [heading, say, paint, ← String.toList_inj]

theorem render_announcement (plan : Plan) :
    (announcement plan).render false = "├─> " ++ plan.invocation.display ++ "\n" := by
  simp [announcement, say, paint, ← String.toList_inj]

theorem render_closing (outcomes : List Outcome) :
    (closing outcomes).render false = verdict outcomes := by
  simp only [closing, failures_eq, verdict, List.isEmpty_iff]
  split <;> simp [say, paint, ← String.toList_inj]

@[simp] theorem channel_closing (outcomes : List Outcome) : (closing outcomes).channel = .out := by
  simp only [closing]
  split <;> rfl

def ofFates (word : String) (plans : List Plan) (fates : Nat → Fate) : List Output × Nat :=
  (heading word plans.length :: plans.map announcement ++ (outcomes plans fates).flatMap outcome ++
    [closing (outcomes plans fates)], code (outcomes plans fates))

theorem text_out_ofFates (word : String) (plans : List Plan) (fates : Nat → Fate) :
    Output.text false .out (ofFates word plans fates).1 =
      "┌─ Running '" ++ word ++ "' for " ++ toString plans.length ++ " packages...\n" ++
        String.join (plans.map fun plan => "├─> " ++ plan.invocation.display ++ "\n") ++
        String.join ((outcomes plans fates).map told) ++ verdict (outcomes plans fates) := by
  have hheading : (heading word plans.length).channel = .out := rfl
  have hannouncement (plan : Plan) : (announcement plan).channel = .out := rfl
  simp only [ofFates, List.cons_append, Output.text_cons, Output.text_append, Output.text_nil,
    Output.text_map, Output.text_flatMap, hheading, hannouncement, channel_closing, render_heading,
    render_announcement, render_closing, text_outcome, if_true, String.append_empty,
    String.append_assoc]

theorem text_err_ofFates (word : String) (plans : List Plan) (fates : Nat → Fate) :
    Output.text false .err (ofFates word plans fates).1 =
      String.join ((outcomes plans fates).map complained) := by
  have hheading : (heading word plans.length).channel = .out := rfl
  have hannouncement : Output.text false .err (plans.map announcement) = "" :=
    Output.text_eq_empty (List.forall_mem_map.2 fun plan _ => (by decide : Channel.out ≠ .err))
  simp [ofFates, hannouncement, Output.text_flatMap, hheading, text_outcome]

theorem failed_eq_nil_iff (plans : List Plan) (fates : Nat → Fate) :
    failed (outcomes plans fates) = [] ↔ ∀ i < plans.length, (fates i).exitCode? = some 0 := by
  simp only [failed, outcomes, List.map_eq_nil_iff, List.filter_eq_nil_iff, List.forall_mem_map,
    ne_eq, decide_not, Bool.not_eq_true', Bool.not_eq_false, decide_eq_true_eq]
  constructor
  · intro h i hi
    exact h (plans[i], i) (List.mem_zipIdx_iff_getElem?.2 (by simp [hi]))
  · rintro h ⟨plan, i⟩ hmem
    exact h i (List.getElem?_eq_some_iff.1 (List.mem_zipIdx_iff_getElem?.1 hmem)).1

theorem code_outcomes (plans : List Plan) (fates : Nat → Fate) :
    code (outcomes plans fates) =
      if ∀ i < plans.length, (fates i).exitCode? = some 0 then 0 else 1 := by
  rw [code, failures_eq]
  exact if_congr (List.isEmpty_iff.trans (failed_eq_nil_iff plans fates)) rfl rfl

end Report

namespace Workspace

variable {σ : Type} [Host σ] {w : Workspace} {coverage : Coverage} {aliases : List String}
  {word : String} {flags : List String} {s : Simulation σ} {plans : List Plan}

/-- What a call over many packages writes, with what it ends, and the session after it. -/
def callMany (w : Workspace) (coverage : Coverage) (aliases : List String) (word : String)
    (flags : List String) (s : Simulation σ) :
    (List Output × Except CommandError Nat) × Simulation σ :=
  match w.runMany coverage aliases word flags s with
  | .error e => (([], .error e), s)
  | .ok (performed, t) => ((performed.outputs, performed.result.mapError .run), t)

theorem callMany_of_error {e : CommandError}
    (h : w.planMany coverage aliases word flags = .error e) :
    w.callMany coverage aliases word flags s = (([], .error e), s) := by
  rw [callMany, runMany, actMany, h]
  rfl

theorem callMany_of_plans (h : w.planMany coverage aliases word flags = .ok plans) :
    w.callMany coverage aliases word flags s =
      (((w.perform s (.ofPlans coverage word plans)).1.outputs,
        (w.perform s (.ofPlans coverage word plans)).1.result.mapError .run),
        (w.perform s (.ofPlans coverage word plans)).2) := by
  rw [callMany, runMany, actMany, h]
  rfl

theorem exists_code_of_plans (h : w.planMany coverage aliases word flags = .ok plans)
    (s : Simulation σ) :
    ∃ code, (w.callMany coverage aliases word flags s).1.2 = .ok code := by
  rw [callMany_of_plans h, Action.ofPlans]
  split
  · exact ⟨0, rfl⟩
  · split
    · exact ⟨0, rfl⟩
    · exact ⟨_, rfl⟩

theorem callMany_of_not_echoed (h : w.planMany coverage aliases word flags = .ok plans)
    (hne : plans ≠ []) (hecho : ∀ plan ∈ plans, plan.isEchoed = false) :
    w.callMany coverage aliases word flags s =
      (((Session.runPlans word plans s).1.report.1, .ok (Session.runPlans word plans s).1.report.2),
        (Session.runPlans word plans s).2) := by
  have hany : plans.any (·.isEchoed) = false :=
    List.any_eq_false.2 fun plan hplan => by simp [hecho plan hplan]
  have hact : Action.ofPlans coverage word plans = .runMany word plans := by
    rw [Action.ofPlans, if_neg (mt List.isEmpty_iff.1 hne), hany]
    rfl
  rw [callMany_of_plans h, hact]
  rfl

end Workspace

namespace Fanout

variable {tell : TaskId → String} {word : String} {plans : List Plan} {s t : System}
  {acts : List Act} {fates : Nat → Fate} {f : Fanout} {k : Nat}

theorem report_of_isDone (hs : s.Serving k)
    (hr : run? tell (ofPlans word plans, s) acts = some (f, t)) (hc : Conforms tell s fates acts)
    (hd : f.isDone = true) :
    f.report = Report.ofFates word plans fates := by
  obtain ⟨-, houtcomes, houtputs⟩ := of_isDone hs hr hc hd
  have houtcomes : f.outcomes = Report.outcomes plans fates := houtcomes
  rw [report, houtputs, houtcomes]
  rfl

end Fanout

namespace Workspace

/-- A call over many packages that fails has done nothing. Otherwise there is one report for every
way in which its commands can end: on whatever pool the call goes on, whatever happens first, as
long as it is not done it can go on in that way, it is done after so many steps, and then each
command was given to the pool once and this is the report. The call makes such a run on every
host. -/
theorem callMany_complete (w : Workspace) (coverage : Coverage) (aliases : List String)
    (word : String) (flags : List String) :
    (∀ {σ : Type} [Host σ] (s : Simulation σ) (error : CommandError),
      (w.callMany coverage aliases word flags s).1.2 = .error error →
      w.planMany coverage aliases word flags = .error error ∧
        w.callMany coverage aliases word flags s = (([], .error error), s)) ∧
    ∀ plans, w.planMany coverage aliases word flags = .ok plans → plans ≠ [] →
      (∀ plan ∈ plans, plan.isEchoed = false) →
      ∃ report : (Nat → Fate) → List Output × Nat,
        (∀ fates,
          Output.text false .out (report fates).1 =
            "┌─ Running '" ++ word ++ "' for " ++ toString plans.length ++ " packages...\n" ++
              String.join (plans.map fun plan => "├─> " ++ plan.invocation.display ++ "\n") ++
              String.join ((Report.outcomes plans fates).map Report.told) ++
              Report.verdict (Report.outcomes plans fates) ∧
          Output.text false .err (report fates).1 =
            String.join ((Report.outcomes plans fates).map Report.complained) ∧
          (report fates).2 = if ∀ i < plans.length, (fates i).exitCode? = some 0 then 0 else 1) ∧
        (∀ {capacity : Nat} {before : List Event} {s : System},
          (System.ofPool (.ofCapacity capacity)).run? before = some s → .shutDown ∉ before →
          ∀ {tell : TaskId → String} {fates : Nat → Fate} {acts : List Fanout.Act} {f : Fanout}
            {t : System}, Fanout.run? tell (.ofPlans word plans, s) acts = some (f, t) →
              Fanout.Conforms tell s fates acts →
            acts.length ≤ 10 * plans.length + s.turnsLeft ∧
            (f.isDone = false → ∃ act q, Fanout.step? tell (f, t) act = some q ∧
              Fanout.Conforms tell s fates (acts ++ [act])) ∧
            (f.isDone = true → f.report = report fates ∧
              t.tasks.drop s.tasks.length = plans.zipIdx.map fun p => .submission
                { program := p.1.invocation.program, args := p.1.invocation.args,
                  environment := p.1.invocation.environment, isCaptured := true }
                (match fates p.2 with
                  | .answered answer => .answered answer
                  | .lost _ => .dropped))) ∧
        ∀ {σ : Type} [Host σ] {runs : σ → ProcessId → Prop}, Host.Lawful runs →
          ∀ s : Simulation σ, s.Ready runs → s.pool.isAccepting = true →
          ∃ (acts : List Fanout.Act) (f : Fanout) (fates : Nat → Fate) (t : Simulation σ),
            Fanout.run? Session.cancelled (.ofPlans word plans, s.system) acts =
              some (f, t.system) ∧
            f.isDone = true ∧ Fanout.Conforms Session.cancelled s.system fates acts ∧
            s.Path (plans.map (fun plan => .submit
              { program := plan.invocation.program, args := plan.invocation.args,
                environment := plan.invocation.environment, isCaptured := true }) ++
              acts.filterMap Fanout.Act.event?) t ∧
            w.callMany coverage aliases word flags s =
              (((report fates).1, .ok (report fates).2), t) := by
  refine ⟨fun s error herror => ?_, fun plans h hne hecho =>
    ⟨Report.ofFates word plans,
      fun fates => ⟨Report.text_out_ofFates .., Report.text_err_ofFates ..,
      Report.code_outcomes ..⟩, ?_, ?_⟩⟩
  · cases hplan : w.planMany coverage aliases word flags with
    | error e =>
      have hcall := callMany_of_error (s := s) hplan
      rw [hcall] at herror
      cases herror
      exact ⟨rfl, hcall⟩
    | ok plans =>
      obtain ⟨code, hcode⟩ := exists_code_of_plans hplan s
      cases hcode.symm.trans herror
  · intro capacity before s hbefore hquiet tell fates acts f t hr hc
    have hs := System.Serving.of_run? hbefore (.ofPool capacity) hquiet
    have hlen := Fanout.length_add_actsLeft_le hr
    refine ⟨Nat.le_of_add_right_le hlen, Fanout.exists_step? hs hr hc,
      fun hd => ⟨Fanout.report_of_isDone hs hr hc hd, ?_⟩⟩
    refine (Fanout.of_isDone hs hr hc hd).1.trans (List.map_congr_left fun p _ => ?_)
    cases hfate : fates p.2 <;> rfl
  · intro σ _ runs laws s hs ha
    obtain ⟨k, hserving⟩ := hs.serving ha
    obtain ⟨acts, hr, hpath, hd⟩ := Session.exists_run_runPlans laws word plans hs
    obtain ⟨fates, hc⟩ := Fanout.exists_conforms hr hd
    refine ⟨acts, _, fates, _, hr, hd, hc, hpath, ?_⟩
    rw [callMany_of_not_echoed h hne hecho, Fanout.report_of_isDone hserving hr hc hd]

end Workspace

/-- A host on which the way in which a command ends is known beforehand, and which process ends
next. -/
structure Script where
  /-- Why there is no process for a command, or how waiting for it ends. -/
  fate : Request → Except SystemError (Except SystemError Ending)
  /-- The place of the process that ends next among so many. -/
  turn : Nat → Nat
  /-- The processes that run, in the order of their starts. -/
  live : List (ProcessId × Except SystemError Ending) := []

namespace Script

def fresh (h : Script) : ProcessId := (h.live.map (·.1)).max?.getD 0 + 1

def Runs (h : Script) (p : ProcessId) : Prop := p ∈ h.live.map (·.1)

instance : Host Script where
  start request h :=
    (h.fate request).map fun ending => (h.fresh, { h with live := h.live ++ [(h.fresh, ending)] })
  next? h := h.live[h.turn h.live.length % h.live.length]?.map fun ended =>
    (ended, { h with live := h.live.filter (·.1 ≠ ended.1) })
  leave _ h := h
  takeScreen h := ([], h)

theorem lawful : Host.Lawful Runs where
  start {request h p h'} hs := by
    obtain ⟨ending, -, heq⟩ := exists_of_map_eq_ok hs
    obtain ⟨rfl, rfl⟩ := Prod.mk.inj heq
    refine ⟨fun hmem => ?_, fun q => by simp [Runs]⟩
    exact absurd (List.le_max?_getD_of_mem hmem) (Nat.not_succ_le_self _)
  next {h p ending h'} hn := by
    obtain ⟨ended, hget, heq⟩ := Option.map_eq_some_iff.1 hn
    obtain ⟨rfl, rfl⟩ := Prod.mk.inj heq
    refine ⟨List.mem_map_of_mem (f := Prod.fst) (List.mem_of_getElem? hget), fun q => ?_⟩
    simp [Runs]
  stuck {h} hn p hmem := by
    have hlen := List.getElem?_eq_none_iff.1 (Option.map_eq_none_iff.1 hn)
    have hpos : 0 < h.live.length := by
      have hpos := List.length_pos_of_mem hmem
      rwa [List.length_map] at hpos
    exact absurd (Nat.mod_lt (h.turn h.live.length) hpos) (Nat.not_lt_of_le hlen)

end Script

namespace Workspace

/-- Of four packages one builds, one does not, one is given up, and one cannot be started. -/
def mixed : Workspace where
  config :=
    { packages := .ofList [("a", .direct "@fux/a"), ("b", .direct "@fux/b"),
        ("c", .direct "@fux/c"), ("d", .direct "@fux/d")] }
  settings := {}
  environment := ∅

def mixedPlan (project : String) : Plan where
  label := project
  invocation := { program := "npx", args := ["nx", "run", project ++ ":build"] }
  isEchoed := false
  isTraced := false

def mixedPlans : List Plan := ["@fux/a", "@fux/b", "@fux/c", "@fux/d"].map mixedPlan

def mixedFates : Nat → Fate
  | 0 => .answered (.ok { code := 0, out := "built" })
  | 1 => .answered (.ok { code := 3, err := "broken" })
  | 3 => .answered (.error .emptyCommand)
  | i => .lost (Session.cancelled i)

/-- There is one slot, and the second command is the first to reach it, while the third and the
fourth are not yet called; the first waits for it, and the fourth behind the first. -/
def mixedActs : List Fanout.Act :=
  [.spawn, .spawn, .advance 1, .advance 1, .advance 1, .advance 1, .spawn, .advance 0, .advance 0,
    .advance 0, .drop 2, .spawn, .finish 1 (.ok { code := 3, err := "broken" }), .advance 3,
    .advance 3, .advance 3, .advance 1, .advance 0, .advance 0,
    .finish 0 (.ok { code := 0, out := "built" }), .advance 0, .collect, .collect, .collect,
    .advance 3, .advance 3, .finish 3 (.error .emptyCommand), .advance 3, .collect]

def oneByOne : Simulation Script :=
  .ofPool (.ofCapacity 1) { fate := fun _ => .ok (.ok { code := 3 }), turn := fun _ => 0 }

theorem conforms_mixedActs :
    Fanout.Conforms Session.cancelled (.ofPool (.ofCapacity 1)) mixedFates mixedActs := by
  have hid (i : Nat) : (System.ofPool (.ofCapacity 1)).tasks.length + i = i := Nat.zero_add i
  refine ⟨fun i reason hi => ?_, fun i answer hmem => ?_, fun i hmem => ?_⟩
  · rw [hid]
    unfold mixedFates at hi
    split at hi <;> cases hi
    rfl
  · rw [hid] at hmem
    simp only [mixedActs, List.mem_cons, Fanout.Act.finish.injEq, reduceCtorEq, List.not_mem_nil,
      false_or, or_false] at hmem
    obtain ⟨rfl, rfl⟩ | ⟨rfl, rfl⟩ | ⟨rfl, rfl⟩ := hmem <;> rfl
  · rw [hid] at hmem
    simp only [mixedActs, List.mem_cons, Fanout.Act.drop.injEq, reduceCtorEq, List.not_mem_nil,
      false_or, or_false] at hmem
    exact hmem ▸ ⟨_, rfl⟩

theorem callMany_complete_mixed :
    mixed.planMany .all [] "build" [] = .ok mixedPlans ∧
    (∃ error, mixed.planMany .all ["x"] "build" [] = .error error ∧
      mixed.callMany .all ["x"] "build" [] oneByOne = (([], .error error), oneByOne)) ∧
    (∃ f t outputs,
      Fanout.run? Session.cancelled
        (.ofPlans "build" mixedPlans, .ofPool (.ofCapacity 1)) mixedActs = some (f, t) ∧
      f.isDone = true ∧ f.report = (outputs, 1) ∧
      Output.text false .out outputs =
        "┌─ Running 'build' for 4 packages...\n├─> npx nx run @fux/a:build\n" ++
        "├─> npx nx run @fux/b:build\n├─> npx nx run @fux/c:build\n├─> npx nx run @fux/d:build\n" ++
        "✓ @fux/a (<duration>)\nbuilt\n✗ @fux/b (exit code 3)\n" ++
        "└─ 3 of 4 packages failed: @fux/b, @fux/c, @fux/d\n" ∧
      Output.text false .err outputs = "broken\n✗ @fux/c: task 2 was cancelled\n" ++
        "✗ @fux/d: " ++ RunError.emptyCommand.message ++ "\n") ∧
    ∃ acts f t, Fanout.run? Session.cancelled (.ofPlans "build" mixedPlans, oneByOne.system) acts =
        some (f, t) ∧ f.isDone = true ∧
      (mixed.callMany .all [] "build" [] oneByOne).1 = (f.report.1, .ok f.report.2) := by
  have hplans : mixed.planMany .all [] "build" [] = .ok mixedPlans :=
    eq_ok_of_toOption (by decide +kernel)
  have herror : (mixed.callMany .all ["x"] "build" [] oneByOne).1.2 =
      .error (.resolve (.unknownAlias "x")) := rfl
  have hready : oneByOne.Ready Script.Runs := .ofPool 1 fun _ => List.not_mem_nil
  have hrun :
      (Fanout.run? Session.cancelled
        (.ofPlans "build" mixedPlans, .ofPool (.ofCapacity 1)) mixedActs).map (·.1.isDone) =
          some true := by
    decide +kernel
  obtain ⟨⟨f, t⟩, hrun, hdone⟩ := Option.map_eq_some_iff.1 hrun
  obtain ⟨report, htext, hany, hhost⟩ :=
    (callMany_complete mixed .all [] "build" []).2 mixedPlans hplans (by decide) (by decide)
  obtain ⟨hout, herr, hcode⟩ := htext mixedFates
  have hstart : (System.ofPool (.ofCapacity 1)).run? [] = some (.ofPool (.ofCapacity 1)) := rfl
  have hquiet : Event.shutDown ∉ [] := List.not_mem_nil
  obtain ⟨-, -, hreport⟩ := hany hstart hquiet hrun conforms_mixedActs
  refine ⟨hplans, ⟨_, (callMany_complete mixed .all ["x"] "build" []).1 oneByOne _ herror⟩,
    ⟨f, t, (report mixedFates).1, hrun, hdone, ?_, ?_, ?_⟩, ?_⟩
  · have hfailed : (report mixedFates).2 = 1 := hcode.trans (by decide)
    rw [(hreport hdone).1, ← hfailed]
  · exact hout.trans (by decide +kernel)
  · exact herr.trans (by decide +kernel)
  · obtain ⟨acts, f, fates, t, hrun, hdone, hc, -, hcall⟩ := hhost Script.lawful oneByOne hready rfl
    obtain ⟨-, -, hreport⟩ := hany hstart hquiet hrun hc
    exact ⟨acts, f, t.system, hrun, hdone, by rw [hcall, (hreport hdone).1]⟩

end Workspace

end Shorthand
