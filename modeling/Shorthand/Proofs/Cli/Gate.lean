import Shorthand.Cli.Dispatch
import Shorthand.Host.Memory
import Shorthand.Machine.Programs
import Shorthand.Proofs.Cli.Routing
import Shorthand.Session
/-!
A configuration with problems is never executed. Whatever the words of the command line are, what
comes of them only tells something: the help text to those who ask for it, and to all others what
the problems are.
-/
set_option autoImplicit false

namespace Shorthand

namespace App

variable {a : App} {words : List String}

/-- There are no words, or the first calls for the help text. -/
def AsksForHelp (words : List String) : Prop :=
  words = [] ∨ words.head? = some "help" ∨ words.head? = some "h"

theorem asksForHelp_cons {word : String} {rest : List String} :
    AsksForHelp (word :: rest) ↔ word ∈ Builtin.help.words := by
  simp [AsksForHelp, Builtin.words]

/-- The two builtins that only tell something are all that gets past the gate. -/
theorem isAllowed_iff_of_invalid (h : a.config.isValid = false) (route : Route) :
    a.isAllowed route = true ↔ route = .builtin .help ∨ route = .builtin .validate := by
  cases route with
  | builtin b => cases b <;> simp [isAllowed, h, Builtin.toleratesProblems]
  | command => simp [isAllowed, h]
  | aliased => simp [isAllowed, h]
  | unknown => simp [isAllowed, h]

theorem dispatch_help (h : AsksForHelp words) : a.dispatch words = { action := .ok a.help } := by
  cases words with
  | nil => rfl
  | cons word rest =>
    have hroute : a.config.route word = .builtin .help :=
      Config.route_eq_builtin_iff.2 (asksForHelp_cons.1 h)
    simp [dispatch, hroute, isAllowed, Builtin.toleratesProblems, runBuiltin]

theorem dispatch_of_invalid (h : a.config.isValid = false) (hwords : ¬AsksForHelp words) :
    a.dispatch words = { action := .ok a.reportProblems } := by
  cases words with
  | nil => exact absurd (.inl rfl) hwords
  | cons word rest =>
    have hhelp : a.config.route word ≠ .builtin .help := fun hroute =>
      hwords (asksForHelp_cons.2 (Config.route_eq_builtin_iff.1 hroute))
    by_cases hvalidate : a.config.route word = .builtin .validate
    · simp [dispatch, hvalidate, isAllowed, Builtin.toleratesProblems, runBuiltin, validate, h]
    · have hclosed : a.isAllowed (a.config.route word) = false :=
        Bool.eq_false_iff.2 fun hopen =>
          ((isAllowed_iff_of_invalid h _).1 hopen).elim hhelp hvalidate
      simp [dispatch, hclosed]

def problemLine (problem : Problem) : Output :=
  complain ["  ", paint (.plain .red) "✗", " ", paint (.plain .red) problem.message]

def problemLines (a : App) : List Output :=
  complain [paint (.strong .red) "Invalid configuration:",
    " " ++ a.configPath] :: a.config.problems.map problemLine

theorem reportProblems_eq (a : App) : a.reportProblems = .tell a.problemLines 1 := rfl

theorem text_out_problemLines (inColor : Bool) (a : App) :
    Output.text inColor .out a.problemLines = "" := by
  refine Output.text_eq_empty fun o ho => ?_
  rcases List.mem_cons.1 ho with rfl | ho
  · simp
  · obtain ⟨problem, -, rfl⟩ := List.mem_map.1 ho
    simp [problemLine]

theorem text_err_problemLines (a : App) :
    Output.text false .err a.problemLines = "Invalid configuration: " ++ a.configPath ++ "\n" ++
      String.join (a.config.problems.map fun problem => "  ✗ " ++ problem.message ++ "\n") := by
  have hline (problem : Problem) :
      (problemLine problem).render false = "  ✗ " ++ problem.message ++ "\n" := by
    simp [problemLine, complain, paint, ← String.toList_inj]
  have hchannel (problem : Problem) : (problemLine problem).channel = .err := rfl
  simp only [problemLines, Output.text_cons, Output.text_map, hline, hchannel]
  simp [complain, paint, ← String.toList_inj]

theorem channel_of_mem_help {c : Config} {path : String} :
    ∀ o ∈ Help.all c path, o.channel = .out := by
  have hrow (style : Style) (label : String) (rest : Line) :
      (Help.row style label rest).channel = .out := rfl
  have halias (short : String) : (Help.aliasRow c short).channel = .out := by
    unfold Help.aliasRow
    split <;> rfl
  have hheading (title : String) : ∀ o ∈ Help.heading title, o.channel = .out := by
    simp [Help.heading, Help.blank]
  have hnone : ∀ o ∈ [Help.none], o.channel = .out := by simp [Help.none]
  have hlast (spans : Line) : ∀ o ∈ [Help.blank, say spans], o.channel = .out := by
    simp [Help.blank]
  simp only [Help.all, List.forall_mem_append]
  refine ⟨⟨⟨⟨⟨⟨⟨?_, ?_⟩, ?_⟩, ?_⟩, ?_⟩, ?_⟩, ?_⟩, hlast _⟩
  · simp only [Help.usage, List.forall_mem_append, List.forall_mem_map]
    exact ⟨⟨hlast _, fun _ _ => rfl⟩, by simp [Help.blank]⟩
  · simp [hrow]
  · unfold Help.aliases
    split
    · exact List.forall_mem_append.2 ⟨hheading _, hnone⟩
    · exact List.forall_mem_append.2 ⟨hheading _, List.forall_mem_map.2 fun short _ => halias short⟩
  · unfold Help.targets
    extract_lets
    split
    · exact List.forall_mem_append.2 ⟨hheading _, hnone⟩
    · refine List.forall_mem_append.2 ⟨hheading _, fun o ho => ?_⟩
      obtain ⟨tier, -, ho⟩ := List.mem_flatMap.1 ho
      obtain ⟨entry, -, rfl⟩ := List.mem_map.1 ho
      rfl
  · unfold Help.flags
    split
    · exact List.forall_mem_append.2 ⟨hheading _, hnone⟩
    · exact List.forall_mem_append.2 ⟨hheading _, List.forall_mem_map.2 fun _ _ => rfl⟩
  · unfold Help.commands
    split
    · simp
    · exact List.forall_mem_append.2 ⟨hheading _, List.forall_mem_map.2 fun _ _ => rfl⟩
  · unfold Help.problems
    split
    · simp
    · exact hlast _

theorem exists_text_help {c : Config} (h : c.isValid = false) (path : String) :
    ∃ usage middle, Output.text false .out (Help.all c path) =
      "\n--- pae ---\n" ++ usage ++ "  config          " ++ path ++ "\n" ++ middle ++
        "\nThe configuration has " ++ toString c.problems.length ++
        " problem(s). Run \x60pae validate\x60 for details.\n" ++
          "\n---------------------------------\n" := by
  have husage : Output.text false .out Help.usage =
      "\n--- pae ---\n" ++ Output.text false .out (Help.usage.drop 2) := by
    have hhead : Output.text false .out (Help.usage.take 2) = "\n--- pae ---\n" := by
      simp [Help.usage, Help.blank, say, paint]
    rw [← hhead, ← Output.text_append, List.take_append_drop]
  have hrow : Output.text false .out [Help.row (.plain .blue) "config" [path]] =
      "  config          " ++ path ++ "\n" := by
    simp [Help.row, column, say, Output.render, Line.render, Span.render, Span.padded,
      ← String.toList_inj]
  have hproblems : Output.text false .out (Help.problems c) =
      "\nThe configuration has " ++ toString c.problems.length ++
        " problem(s). Run \x60pae validate\x60 for details.\n" := by
    simp [Help.problems, h, Help.blank, say, paint, ← String.toList_inj]
  have hlast : Output.text false .out [Help.blank, say ["---------------------------------"]] =
      "\n---------------------------------\n" := by
    simp [Help.blank, say]
  refine ⟨Output.text false .out (Help.usage.drop 2),
    Output.text false .out (Help.aliases c ++ Help.targets c ++ Help.flags c ++ Help.commands c),
      ?_⟩
  simp only [Help.all, Output.text_append, husage, hrow, hproblems, hlast, String.append_assoc]

/-- With a configuration that has problems, no words lead to a process: the session is left as it
is, with its pool and its host. The help text is told with the code 0; else every problem is told,
on the standard error and with nothing besides, and the code is 1. -/
theorem dispatch_problems {σ : Type} [Host σ] (a : App) (h : a.config.isValid = false)
    (words : List String) (s : Simulation σ) :
    ∃ outputs code,
      a.dispatch words = { warnings := [], action := .ok (.tell outputs code) } ∧
      a.workspace.perform s (.tell outputs code) = (⟨outputs, .ok code⟩, s) ∧
      (AsksForHelp words → code = 0 ∧ outputs = Help.all a.config a.configPath ∧
        (∀ inColor, Output.text inColor .err outputs = "") ∧
        ∃ usage middle, Output.text false .out outputs =
          "\n--- pae ---\n" ++ usage ++ "  config          " ++ a.configPath ++ "\n" ++ middle ++
            "\nThe configuration has " ++ toString a.config.problems.length ++
            " problem(s). Run \x60pae validate\x60 for details.\n" ++
              "\n---------------------------------\n") ∧
      (¬AsksForHelp words → code = 1 ∧ (∀ inColor, Output.text inColor .out outputs = "") ∧
        Output.text false .err outputs = "Invalid configuration: " ++ a.configPath ++ "\n" ++
          String.join (a.config.problems.map fun problem =>
            "  ✗ " ++ problem.message ++ "\n")) := by
  by_cases hwords : AsksForHelp words
  · refine ⟨Help.all a.config a.configPath, 0, dispatch_help hwords, rfl, fun _ => ?_,
      absurd hwords⟩
    exact ⟨rfl, rfl, fun inColor =>
      Output.text_eq_empty fun o ho => by simp [channel_of_mem_help o ho],
      exists_text_help h a.configPath⟩
  · exact ⟨a.problemLines, 1, by rw [dispatch_of_invalid h hwords, reportProblems_eq], rfl,
      fun hhelp => absurd hhelp hwords,
      fun _ => ⟨rfl, fun inColor => text_out_problemLines inColor a, text_err_problemLines a⟩⟩

/-- A command with the name of an alias, and a package whose default is none of its variants. -/
def broken : App where
  workspace :=
    { config :=
        { packages := .ofList [("dc", .structured
            { aliases := ["dc"], variants := .ofList [("core", "dcc")], default := "ext" })]
          commands := .ofList [("dc", "say hello")] }
      settings := {}
      environment := ∅ }
  configPath := "pae.config.json"

theorem dispatch_problems_broken :
    broken.config.isValid = false ∧ ¬AsksForHelp ["all", "build"] ∧ AsksForHelp ["h", "dc"] ∧
    (∃ outputs,
      broken.dispatch ["all", "build"] = { action := .ok (.tell outputs 1) } ∧
      (broken.workspace.perform (.ofPool (.ofCapacity 1) (Machine.withFiles .standard [] []))
        (.tell outputs 1)).2 =
        .ofPool (.ofCapacity 1) (Machine.withFiles .standard [] []) ∧
      Output.text false .err outputs = "Invalid configuration: pae.config.json\n" ++
        "  ✗ 'dc' is both an expandable command and a package alias; " ++
        "the CLI cannot tell them apart.\n" ++
        "  ✗ Package 'dc' has default variant 'ext', which is not declared in 'variants'.\n") ∧
    ∃ outputs usage middle,
      broken.dispatch ["h", "dc"] = { action := .ok (.tell outputs 0) } ∧
      Output.text false .err outputs = "" ∧
      Output.text false .out outputs = "\n--- pae ---\n" ++
        usage ++ "  config          pae.config.json\n" ++ middle ++
        "\nThe configuration has 2 problem(s). Run \x60pae validate\x60 for details.\n" ++
        "\n---------------------------------\n" := by
  have hinvalid : broken.config.isValid = false := by decide +kernel
  have hwords : ¬AsksForHelp ["all", "build"] := by simp [AsksForHelp]
  have hhelp : AsksForHelp ["h", "dc"] := by simp [AsksForHelp]
  have hrun (words : List String) := dispatch_problems broken hinvalid words
    (.ofPool (.ofCapacity 1) (Machine.withFiles .standard [] []))
  refine ⟨hinvalid, hwords, hhelp, ?_, ?_⟩
  · obtain ⟨outputs, code, hdispatch, hperform, -, htold⟩ := hrun ["all", "build"]
    obtain ⟨rfl, -, htext⟩ := htold hwords
    exact ⟨outputs, hdispatch, congrArg Prod.snd hperform, htext.trans (by decide +kernel)⟩
  · obtain ⟨outputs, code, hdispatch, -, htold, -⟩ := hrun ["h", "dc"]
    obtain ⟨rfl, -, herr, usage, middle, hout⟩ := htold hhelp
    have hcount : toString broken.config.problems.length = "2" := by decide +kernel
    refine ⟨outputs, usage, middle, hdispatch, herr false, hout.trans ?_⟩
    rw [hcount]
    simp [← String.toList_inj, broken]

end App

end Shorthand
