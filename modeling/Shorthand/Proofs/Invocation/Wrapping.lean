import Shorthand.Invocation.Assembly
import Shorthand.Proofs.Words.Quoting
set_option autoImplicit false

namespace Shorthand

open Words (NulFree)

theorem Script.line_sh {shell : Shell} (hs : shell = .linux ∨ shell = .unknown)
    {words : List String} (hn : ∀ w ∈ words, NulFree w) :
    ∃ q, Words.join words = some q ∧ Script.line shell words = .ok q := by
  obtain ⟨q, hq⟩ : ∃ q, Words.join words = some q := ⟨_, Words.join_of_nulFree hn⟩
  have hany : (words.any fun w => w.toList.contains '\x00') = false := by
    simpa [NulFree] using hn
  refine ⟨q, hq, ?_⟩
  rcases hs with rfl | rfl
  all_goals
    rw [Script.line, if_neg (by rw [hany]; decide)]
    simp only [hq, Option.elim_some]

namespace Invocation

/-- The fragments that do more than set a variable, as they stand at the start of a script. -/
def scriptStart (before : List String) : String :=
  " ".intercalate ((before.filter fun f => (Assignment.ofFragment? f).isNone).map Text.trim)

theorem assemble_direct (shell : Shell) {before : List String} (program : String)
    (args : List String) (hb : ∀ f ∈ before, (Assignment.ofFragment? f).isSome) :
    assemble shell before (program :: args) =
      .ok { program, args, environment := before.filterMap Assignment.ofFragment? } := by
  have hf : (before.filter fun f => (Assignment.ofFragment? f).isNone) = [] :=
    List.filter_eq_nil_iff.2 fun f hf => by simp [Option.isSome_iff_ne_none.1 (hb f hf)]
  simp [assemble, hf]

theorem assemble_script {shell : Shell} {before command : List String} {q : String}
    (hb : ∃ f ∈ before, Assignment.ofFragment? f = none) (hc : command ≠ [])
    (hq : Script.line shell command = .ok q) :
    assemble shell before command =
      .ok { program := (Script.interpreter shell).1
            args := (Script.interpreter shell).2 ++ [scriptStart before ++ " " ++ q]
            environment := before.filterMap Assignment.ofFragment? } := by
  obtain ⟨f, hf, hnone⟩ := hb
  have hne : (before.filter fun f => (Assignment.ofFragment? f).isNone).map Text.trim ≠ [] :=
    List.ne_nil_of_mem (List.mem_map_of_mem (List.mem_filter.2 ⟨hf, by simp [hnone]⟩))
  obtain ⟨g, gs, hg⟩ := List.exists_cons_of_ne_nil hne
  obtain ⟨w, ws, rfl⟩ := List.exists_cons_of_ne_nil hc
  simp only [assemble, hg, scriptStart, hq]
  rfl

theorem filterMap_filter_isSome (before : List String) :
    (before.filter fun f => (Assignment.ofFragment? f).isSome).filterMap Assignment.ofFragment? =
      before.filterMap Assignment.ofFragment? := by
  rw [List.filterMap_filter]
  refine congrArg (before.filterMap ·) (funext fun f => ?_)
  cases Assignment.ofFragment? f <;> rfl

/-- With fragments that need a shell, `sh` gets one line: these fragments, then the very words that
are started where there are no such fragments. What the fragments say is read first, unless it holds
a `#`. -/
theorem split_script_of_assemble {shell : Shell} {before command : List String}
    (hs : shell = .linux ∨ shell = .unknown) (hb : ∃ f ∈ before, Assignment.ofFragment? f = none)
    (hc : command ≠ []) (hn : ∀ w ∈ command, NulFree w) :
    ∃ q : String,
      assemble shell before command =
        .ok { program := "sh", args := ["-c", scriptStart before ++ " " ++ q]
              environment := before.filterMap Assignment.ofFragment? } ∧
      Words.split q = some command ∧
      (∀ ws, Words.split (scriptStart before) = some ws → '#' ∉ (scriptStart before).toList →
        Words.split (scriptStart before ++ " " ++ q) = some (ws ++ command)) ∧
      ∃ direct : Invocation,
        assemble shell (before.filter fun f => (Assignment.ofFragment? f).isSome) command =
          .ok direct ∧
        direct.words = command ∧ direct.environment = before.filterMap Assignment.ofFragment? := by
  obtain ⟨q, hj, hq⟩ := Script.line_sh hs hn
  have hi : Script.interpreter shell = ("sh", ["-c"]) := by rcases hs with rfl | rfl <;> rfl
  have hsplit : Words.split q = some command := Words.split_join hn hj
  refine ⟨q, ?_, hsplit, fun ws hws hh => Words.split_append_blank hh hws hsplit, ?_⟩
  · rw [assemble_script hb hc hq, hi]; rfl
  · obtain ⟨program, args, rfl⟩ := List.exists_cons_of_ne_nil hc
    refine ⟨_, assemble_direct shell program args fun f hf => ?_, rfl,
      filterMap_filter_isSome before⟩
    exact (List.mem_filter.1 hf).2

theorem split_script_of_assemble_cd :
    (∃ f ∈ ["A='x y'", " cd . &&"], Assignment.ofFragment? f = none) ∧
    (∀ w ∈ ["say", "it's ^!", ""], NulFree w) ∧
    ∃ q : String,
      assemble .linux ["A='x y'", " cd . &&"] ["say", "it's ^!", ""] =
        .ok { program := "sh", args := ["-c", scriptStart ["A='x y'", " cd . &&"] ++ " " ++ q]
              environment := ["A='x y'", " cd . &&"].filterMap Assignment.ofFragment? } ∧
      Words.split q = some ["say", "it's ^!", ""] ∧
      Words.split (scriptStart ["A='x y'", " cd . &&"] ++ " " ++ q) =
        some (["cd", ".", "&&"] ++ ["say", "it's ^!", ""]) := by
  have hb : ∃ f ∈ ["A='x y'", " cd . &&"], Assignment.ofFragment? f = none :=
    ⟨" cd . &&", by simp, by decide +kernel⟩
  have hn : ∀ w ∈ ["say", "it's ^!", ""], NulFree w := by decide +kernel
  obtain ⟨q, hq, hsplit, hscript, -⟩ := split_script_of_assemble (.inl rfl) hb (by simp) hn
  exact ⟨hb, hn, q, hq, hsplit, hscript _ (by decide +kernel) (by decide +kernel)⟩

end Invocation

end Shorthand
