import Shorthand.Proofs.Override
import Shorthand.Proofs.Shell.Fingerprint
/-!
Whether the answer that a detector keeps is still right. It is trusted while the fingerprint stays
the same, so it is right as long as the text behind the fingerprint tells the environments apart
that have different shells.
-/
set_option autoImplicit false

namespace Shorthand.Detector

/-- What happens to an environment, or is asked of the detector in it. -/
inductive Use where
  | set (name value : String)
  | unset (name : String)
  | clear
  | examine
  | answer
  deriving DecidableEq, Repr

def answers (d : Detector) (env : Environment) : List Use → List (Environment × Shell)
  | [] => []
  | .set name value :: rest => d.answers (env.insert name value) rest
  | .unset name :: rest => d.answers (env.erase name) rest
  | .clear :: rest => d.clear.answers env rest
  | .examine :: rest => (d.examine env).2.answers env rest
  | .answer :: rest => (env, (d.answer env).1) :: (d.answer env).2.answers env rest

def Keeps (S : Environment → Prop) (d : Detector) : Prop :=
  ∀ kept shell, d.cache = some (kept, shell) →
    ∃ env, S env ∧ kept = Shell.fingerprint env ∧ shell = Shell.detect env

theorem answer_of_cache {d : Detector} {env : Environment} {shell : Shell}
    (h : d.cache = some (Shell.fingerprint env, shell)) : d.answer env = (shell, d) := by
  simp [answer, h]

theorem answer_of_cache_ne {d : Detector} {env : Environment}
    (h : ∀ shell, d.cache ≠ some (Shell.fingerprint env, shell)) :
    d.answer env = (Shell.detect env,
      { cache := some (Shell.fingerprint env, Shell.detect env),
        examinations := d.examinations + 1 }) := by
  unfold answer
  cases hc : d.cache with
  | none => rfl
  | some entry =>
    obtain ⟨kept, shell⟩ := entry
    have hne : kept ≠ Shell.fingerprint env := by
      rintro rfl
      exact h shell hc
    simp only [if_neg hne]
    rfl

theorem Keeps.answer {S : Environment → Prop} {d : Detector} {env : Environment} (hk : d.Keeps S)
    (he : S env)
    (hS : ∀ a b, S a → S b → Shell.fingerprint a = Shell.fingerprint b →
      Shell.detect a = Shell.detect b) :
    (d.answer env).1 = Shell.detect env ∧ (d.answer env).2.Keeps S := by
  by_cases hc : ∃ shell, d.cache = some (Shell.fingerprint env, shell)
  · obtain ⟨shell, hc⟩ := hc
    obtain ⟨kept, hkept, hprint, rfl⟩ := hk _ _ hc
    rw [answer_of_cache hc]
    exact ⟨hS kept env hkept he hprint.symm, hk⟩
  · rw [answer_of_cache_ne fun shell h => hc ⟨shell, h⟩]
    refine ⟨rfl, ?_⟩
    intro kept shell hcache
    simp only [Option.some.injEq, Prod.mk.injEq] at hcache
    exact ⟨env, he, hcache.1.symm, hcache.2.symm⟩

/-- If a fingerprint stands for one shell in `S`, all answers in `S` are right. -/
theorem answers_eq_of_keeps {S : Environment → Prop} {d : Detector} {env : Environment}
    {uses : List Use}
    (hS : ∀ a b, S a → S b → Shell.fingerprint a = Shell.fingerprint b →
      Shell.detect a = Shell.detect b)
    (hk : d.Keeps S) (ha : ∀ p ∈ d.answers env uses, S p.1) :
    ∀ p ∈ d.answers env uses, p.2 = Shell.detect p.1 := by
  induction uses generalizing d env with
  | nil => intro p hp; cases hp
  | cons use rest ih =>
    cases use with
    | set name value => exact ih hk ha
    | unset name => exact ih hk ha
    | clear => exact ih (fun _ _ h => by cases h) ha
    | examine => exact ih hk ha
    | answer =>
      obtain ⟨hright, hkeeps⟩ := hk.answer (ha _ List.mem_cons_self) hS
      intro p hp
      rcases List.mem_cons.1 hp with rfl | hp
      · exact hright
      · exact ih hkeeps (fun q hq => ha q (List.mem_cons_of_mem _ hq)) p hp

theorem answers_unset (d : Detector) (env : Environment) (names : List String) (rest : List Use) :
    d.answers env (names.map .unset ++ rest) =
      d.answers (names.foldl SortedMap.erase env) rest := by
  induction names generalizing env with
  | nil => rfl
  | cons name names ih => exact ih _

theorem answers_set (d : Detector) (env : Environment) (pairs : List (String × String))
    (rest : List Use) :
    d.answers env (pairs.map (fun e => .set e.1 e.2) ++ rest) =
      d.answers (pairs.foldl (fun m e => m.insert e.1 e.2) env) rest := by
  induction pairs generalizing env with
  | nil => rfl
  | cons pair pairs ih => exact ih _

theorem entries_foldl_erase (env : Environment) (names : List String) :
    (names.foldl SortedMap.erase env).entries = env.entries.filter (·.1 ∉ names) := by
  induction names generalizing env with
  | nil => simp
  | cons name names ih =>
    rw [List.foldl_cons, ih, SortedMap.erase, List.filter_filter]
    simp only [List.mem_cons, not_or, Bool.and_comm, Bool.decide_and]

theorem foldl_erase_keys (env : Environment) : env.keys.foldl SortedMap.erase env = ∅ := by
  apply SortedMap.ext
  rw [entries_foldl_erase, List.filter_eq_nil_iff.2]
  · rfl
  · intro e he
    have hkey : e.1 ∈ env.keys := List.mem_map_of_mem he
    simp [hkey]

def exchange (a b : Environment) : List Use :=
  a.keys.map .unset ++ b.entries.map fun e => .set e.1 e.2

theorem answers_exchange (d : Detector) (a b : Environment) (rest : List Use) :
    d.answers a (exchange a b ++ rest) = d.answers b rest := by
  have hset : b.entries.foldl (fun m e => m.insert e.1 e.2) (∅ : Environment) = b :=
    SortedMap.empty_override b
  rw [exchange, List.append_assoc, answers_unset, foldl_erase_keys, answers_set, hset]

theorem answers_of_fingerprint_eq {a b : Environment} {change : List Use}
    (hc : ∀ d rest, answers d a (change ++ rest) = answers d b rest)
    (h : Shell.fingerprint a = Shell.fingerprint b) :
    answers {} a (.answer :: (change ++ [.answer])) = [(a, Shell.detect a),
      (b, Shell.detect a)] := by
  let asked : Detector := { cache := some (Shell.fingerprint a, Shell.detect a), examinations := 1 }
  have hfirst : answer {} a = (Shell.detect a, asked) := answer_of_cache_ne (by simp)
  have hkept : asked.cache = some (Shell.fingerprint b, Shell.detect a) := by rw [← h]
  rw [answers, hfirst, hc, answers, answer_of_cache hkept]
  rfl

/-- As far as digests do not collide, a detector is right in all environments of `S` exactly if no
two of them have the same text behind their fingerprints and different shells; in plain environments
it is right. -/
theorem answers_eq_detect_iff {S : Environment → Prop}
    (hdigest : ∀ a b, S a → S b → Shell.fingerprint a = Shell.fingerprint b →
      Shell.fingerprintInput a = Shell.fingerprintInput b) :
    ((∀ env uses, (∀ p ∈ answers {} env uses, S p.1) →
        ∀ p ∈ answers {} env uses, p.2 = Shell.detect p.1) ↔
      ∀ a b, S a → S b → Shell.fingerprintInput a = Shell.fingerprintInput b →
        Shell.detect a = Shell.detect b) ∧
    ((∀ a, S a → Shell.IsPlain a Shell.decisiveNames) →
      ∀ env uses, (∀ p ∈ answers {} env uses, S p.1) → ∀ p ∈ answers {} env uses,
        p.2 = Shell.detect p.1) := by
  have hright (hS : ∀ a b, S a → S b → Shell.fingerprintInput a = Shell.fingerprintInput b →
      Shell.detect a = Shell.detect b) (env : Environment) (uses : List Use)
      (ha : ∀ p ∈ answers {} env uses, S p.1) :
      ∀ p ∈ answers {} env uses, p.2 = Shell.detect p.1 := by
    refine answers_eq_of_keeps ?_ (fun _ _ h => by cases h) ha
    intro a b hSa hSb hprint
    exact hS a b hSa hSb (hdigest a b hSa hSb hprint)
  refine ⟨⟨?_, hright⟩, ?_⟩
  · intro hall a b hSa hSb htext
    have hprint : Shell.fingerprint a = Shell.fingerprint b := by
      rw [Shell.fingerprint, htext, Shell.fingerprint]
    have hasked := answers_of_fingerprint_eq (fun d => answers_exchange d a b) hprint
    have h := hall a (.answer :: (exchange a b ++ [.answer])) (by simp [hasked, hSa, hSb])
    exact h (b, Shell.detect a) (by simp [hasked])
  · intro hplain
    apply hright
    intro a b hSa hSb htext
    exact Shell.detect_eq_of_fingerprintInput_eq (hplain a hSa) (hplain b hSb) htext

def inBash : Environment := .ofList [("SHELL", "/bin/bash")]

def inPwsh : Environment := inBash.insert "POWERSHELL_DISTRIBUTION_CHANNEL" "MSI"

theorem fingerprint_inBash_ne : Shell.fingerprint inBash ≠ Shell.fingerprint inPwsh := by
  decide +kernel

/-- The answer that is kept in one of two environments is not taken for the other, and each gets its
own. -/
theorem answers_eq_detect_iff_inBash :
    Shell.fingerprint inBash ≠ Shell.fingerprint inPwsh ∧
    (∀ a b, (a = inBash ∨ a = inPwsh) → (b = inBash ∨ b = inPwsh) →
      Shell.fingerprint a = Shell.fingerprint b →
        Shell.fingerprintInput a = Shell.fingerprintInput b) ∧
    answers {} inBash
      [.answer, .answer, .set "POWERSHELL_DISTRIBUTION_CHANNEL" "MSI", .answer, .examine,
        .clear, .answer, .unset "POWERSHELL_DISTRIBUTION_CHANNEL", .answer] =
      [(inBash, .linux), (inBash, .linux), (inPwsh, .pwsh), (inPwsh, .pwsh), (inBash, .linux)] := by
  have hdigest : ∀ a b, (a = inBash ∨ a = inPwsh) → (b = inBash ∨ b = inPwsh) →
      Shell.fingerprint a = Shell.fingerprint b →
        Shell.fingerprintInput a = Shell.fingerprintInput b := by
    rintro a b (rfl | rfl) (rfl | rfl) hprint
    · rfl
    · exact absurd hprint fingerprint_inBash_ne
    · exact absurd hprint.symm fingerprint_inBash_ne
    · rfl
  have hplain : ∀ a, (a = inBash ∨ a = inPwsh) → Shell.IsPlain a Shell.decisiveNames := by
    intro a ha
    have hentries : ∀ e ∈ a.entries, '\n' ∉ e.2.toList := by rcases ha with rfl | rfl <;> decide
    exact Shell.isPlain_of_not_mem
      (fun _ _ hvalue => hentries _ (SortedMap.get?_eq_some_iff.1 hvalue)) _
  have hset : inBash.insert "POWERSHELL_DISTRIBUTION_CHANNEL" "MSI" = inPwsh := rfl
  have hunset : inPwsh.erase "POWERSHELL_DISTRIBUTION_CHANNEL" = inBash := by decide
  let uses : List Use :=
    [.answer, .answer, .set "POWERSHELL_DISTRIBUTION_CHANNEL" "MSI", .answer, .examine, .clear,
    .answer, .unset "POWERSHELL_DISTRIBUTION_CHANNEL", .answer]
  have hasked : (answers {} inBash uses).map (·.1) = [inBash, inBash, inPwsh, inPwsh, inBash] := by
    simp [answers, uses, hset, hunset]
  have hknown : ∀ e ∈ [inBash, inBash, inPwsh, inPwsh, inBash], e = inBash ∨ e = inPwsh := by simp
  have hright := (answers_eq_detect_iff hdigest).2 hplain inBash uses fun p hp =>
    hknown p.1 (hasked ▸ List.mem_map_of_mem hp)
  have hpairs : answers {} inBash uses =
      ((answers {} inBash uses).map (·.1)).map fun env => (env, Shell.detect env) := by
    rw [List.map_map]
    exact (List.map_id _).symm.trans (List.map_congr_left fun p hp => Prod.ext rfl (hright p hp))
  rw [hasked] at hpairs
  exact ⟨fingerprint_inBash_ne, hdigest, hpairs.trans (by decide)⟩

def cutLate : Environment :=
  .ofList [("PSModulePath", "x\nPOWERSHELL_DISTRIBUTION_CHANNEL=y"),
    ("POWERSHELL_DISTRIBUTION_CHANNEL", "")]

def cutEarly : Environment :=
  .ofList [("PSModulePath", "x"),
    ("POWERSHELL_DISTRIBUTION_CHANNEL", "y\nPOWERSHELL_DISTRIBUTION_CHANNEL=")]

theorem answers_cutEarly :
    Shell.fingerprintInput cutLate = Shell.fingerprintInput cutEarly ∧
    answers {} ∅
      [.set "PSModulePath" "x\nPOWERSHELL_DISTRIBUTION_CHANNEL=y",
        .set "POWERSHELL_DISTRIBUTION_CHANNEL" "", .answer, .set "PSModulePath" "x",
        .set "POWERSHELL_DISTRIBUTION_CHANNEL" "y\nPOWERSHELL_DISTRIBUTION_CHANNEL=", .answer] =
      [(cutLate, .unknown), (cutEarly, .unknown)] ∧
    Shell.detect cutEarly = .pwsh := by
  have htext : Shell.fingerprintInput cutLate = Shell.fingerprintInput cutEarly := by decide +kernel
  have hprint : Shell.fingerprint cutLate = Shell.fingerprint cutEarly := by
    rw [Shell.fingerprint, htext, Shell.fingerprint]
  have hlate : Shell.detect cutLate = .unknown := by decide
  have hearly : Shell.detect cutEarly = .pwsh := by decide
  have hchange (d : Detector) (rest : List Use) : answers d cutLate
      ([.set "PSModulePath" "x",
        .set "POWERSHELL_DISTRIBUTION_CHANNEL" "y\nPOWERSHELL_DISTRIBUTION_CHANNEL="] ++ rest) =
      answers d cutEarly rest := rfl
  have hanswers := answers_of_fingerprint_eq hchange hprint
  rw [hlate] at hanswers
  exact ⟨htext, hanswers, hearly⟩

end Shorthand.Detector
