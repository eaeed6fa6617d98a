import Mathlib.Data.List.Infix
import Shorthand.Shell.Detection
/-!
What the text behind a fingerprint tells of the environment. It has a line for every variable, but a
value may have lines of its own: the text tells two environments apart as far as no line of a value
reads like the beginning of the line of the next variable.
-/
set_option autoImplicit false

namespace Shorthand

theorem Text.toBytes_inj {a b : String} (h : Text.toBytes a = Text.toBytes b) : a = b := by
  have henc : a.toList.utf8Encode = b.toList.utf8Encode := congrArg List.toByteArray h
  have hdec := congrArg ByteArray.utf8Decode? henc
  rw [List.utf8Decode?_utf8Encode, List.utf8Decode?_utf8Encode] at hdec
  simpa [String.toList_inj] using hdec

namespace Shell

def marks : List Char := ['=', '\x00']

/-- What stands behind the name of a variable in the text of a fingerprint. -/
def reading (env : Environment) (name : String) : List Char :=
  match env.get? name with
  | some value => '=' :: value.toList
  | none => '\x00' :: "unset".toList

def line (env : Environment) (name : String) : List Char :=
  name.toList ++ reading env name ++ ['\n']

theorem fingerprintPart_eq (env : Environment) (name : String) :
    fingerprintPart env name = Text.toBytes (.ofList (line env name)) := by
  unfold fingerprintPart line reading
  cases env.get? name <;> simp [Text.toBytes]

theorem fingerprintInput_eq (env : Environment) :
    fingerprintInput env = Text.toBytes (.ofList (fingerprintNames.flatMap (line env))) := by
  rw [fingerprintInput, funext (fingerprintPart_eq env)]
  simp [Text.toBytes, List.flatMap_assoc]

theorem flatMap_line_eq {env env' : Environment}
    (h : fingerprintInput env = fingerprintInput env') :
    fingerprintNames.flatMap (line env) = fingerprintNames.flatMap (line env') := by
  rw [fingerprintInput_eq, fingerprintInput_eq] at h
  simpa using congrArg String.toList (Text.toBytes_inj h)

theorem exists_reading_eq_cons (env : Environment) (name : String) :
    ∃ mark ∈ marks, ∃ rest, reading env name = mark :: rest := by
  unfold reading
  split
  · exact ⟨'=', by decide, _, rfl⟩
  · exact ⟨'\x00', by decide, _, rfl⟩

theorem get?_eq_of_reading_eq {env env' : Environment} {name : String}
    (h : reading env name = reading env' name) : env.get? name = env'.get? name := by
  unfold reading at h
  split at h <;> split at h <;> simp_all [String.toList_inj]

/-- Whether a value has a line, not its first, that begins like the line of the variable `next`. -/
def ReadsOn (value : List Char) (next : String) : Prop :=
  ∃ mark ∈ marks, '\n' :: (next.toList ++ [mark]) <:+: value

/-- No value among these variables reads on as the variable that comes after its own. -/
def IsPlain (env : Environment) : List String → Prop
  | name :: next :: rest =>
    (∀ value ∈ env.get? name, ¬ReadsOn value.toList next) ∧ IsPlain env (next :: rest)
  | _ => True

theorem isPlain_of_not_mem {env : Environment}
    (h : ∀ name, ∀ value ∈ env.get? name, '\n' ∉ value.toList) (names : List String) :
    IsPlain env names := by
  induction names with
  | nil => trivial
  | cons name rest ih =>
    cases rest with
    | nil => trivial
    | cons next rest =>
      refine ⟨?_, ih⟩
      rintro value hvalue ⟨mark, -, hread⟩
      exact h name value hvalue (hread.subset List.mem_cons_self)

theorem not_readsOn_reading {env : Environment} {name next : String}
    (h : ∀ value ∈ env.get? name, ¬ReadsOn value.toList next) :
    ¬ReadsOn (reading env name) next := by
  rintro ⟨mark, hmark, hread⟩
  unfold reading at hread
  split at hread
  · rename_i value hvalue
    rcases List.infix_cons_iff.1 hread with hfirst | hlater
    · simp at hfirst
    · exact h value hvalue ⟨mark, hmark, hlater⟩
  · have hmem := hread.subset List.mem_cons_self
    exact absurd hmem (by decide)

theorem isPrefix_of_break {n front r back : List Char} (hn : '\n' ∉ n) (hne : front ≠ [])
    (h : '\n' :: (n ++ r) = front ++ '\n' :: back) : '\n' :: n <+: front := by
  obtain ⟨c, front, rfl⟩ := List.exists_cons_of_ne_nil hne
  obtain ⟨rfl, htail⟩ := List.cons.inj h
  rcases List.append_eq_append_iff.1 htail with ⟨rest, hfront, -⟩ | ⟨rest, hn', hrest⟩
  · exact ⟨rest, by rw [hfront]; rfl⟩
  · cases rest with
    | nil => exact ⟨[], by simp [hn']⟩
    | cons d rest =>
      obtain ⟨rfl, -⟩ := List.cons.inj hrest
      exact absurd (by simp [hn']) hn

/-- A value that does not read on ends where the next line begins. -/
theorem append_break_inj {next : String} (hn : '\n' ∉ next.toList) {a b r r' : List Char}
    {c d : Char} (hc : c ∈ marks) (hd : d ∈ marks) (ha : ¬ReadsOn a next) (hb : ¬ReadsOn b next)
    (h : a ++ '\n' :: (next.toList ++ c :: r) = b ++ '\n' :: (next.toList ++ d :: r')) : a = b := by
  have hbreak {mark : Char} (hmark : mark ∈ marks) : '\n' ∉ next.toList ++ [mark] := by
    simp only [marks, List.mem_cons, List.not_mem_nil, or_false] at hmark
    rcases hmark with rfl | rfl <;> simp [hn]
  rcases List.append_eq_append_iff.1 h with ⟨rest, rfl, hrest⟩ | ⟨rest, rfl, hrest⟩
  · by_contra hne
    have hrest' : '\n' :: (next.toList ++ [c] ++ r) = rest ++ '\n' :: (next.toList ++ d :: r') := by
      simpa using hrest
    have hread := isPrefix_of_break (hbreak hc) (by simpa using hne) hrest'
    exact hb ⟨c, hc, hread.isInfix.trans (List.suffix_append a rest).isInfix⟩
  · by_contra hne
    have hrest' : '\n' :: (next.toList ++ [d] ++ r') = rest ++ '\n' :: (next.toList ++ c :: r) := by
      simpa using hrest
    have hread := isPrefix_of_break (hbreak hd) (by simpa using hne) hrest'
    exact ha ⟨d, hd, hread.isInfix.trans (List.suffix_append b rest).isInfix⟩

theorem get?_eq_of_lines_eq {env env' : Environment} {names : List String} {tail tail' : List Char}
    (hn : ∀ name ∈ names, '\n' ∉ name.toList) (hp : IsPlain env names) (hp' : IsPlain env' names)
    (h : names.flatMap (line env) ++ tail = names.flatMap (line env') ++ tail') :
    ∀ name ∈ names.dropLast, env.get? name = env'.get? name := by
  induction names with
  | nil => intro name hmem; cases hmem
  | cons name names ih =>
    cases names with
    | nil => intro name hmem; cases hmem
    | cons next names =>
      obtain ⟨hvalue, hp⟩ := hp
      obtain ⟨hvalue', hp'⟩ := hp'
      obtain ⟨c, hc, r, hr⟩ := exists_reading_eq_cons env next
      obtain ⟨d, hd, r', hr'⟩ := exists_reading_eq_cons env' next
      have hnext : '\n' ∉ next.toList := hn next (List.mem_cons_of_mem _ List.mem_cons_self)
      have hcut : reading env name ++ '\n' :: ((next :: names).flatMap (line env) ++ tail) =
          reading env' name ++ '\n' :: ((next :: names).flatMap (line env') ++ tail') := by
        simpa [line] using h
      have hopen : reading env name ++
        '\n' :: (next.toList ++ c :: (r ++ '\n' :: (names.flatMap (line env) ++ tail))) =
          reading env' name ++ '\n' ::
            (next.toList ++ d :: (r' ++ '\n' :: (names.flatMap (line env') ++ tail'))) := by
        simpa [line, hr, hr'] using hcut
      have hfirst : reading env name = reading env' name :=
        append_break_inj hnext hc hd (not_readsOn_reading hvalue)
          (not_readsOn_reading hvalue') hopen
      have hrest : (next :: names).flatMap (line env) ++
        tail = (next :: names).flatMap (line env') ++ tail' := by
        rw [hfirst] at hcut
        exact (List.cons.inj (List.append_cancel_left hcut)).2
      have hlater := ih (fun n hmem => hn n (List.mem_cons_of_mem _ hmem)) hp hp' hrest
      intro n hmem
      rw [List.dropLast_cons_cons, List.mem_cons] at hmem
      rcases hmem with rfl | hmem
      · exact get?_eq_of_reading_eq hfirst
      · exact hlater n hmem

/-- The variables up to the last one that detection reads, `TERM_PROGRAM`, and the one after it. -/
def decisiveNames : List String := fingerprintNames.take 10

theorem detect_congr {env env' : Environment}
    (h : ∀ name ∈ decisiveNames.dropLast, env.get? name = env'.get? name) :
    detect env = detect env' := by
  unfold detect Environment.has
  rw [h "POWERSHELL_DISTRIBUTION_CHANNEL" (by decide), h "PSExecutionPolicyPreference" (by decide),
    h "MSYSTEM" (by decide), h "WSL_DISTRO_NAME" (by decide), h "WSL_INTEROP" (by decide),
    h "TERM_PROGRAM" (by decide), h "PSModulePath" (by decide), h "SHELL" (by decide),
      h "ComSpec" (by decide)]

/-- Environments with the same text behind their fingerprints have the same shell, if their values
are plain. -/
theorem detect_eq_of_fingerprintInput_eq {env env' : Environment} (hp : IsPlain env decisiveNames)
    (hp' : IsPlain env' decisiveNames) (h : fingerprintInput env = fingerprintInput env') :
    detect env = detect env' := by
  have hsplit (e : Environment) : fingerprintNames.flatMap (line e) =
      decisiveNames.flatMap (line e) ++ (fingerprintNames.drop 10).flatMap (line e) := by
    rw [decisiveNames, ← List.flatMap_append, List.take_append_drop]
  have hlines := flatMap_line_eq h
  rw [hsplit, hsplit] at hlines
  exact detect_congr (get?_eq_of_lines_eq (by decide) hp hp' hlines)

end Shell

end Shorthand
