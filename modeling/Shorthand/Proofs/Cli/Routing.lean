import Shorthand.Cli.Route
import Shorthand.Proofs.Config.Validity
/-!
Where the first word of a command line leads. A few words belong to the builtins, whatever the
configuration says of them; in a valid configuration every other word that it declares leads to what
it is declared as.
-/
set_option autoImplicit false

namespace Shorthand

namespace Builtin

variable {b b' : Builtin} {word : String}

def reserved : List String := ["help", "h", "validate", "ext", "core", "all"]

@[simp] theorem mem_all (b : Builtin) : b ∈ all := by
  rcases b with _ | _ | coverage
  · decide
  · decide
  · cases coverage <;> decide

theorem mem_reserved_iff : word ∈ reserved ↔ ∃ b : Builtin, word ∈ b.words := by
  have hwords : reserved = all.flatMap words := by decide
  rw [hwords, List.mem_flatMap]
  exact ⟨fun ⟨b, _, h⟩ => ⟨b, h⟩, fun ⟨b, h⟩ => ⟨b, mem_all b, h⟩⟩

theorem eq_of_mem_words (h : word ∈ b.words) (h' : word ∈ b'.words) : b = b' := by
  have hdistinct : ∀ b ∈ all, ∀ b' ∈ all, ∀ word ∈ b.words, word ∈ b'.words → b = b' := by decide
  exact hdistinct b (mem_all b) b' (mem_all b') word h h'

theorem ofWord?_eq_some_iff : ofWord? word = some b ↔ word ∈ b.words := by
  constructor
  · intro h
    simpa using List.find?_some h
  · intro h
    have hsome : (ofWord? word).isSome := List.find?_isSome.2 ⟨b, mem_all b, by simpa using h⟩
    obtain ⟨first, hfirst⟩ := Option.isSome_iff_exists.1 hsome
    have hmem : word ∈ first.words := by simpa using List.find?_some hfirst
    rw [hfirst, eq_of_mem_words hmem h]

theorem ofWord?_eq_none_iff : ofWord? word = none ↔ word ∉ reserved := by
  rw [Option.eq_none_iff_forall_ne_some, mem_reserved_iff, not_exists]
  exact forall_congr' fun b => not_congr ofWord?_eq_some_iff

end Builtin

namespace Config

variable {c : Config} {word : String} {b : Builtin}

theorem route_eq_builtin_iff : c.route word = .builtin b ↔ word ∈ b.words := by
  rw [← Builtin.ofWord?_eq_some_iff]
  cases hword : Builtin.ofWord? word with
  | some first => simp [route, hword]
  | none =>
    simp only [route, hword]
    split
    · simp
    · split <;> simp

theorem route_of_reserved (h : word ∈ Builtin.reserved) : ∃ b, c.route word = .builtin b := by
  obtain ⟨b, hb⟩ := Builtin.mem_reserved_iff.1 h
  exact ⟨b, route_eq_builtin_iff.2 hb⟩

theorem route_of_not_reserved (h : word ∉ Builtin.reserved) :
    c.route word = if c.commands.contains word then .command else if c.hasAlias word then .aliased
      else .unknown := by
  simp only [route, Builtin.ofWord?_eq_none_iff.2 h]

theorem route_eq_command_iff :
    c.route word = .command ↔ word ∉ Builtin.reserved ∧ word ∈ c.commands.keys := by
  rw [← SortedMap.contains_iff_mem_keys]
  by_cases hreserved : word ∈ Builtin.reserved
  · obtain ⟨b, hb⟩ := route_of_reserved (c := c) hreserved
    simp [hb, hreserved]
  · rw [route_of_not_reserved hreserved]
    cases c.commands.contains word <;> cases c.hasAlias word <;> simp [hreserved]

theorem route_eq_aliased_iff : c.route word = .aliased ↔
    word ∉ Builtin.reserved ∧ word ∉ c.commands.keys ∧ c.hasAlias word = true := by
  rw [← SortedMap.contains_iff_mem_keys]
  by_cases hreserved : word ∈ Builtin.reserved
  · obtain ⟨b, hb⟩ := route_of_reserved (c := c) hreserved
    simp [hb, hreserved]
  · rw [route_of_not_reserved hreserved]
    cases c.commands.contains word <;> cases c.hasAlias word <;> simp [hreserved]

/-- In a valid configuration a word leads to an alias, or to a command, exactly if it is listed as
one and belongs to no builtin; the words of the builtins lead to them even if they are listed. -/
theorem route_declared (hc : c.isValid = true) (word : String) :
    (c.route word = .aliased ↔
      word ∈ c.aliases.keys ∧ word ∉ ["help", "h", "validate", "ext", "core", "all"]) ∧
    (c.route word = .command ↔
      word ∈ c.commands.keys ∧ word ∉ ["help", "h", "validate", "ext", "core", "all"]) ∧
    ∀ b : Builtin, c.route word = .builtin b ↔ word ∈ b.words := by
  have hapart : c.hasAlias word = true → word ∉ c.commands.keys := fun halias hcommand =>
    have ⟨target, hclaims⟩ := hasAlias_iff.1 halias
    ((isValid_iff_wellFormed c).1 hc).commands word hcommand target hclaims
  refine ⟨?_, ?_, fun b => route_eq_builtin_iff⟩
  · rw [route_eq_aliased_iff, mem_keys_aliases]
    exact ⟨fun ⟨hfree, _, halias⟩ => ⟨halias, hfree⟩,
      fun ⟨halias, hfree⟩ => ⟨hfree, hapart halias, halias⟩⟩
  · rw [route_eq_command_iff]
    exact and_comm

/-- A project and a command under words that builtins have. -/
def overruled : Config where
  packages := .ofList [("all", .direct "@fux/all"), ("aka", .direct "@fux/aka")]
  commands := .ofList [("h", "say hello"), ("hello", "say hello")]

theorem route_declared_overruled :
    overruled.isValid = true ∧
      overruled.route "aka" = .aliased ∧ overruled.route "hello" = .command ∧
    overruled.route "all" ≠ .aliased := by
  have hvalid : overruled.isValid = true := by decide +kernel
  exact ⟨hvalid, (route_declared hvalid "aka").1.2 (by decide +kernel),
    (route_declared hvalid "hello").2.1.2 (by decide +kernel),
    fun h => absurd ((route_declared hvalid "all").1.1 h).2 (by decide +kernel)⟩

/-- Neither the alias nor the command is reached, although nothing is wrong with the
configuration. -/
theorem route_overruled :
    overruled.isValid = true ∧
    ("all" ∈ overruled.aliases.keys ∧ overruled.route "all" = .builtin (.many .all)) ∧
    ("h" ∈ overruled.commands.keys ∧ overruled.route "h" = .builtin .help) ∧
    ¬((∀ short ∈ overruled.aliases.keys, overruled.route short = .aliased) ∧
      ∀ name ∈ overruled.commands.keys, overruled.route name = .command) := by
  have hmem : "all" ∈ overruled.aliases.keys := by decide +kernel
  have hroute : overruled.route "all" = .builtin (.many .all) := by decide +kernel
  refine ⟨by decide +kernel, ⟨hmem, hroute⟩, by decide +kernel, fun h => ?_⟩
  exact absurd (hroute.symm.trans (h.1 "all" hmem)) (by decide)

end Config

end Shorthand
