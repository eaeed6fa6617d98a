import Shorthand.Config.Search
import Shorthand.Proofs.Success
/-!
What comes of the search for a configuration. A file that cannot be used never keeps a later one
from being found: it is reported, and the search goes on. The search fails only where no path leads
to a configuration, or where the path of the user has no meaning.
-/
set_option autoImplicit false

namespace Shorthand

namespace FileSystem

variable {files : FileSystem} {path : String} {config : Config}

/-- At the path stands a file that can be read, the file is a text, and the text is a
configuration. -/
def Holds (files : FileSystem) (path : String) (config : Config) : Prop :=
  ∃ bytes text, files.look path = .ok (.file (.ok bytes)) ∧ Text.ofBytes? bytes = some text ∧
    Config.parse text = .ok config

/-- What is wrong with the file at a path, if there is one: it cannot be read, it is no text, or the
text is no configuration. -/
def fault? (files : FileSystem) (path : String) : Option LoadError :=
  match files.look path with
  | .ok (.file (.error cause)) => some (.file path (.system cause))
  | .ok (.file (.ok bytes)) =>
    match Text.ofBytes? bytes with
    | none => some (.file path .notText)
    | some text =>
      match Config.parse text with
      | .error cause => some (.text path cause)
      | .ok _ => none
  | _ => none

theorem isFile_iff : files.isFile path = true ↔
    ∃ content, files.look path = .ok (.file content) := by
  unfold isFile
  split
  · rename_i content h
    simp [h]
  · rename_i h
    simpa using h

theorem fault?_of_not_isFile (h : files.isFile path = false) : files.fault? path = none := by
  unfold fault?
  split
  · rename_i cause hlook
    simp [isFile_iff.2 ⟨_, hlook⟩] at h
  · rename_i bytes hlook
    simp [isFile_iff.2 ⟨_, hlook⟩] at h
  · rfl

theorem load_of_unreadable {cause : SystemError}
    (h : files.look path = .ok (.file (.error cause))) :
    Config.load files path = .error (.file path (.system cause)) := by
  rw [Config.load, read, h]
  rfl

theorem load_of_readable {bytes : List UInt8} (h : files.look path = .ok (.file (.ok bytes))) :
    Config.load files path =
      ((Text.ofBytes? bytes).elim (.error .notText) .ok : Except FileError String).mapError
      (.file path) >>= fun text => (Config.parse text).mapError (.text path) := by
  rw [Config.load, read, h]
  rfl

theorem Holds.load (h : files.Holds path config) :
    files.isFile path = true ∧ Config.load files path = .ok config := by
  obtain ⟨bytes, text, hlook, htext, hparse⟩ := h
  refine ⟨isFile_iff.2 ⟨_, hlook⟩, ?_⟩
  rw [load_of_readable hlook, htext]
  exact mapError_eq_ok_iff.2 hparse

theorem exists_load_eq_error (hfile : files.isFile path = true)
    (h : ∀ config, ¬files.Holds path config) :
    ∃ e, Config.load files path = .error e ∧ files.fault? path = some e := by
  obtain ⟨content, hlook⟩ := isFile_iff.1 hfile
  cases content with
  | error cause => exact ⟨_, load_of_unreadable hlook, by rw [fault?, hlook]⟩
  | ok bytes =>
    rw [load_of_readable hlook, fault?, hlook]
    cases htext : Text.ofBytes? bytes with
    | none => exact ⟨_, rfl, by simp only [htext]⟩
    | some text =>
      cases hparse : Config.parse text with
      | error cause =>
        exact ⟨_, mapError_eq_error_iff.2 ⟨cause, hparse, rfl⟩, by simp only [htext, hparse]⟩
      | ok config => exact absurd ⟨bytes, text, hlook, htext, hparse⟩ (h config)

theorem not_holds_iff : (∀ config, ¬files.Holds path config) ↔
    (files.isFile path = true → (files.fault? path).isSome = true) := by
  constructor
  · intro h hfile
    obtain ⟨e, -, hfault⟩ := exists_load_eq_error hfile h
    rw [hfault]
    rfl
  · intro h config hholds
    have hsome := h hholds.load.1
    obtain ⟨bytes, text, hlook, htext, hparse⟩ := hholds
    rw [fault?, hlook] at hsome
    simp [htext, hparse] at hsome

end FileSystem

namespace ConfigSearch

open FileSystem (Holds)

variable {s : ConfigSearch} {account : Option String} {files : FileSystem} {path : String}
  {config : Config} {before rest paths : List String}

theorem firstUsable_of_holds (h : files.Holds path config) :
    firstUsable files (path :: rest) = (some ⟨config, files.canonical path⟩, []) := by
  obtain ⟨hfile, hload⟩ := h.load
  rw [firstUsable, if_pos hfile, hload]

theorem firstUsable_of_not_holds (h : ∀ config, ¬files.Holds path config) :
    firstUsable files (path :: rest) =
      ((firstUsable files rest).1, (files.fault? path).toList ++ (firstUsable files rest).2) := by
  cases hfile : files.isFile path with
  | false =>
    rw [firstUsable, hfile, FileSystem.fault?_of_not_isFile hfile]
    rfl
  | true =>
    obtain ⟨e, hload, hfault⟩ := FileSystem.exists_load_eq_error hfile h
    rw [firstUsable, if_pos hfile, hload, hfault]
    rfl

/-- The paths without a configuration are passed by, and what is wrong with the files among them is
kept in order. -/
theorem firstUsable_append (h : ∀ path ∈ before, ∀ config, ¬files.Holds path config) :
    firstUsable files (before ++ rest) =
      ((firstUsable files rest).1,
        before.filterMap files.fault? ++ (firstUsable files rest).2) := by
  induction before with
  | nil => rfl
  | cons path before ih =>
    obtain ⟨hpath, hbefore⟩ := List.forall_mem_cons.1 h
    rw [List.cons_append, firstUsable_of_not_holds hpath, ih hbefore, List.filterMap_cons]
    cases files.fault? path <;> rfl

def usualPaths (s : ConfigSearch) (account : Option String) : List String :=
  ["pae.config.json", "libs/project-alias-expander/config.json",
    ".pae/config.json"].map (Path.join s.directory) ++
    (userPath? s.environment account).toList

/-- The paths that are tried, in order: first the one that the user gives, with its variables filled
in. -/
inductive Tries (s : ConfigSearch) (account : Option String) : List String → Prop
  | usual (given : s.explicit = none) : Tries s account (s.usualPaths account)
  | explicit {path expanded : String} (given : s.explicit = some path)
      (expansion : Path.expand s.environment account path = some expanded) :
      Tries s account (Path.join s.directory expanded :: s.usualPaths account)

theorem candidates_eq (s : ConfigSearch) (account : Option String) : s.candidates account =
    match s.explicit with
    | none => .ok (s.usualPaths account)
    | some path =>
      match Path.expand s.environment account path with
      | none => .error (.expansion path)
      | some expanded => .ok (Path.join s.directory expanded :: s.usualPaths account) := by
  unfold candidates
  cases s.explicit with
  | none => rfl
  | some path =>
    cases hexpand : Path.expand s.environment account path <;> simp only [hexpand] <;> rfl

theorem candidates_of_tries (h : s.Tries account paths) : s.candidates account = .ok paths := by
  rw [candidates_eq]
  cases h with
  | usual given => rw [given]
  | explicit given expansion => simp only [given, expansion]

theorem candidates_cases (s : ConfigSearch) (account : Option String) :
    (∃ paths, s.Tries account paths) ∨
    ∃ path, s.explicit = some path ∧ Path.expand s.environment account path = none := by
  cases hgiven : s.explicit with
  | none => exact .inl ⟨_, .usual hgiven⟩
  | some path =>
    cases hexpand : Path.expand s.environment account path with
    | none => exact .inr ⟨path, rfl, hexpand⟩
    | some expanded => exact .inl ⟨_, .explicit hgiven hexpand⟩

theorem exists_first (files : FileSystem) (paths : List String) :
    (∃ before path after config, paths = before ++ path :: after ∧
      (∀ p ∈ before, ∀ c, ¬files.Holds p c) ∧ files.Holds path config) ∨
    ∀ p ∈ paths, ∀ c, ¬files.Holds p c := by
  induction paths with
  | nil => exact .inr (by simp)
  | cons path paths ih =>
    by_cases hpath : ∃ config, files.Holds path config
    · obtain ⟨config, hholds⟩ := hpath
      exact .inl ⟨[], path, paths, config, rfl, by simp, hholds⟩
    · rw [not_exists] at hpath
      rcases ih with ⟨before, first, after, config, rfl, hbefore, hholds⟩ | hnone
      · exact .inl ⟨path :: before, first, after, config, rfl,
          List.forall_mem_cons.2 ⟨hpath, hbefore⟩, hholds⟩
      · exact .inr (List.forall_mem_cons.2 ⟨hpath, hnone⟩)

/-- What a search may come to, with the errors that are reported on the way. -/
inductive Outcome (s : ConfigSearch) (account : Option String) (files : FileSystem) :
    Except LoadError LoadedConfig × List LoadError → Prop
  /-- The first path with a configuration; the files before it have been left aside. -/
  | found {before after : List String} {path : String} {config : Config}
      (tried : s.Tries account (before ++ path :: after))
      (unusable : ∀ p ∈ before, ∀ c, ¬files.Holds p c) (holds : files.Holds path config) :
      Outcome s account files (.ok ⟨config, files.canonical path⟩, before.filterMap files.fault?)
  | exhausted {paths : List String} (tried : s.Tries account paths)
      (unusable : ∀ p ∈ paths, ∀ c, ¬files.Holds p c) :
      Outcome s account files (.error (.notFound paths), paths.filterMap files.fault?)
  /-- A variable in the path of the user has no value; whatever the files are, nothing is said of
  them. -/
  | unexpanded {path : String} (given : s.explicit = some path)
      (expansion : Path.expand s.environment account path = none) :
      Outcome s account files (.error (.expansion path), [])

theorem Outcome.run_eq {result : Except LoadError LoadedConfig × List LoadError}
    (h : s.Outcome account files result) :
    s.run files account = result := by
  cases h with
  | found tried unusable holds =>
    rw [run, candidates_of_tries tried]
    simp only [firstUsable_append unusable, firstUsable_of_holds holds, List.append_nil]
    rfl
  | @exhausted paths tried unusable =>
    have hnone : firstUsable files (paths ++ []) = _ := firstUsable_append unusable
    rw [List.append_nil] at hnone
    rw [run, candidates_of_tries tried]
    simp only [hnone, firstUsable, List.append_nil]
    rfl
  | unexpanded given expansion =>
    rw [run, candidates_eq]
    simp only [given, expansion]

/-- A search comes to the first usable file wherever there is one, and fails only where there is
none or where the path of the user cannot be expanded; then it does not depend on the files. -/
theorem run_eq_iff (s : ConfigSearch) (account : Option String) :
    (∀ files result, s.run files account = result ↔ s.Outcome account files result) ∧
      ∀ path, s.explicit = some path → Path.expand s.environment account path = none →
        ∀ files, s.run files account = (.error (.expansion path), []) := by
  refine ⟨fun files result => ⟨?_, Outcome.run_eq⟩,
    fun path hgiven hexpand files => (Outcome.unexpanded hgiven hexpand).run_eq⟩
  rintro rfl
  rcases s.candidates_cases account with ⟨paths, htried⟩ | ⟨path, hgiven, hexpand⟩
  · rcases exists_first files paths with ⟨before, path, after, config, rfl, hbefore, hholds⟩ | hnone
    · have hfound := Outcome.found htried hbefore hholds
      exact hfound.run_eq ▸ hfound
    · have hexhausted := Outcome.exhausted htried hnone
      exact hexhausted.run_eq ▸ hexhausted
  · have hunexpanded : s.Outcome account files _ := .unexpanded hgiven hexpand
    exact hunexpanded.run_eq ▸ hunexpanded

/-- The file of the user is broken, a directory has the name of the next one, the one behind it may
not be read, and the third usual path has a configuration. -/
def scattered : FileSystem where
  entry path :=
    if path = "/w/mine.json" then .ok (.file (.ok (Text.toBytes "\x7b not json")))
    else if path = "/w/pae.config.json" then .ok .directory
    else if path = "/w/libs/project-alias-expander/config.json" then
      .ok (.file (.error .notPermitted))
    else if path = "/w/.pae/config.json" then
      .ok (.file (.ok (Text.toBytes "// none yet\n\x7b\x7d")))
    else .error .notFound
  canonical path := path

def scatteredErrors : List LoadError :=
  [.text "/w/mine.json" ⟨.keyNotString, ⟨1, 3⟩⟩,
    .file "/w/libs/project-alias-expander/config.json" (.system .notPermitted)]

def bare : FileSystem := ⟨fun _ => .error .notFound, id⟩

def triedPaths : List String :=
  ["/home/me/mine.json", "/w/pae.config.json", "/w/libs/project-alias-expander/config.json",
    "/w/.pae/config.json", "/home/me/.config/pae/config.json"]

theorem run_eq_iff_scattered :
    run ⟨"/w", some "$MINE.json", .ofList [("MINE", "mine")]⟩ scattered none =
      (.ok ⟨{}, "/w/.pae/config.json"⟩, scatteredErrors) ∧
    run ⟨"/w", some "$MINE.json", ∅⟩ scattered none = (.error (.expansion "$MINE.json"), []) ∧
    run ⟨"/w", some "~/mine.json", ∅⟩ bare (some "/home/me") =
      (.error (.notFound triedPaths), []) := by
  have hunusable : ∀ p ∈ ["/w/mine.json", "/w/pae.config.json",
    "/w/libs/project-alias-expander/config.json"],
      ∀ c, ¬scattered.Holds p c := by
    intro p hp
    rw [FileSystem.not_holds_iff]
    revert p
    decide +kernel
  have hholds : scattered.Holds "/w/.pae/config.json" {} :=
    ⟨Text.toBytes "// none yet\n\x7b\x7d", "// none yet\n\x7b\x7d", by rfl, by decide +kernel,
      eq_ok_of_toOption (by decide +kernel)⟩
  have hfault : ["/w/mine.json", "/w/pae.config.json",
    "/w/libs/project-alias-expander/config.json"].filterMap
      scattered.fault? = scatteredErrors := by decide +kernel
  have htried : Tries ⟨"/w", some "$MINE.json", .ofList [("MINE", "mine")]⟩ none
    ("/w/mine.json" :: usualPaths _ none) :=
    @Tries.explicit _ _ _ "mine.json" rfl (by decide +kernel)
  have hfound := Outcome.found htried hunusable hholds
  rw [hfault] at hfound
  refine ⟨((run_eq_iff _ _).1 _ _).2 hfound, ?_, ?_⟩
  · exact (run_eq_iff ⟨"/w", some "$MINE.json", ∅⟩ none).2 "$MINE.json" rfl
      (by decide +kernel) scattered
  · have htilde : Tries ⟨"/w", some "~/mine.json", ∅⟩ (some "/home/me")
        ("/home/me/mine.json" :: usualPaths _ (some "/home/me")) :=
      @Tries.explicit _ _ _ "/home/me/mine.json" rfl (by decide +kernel)
    have hnone : ∀ p c, ¬bare.Holds p c := by
      rintro p c ⟨bytes, text, hlook, -⟩
      unfold FileSystem.look at hlook
      split at hlook <;> cases hlook
    have hexhausted := Outcome.exhausted htilde fun p _ => hnone p
    have hpaths :
        "/home/me/mine.json" :: usualPaths ⟨"/w", some "~/mine.json", ∅⟩ (some "/home/me") =
        triedPaths := by decide +kernel
    have hquiet : triedPaths.filterMap bare.fault? = [] := by decide +kernel
    rw [hpaths, hquiet] at hexhausted
    exact ((run_eq_iff _ _).1 _ _).2 hexhausted

end ConfigSearch

end Shorthand
