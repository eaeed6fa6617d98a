import Shorthand.Proofs.Flag.Naming
import Shorthand.Proofs.Template
/-!
Bundles: several flags of one character each behind one dash. They are expanded from left to right
in one scope, so that a flag sees the variables of those before it. Where no flag refers to
variables of another, a bundle is the same as its flags one by one.
-/
set_option autoImplicit false

namespace Shorthand

theorem renderPlaced_congr {templates : List PlacedTemplate} {vars vars' : Variables}
    (h : ∀ t ∈ templates, ∀ name ∈ Template.names t.template, vars.get? name = vars'.get? name) :
    renderPlaced vars templates = renderPlaced vars' templates := by
  have hfold (f : Fragments) :
      templates.foldl (fun f t => f ++ .place t.position (Template.render t.template vars)) f =
      templates.foldl (fun f t => f ++ .place t.position (Template.render t.template vars')) f :=
    List.foldl_ext _ _ _ fun f t ht => by rw [Template.render_congr (h t ht)]
  exact hfold {}

namespace Flag

variable {f : Flag} {context : Context} {shell : Shell} {scope : Variables}

/-- The value that a flag gives to a name: its last default for it, or what the context says, if it
may know that. -/
def value? (f : Flag) (context : Context) (name : String) : Option String :=
  ((f.defaults.reverse.find? (·.1 = name)).map (·.2)).or
    (if f.kind = .contextAware then context.bindings.get? name else none)

/-- In its templates for the shell the flag refers to no names but those that it gives a value
itself. -/
def IsSelfContained (f : Flag) (context : Context) (shell : Shell) : Prop :=
  ∀ t ∈ f.templatesFor shell, ∀ name ∈ Template.names t.template, (f.value? context name).isSome

@[simp] theorem get?_scope (f : Flag) (context : Context) (scope : Variables) (name : String) :
    (f.scope context none scope).get? name = (f.value? context name).or (scope.get? name) := by
  have hdefaults := SortedMap.get?_foldl_insert_latest f.defaults
  by_cases hkind : f.kind = .contextAware
  · simp only [Flag.scope, value?, hkind, if_true, hdefaults, SortedMap.get?_override,
      Option.or_assoc]
  · simp only [Flag.scope, value?, hkind, if_false, hdefaults, Option.or_none]

theorem scope_eq_override (f : Flag) (context : Context) (scope : Variables) :
    f.scope context none scope = scope.override (f.scope context none ∅) := by
  apply SortedMap.ext_get?
  intro name
  rw [SortedMap.get?_override, get?_scope, get?_scope, SortedMap.get?_empty, Option.or_none]

theorem bindings_expand (f : Flag) (key : String) (shell : Shell) (scope : Variables) :
    (f.expand key shell scope).bindings = scope := by
  unfold Flag.expand
  dsimp only
  split <;> rfl

theorem expand_scope (h : f.IsSelfContained context shell) (key : String) (scope : Variables) :
    f.expand key shell (f.scope context none scope) =
      { f.expand key shell (f.scope context none ∅) with
        bindings := f.scope context none scope } := by
  have hrendered : renderPlaced (f.scope context none scope) (f.templatesFor shell) =
      renderPlaced (f.scope context none ∅) (f.templatesFor shell) := by
    apply renderPlaced_congr
    intro t ht name hname
    rw [get?_scope, get?_scope, Option.or_of_isSome (h t ht name hname),
      Option.or_of_isSome (h t ht name hname)]
  unfold Flag.expand
  rw [hrendered]
  dsimp only
  split <;> rfl

end Flag

def Expansion.join (es : List Expansion) : Expansion := es.foldr (· ++ ·) {}

namespace Expander

variable {x : Expander} {key word : String} {members : List (String × Flag)}

def scopeOf (x : Expander) (members : List (String × Flag)) : Variables :=
  members.foldl (fun scope e => e.2.scope x.context none scope) ∅

def latest? (x : Expander) (members : List (String × Flag)) (name : String) : Option String :=
  members.reverse.findSome? fun e => e.2.value? x.context name

theorem get?_scopeOf (members : List (String × Flag)) (name : String) :
    (x.scopeOf members).get? name = x.latest? members name := by
  have hfold (scope : Variables) :
      (members.foldl (fun scope e => e.2.scope x.context none scope) scope).get? name =
      (x.latest? members name).or (scope.get? name) := by
    induction members generalizing scope with
    | nil => rfl
    | cons e members ih =>
      unfold latest? at ih ⊢
      rw [List.foldl_cons, ih, Flag.get?_scope, List.reverse_cons, List.findSome?_append,
        Option.or_assoc]
      simp
  rw [scopeOf, hfold, SortedMap.get?_empty, Option.or_none]

theorem bundle_eq_join (before members : List (String × Flag)) :
    x.bundle (x.scopeOf before) members =
      .join (members.mapIdx fun i e =>
        e.2.expand e.1 x.shell (x.scopeOf (before ++ members.take (i + 1)))) := by
  induction members generalizing before with
  | nil => rfl
  | cons e members ih =>
    have hscope : e.2.scope x.context none (x.scopeOf before) = x.scopeOf (before ++ [e]) := by
      simp [scopeOf]
    rw [bundle, hscope, ih, List.mapIdx_cons]
    simp [Expansion.join]

/-- Members that are self-contained need no common scope, where all of it stands in the expansion
before them. -/
theorem append_bundle (hself : ∀ e ∈ members, e.2.IsSelfContained x.context x.shell) {e : Expansion}
    {scope : Variables} (hscope : e.bindings.override scope = e.bindings) :
    e ++ x.bundle scope members = e ++ .join (members.map fun m => x.single m.1 m.2 none) := by
  induction members generalizing e scope with
  | nil => rfl
  | cons m members ih =>
    obtain ⟨hm, hmembers⟩ := List.forall_mem_cons.1 hself
    have hstep : e ++ m.2.expand m.1 x.shell (m.2.scope x.context none scope) = e ++
      x.single m.1 m.2 none := by
      rw [Flag.expand_scope hm, single]
      -- The scope shows in the bindings alone, and there it adds nothing to those of the expansion
      -- before.
      refine Expansion.ext rfl ?_ rfl rfl rfl
      simp only [Expansion.bindings_append, Flag.bindings_expand]
      rw [Flag.scope_eq_override, ← SortedMap.override_assoc, hscope]
    have hcover : (e ++ x.single m.1 m.2 none).bindings.override (m.2.scope x.context none scope) =
        (e ++ x.single m.1 m.2 none).bindings := by
      rw [← hstep]
      simp only [Expansion.bindings_append, Flag.bindings_expand, SortedMap.override_assoc,
        SortedMap.override_self]
    calc e ++ x.bundle scope (m :: members)
        = e ++ m.2.expand m.1 x.shell (m.2.scope x.context none scope) ++
            x.bundle (m.2.scope x.context none scope) members := (Expansion.append_assoc _ _ _).symm
      _ = e ++ x.single m.1 m.2 none ++ x.bundle (m.2.scope x.context none scope) members := by
        rw [hstep]
      _ = e ++ x.single m.1 m.2 none ++ .join (members.map fun m => x.single m.1 m.2 none) :=
        ih hmembers hcover
      _ = e ++ .join ((m :: members).map fun m => x.single m.1 m.2 none) :=
        Expansion.append_assoc _ _ _

theorem expand_bundle (h : x.reading word = .bundle members) {pre : List String}
    (hpre : separator ∉ pre) (rest : List String) :
    x.expand (pre ++ [word] ++ rest) = x.expand pre ++
      x.bundle ∅ members ++ x.expand rest := by
  obtain ⟨key, rfl, htwo, hdash, heq, hnone, -⟩ := reading_eq_bundle_iff.1 h
  have hne := ne_empty_of_two_le htwo
  have hnames : Names key ("-" ++ key) := .short hdash
  obtain ⟨isBundle, htoken⟩ := hnames.exists_ofWord? hne heq
  have hown : separator ∉ ["-" ++ key] := List.mem_singleton.not.2 (separator_ne_of_ofWord? htoken)
  have hend : ¬x.AwaitsValue ["-" ++ key] := by simp [AwaitsValue, htoken, hnone]
  rw [expand_between hpre hown (not_offersValue_cons hnames.startsWith _) hend]
  simp [expandHead, h]

theorem expand_apart {cs : List Char}
    (h : List.Forall₂ (fun c e => e.1 = c.toString ∧ x.table.get? e.1 = some e.2) cs members)
    (hdash : '-' ∉ cs) (heq : '=' ∉ cs) {rest : List String} (hrest : ¬OffersValue rest) :
    x.expand (cs.map (fun c => "-" ++ c.toString) ++ rest) =
      .join (members.map fun m => x.single m.1 m.2 none) ++ x.expand rest := by
  induction h with
  | nil => exact (Expansion.empty_append _).symm
  | @cons c m cs members hm _ ih =>
    obtain ⟨hc, hcs⟩ := not_or.1 (List.mem_cons.not.1 hdash)
    obtain ⟨hc', hcs'⟩ := not_or.1 (List.mem_cons.not.1 heq)
    obtain ⟨hkey, hflag⟩ := hm
    have hnames : Names m.1 ("-" ++ m.1) := .short (by simp [hkey, Text.startsWith, Ne.symm hc])
    obtain ⟨isBundle, htoken⟩ := hnames.exists_ofWord? (by simp [hkey]) (by simpa [hkey] using hc')
    have hown : separator ∉ ["-" ++ m.1] :=
      List.mem_singleton.not.2 (separator_ne_of_ofWord? htoken)
    -- A word with a dash in front is never taken for a value.
    have hmore : ¬OffersValue (cs.map (fun c => "-" ++ c.toString) ++ rest) := by
      cases cs with
      | nil => exact hrest
      | cons d ds => exact not_offersValue_cons (by simp [Text.startsWith]) _
    have hfirst : x.expand ["-" ++ m.1] = x.single m.1 m.2 none := by
      rw [expand_of_not_mem hown]
      simp [expandHead, reading_eq_single htoken hflag]
    calc x.expand ((c :: cs).map (fun c => "-" ++ c.toString) ++ rest)
        = x.expand (["-" ++ m.1] ++ (cs.map (fun c => "-" ++ c.toString) ++ rest)) := by
          rw [hkey]; rfl
      _ = x.single m.1 m.2 none ++
        (.join (members.map fun m => x.single m.1 m.2 none) ++ x.expand rest) := by
        rw [expand_append hown fun h => hmore h.2, hfirst, ih hcs hcs']
      _ = .join ((m :: members).map fun m => x.single m.1 m.2 none) ++ x.expand rest :=
        (Expansion.append_assoc _ _ _).symm

/-- A bundle is its members in one scope, where a name has the value of the latest member up to the
one that is rendered. If each member refers to its own variables only, it is also its members one by
one. -/
theorem bundle_eq_members {x : Expander} {key : String} {members : List (String × Flag)}
    (htwo : 2 ≤ key.length) (hkey : x.table.get? key = none) (hmembers : x.Spells key members) :
    (x.reading ("-" ++ key) = .bundle members ↔
      Text.startsWith '-' key = false ∧ '=' ∉ key.toList) ∧
    (x.reading ("-" ++ key) = .bundle members →
      ∃ scope : Nat → Variables,
        (∀ i name, (scope i).get? name = x.latest? (members.take (i + 1)) name) ∧
        ∀ pre rest, separator ∉ pre →
          x.expand (pre ++ ["-" ++ key] ++ rest) =
            x.expand pre ++ .join (members.mapIdx fun i e => e.2.expand e.1 x.shell (scope i)) ++
              x.expand rest) ∧
    ('-' ∉ key.toList → '=' ∉ key.toList → (∀ e ∈ members, e.2.IsSelfContained x.context x.shell) →
      ∀ rest, ¬OffersValue rest →
        x.expand (["-" ++ key] ++ rest) =
          x.expand (key.toList.map (fun c => "-" ++ c.toString) ++ rest)) := by
  have hreading : x.reading ("-" ++ key) = .bundle members ↔
    Text.startsWith '-' key = false ∧ '=' ∉ key.toList := by
    rw [reading_eq_bundle_iff]
    constructor
    · rintro ⟨key', heq, -, hdash, hassign, -⟩
      obtain rfl := String.append_right_inj _ |>.1 heq
      exact ⟨hdash, hassign⟩
    · rintro ⟨hdash, hassign⟩
      exact ⟨key, rfl, htwo, hdash, hassign, hkey, hmembers⟩
  refine ⟨hreading, fun h => ?_, fun hdash heq hself rest hrest => ?_⟩
  · refine ⟨fun i => x.scopeOf (members.take (i + 1)), fun i name => get?_scopeOf _ name,
      fun pre rest hpre => ?_⟩
    rw [expand_bundle h hpre]
    exact congrArg (x.expand pre ++ · ++ x.expand rest) (bundle_eq_join [] members)
  · have hstart : Text.startsWith '-' key = false := by
      cases hcs : key.toList with
      | nil => simp [Text.startsWith, hcs]
      | cons c cs =>
        simpa [Text.startsWith, hcs, eq_comm] using (not_or.1 (List.mem_cons.not.1 (hcs ▸ hdash))).1
    have hapart : {} ++ x.bundle ∅ members = {} ++
      .join (members.map fun m => x.single m.1 m.2 none) :=
      append_bundle hself rfl
    have hbundle := expand_bundle (hreading.2 ⟨hstart, heq⟩) List.not_mem_nil rest
    rw [expand_apart hmembers hdash heq hrest, ← Expansion.empty_append (.join _), ← hapart]
    exact hbundle

/-- Flags of one character: with a default, with a reference to the default of another, and with the
context. -/
def bundled : Expander where
  table := .ofList [
    ("c", { kind := .expandable, templates := [⟨"--configuration={{config}}", .finish⟩]
            defaults := [("config", "prod")] }),
    ("t", { kind := .expandable, templates := [⟨"--tag={{config}}", .finish⟩] }),
    ("w", { kind := .contextAware, templates := [⟨"--watch={{project}}", .finish⟩]
            defaults := [("config", "dev")] })]
  context := { project := some "@fux/dc" }
  shell := .linux

def bundled.flags (keys : List String) : List (String × Flag) :=
  keys.filterMap fun key => (bundled.table.get? key).map (key, ·)

theorem bundle_eq_members_bundled :
    (∃ scope : Nat → Variables,
      (scope 0).get? "config" = some "prod" ∧ (scope 1).get? "project" = some "@fux/dc" ∧
      (scope 2).get? "config" = some "dev" ∧
      bundled.expand ["x", "-cwt", "y"] = bundled.expand ["x"] ++
        .join ((bundled.flags ["c", "w", "t"]).mapIdx fun i e => e.2.expand e.1 .linux (scope i)) ++
        bundled.expand ["y"]) ∧
    (bundled.expand ["x", "-cwt", "y"]).fragments.after =
      ["--configuration=prod", "--watch=@fux/dc", "--tag=dev"] ∧
    bundled.expand ["-cw", "--", "y"] = bundled.expand ["-c", "-w", "--", "y"] := by
  have hshared : bundled.Spells "cwt" (bundled.flags ["c", "w", "t"]) :=
    members?_eq_some_iff.1 (by decide +kernel)
  have hapart : bundled.Spells "cw" (bundled.flags ["c", "w"]) :=
    members?_eq_some_iff.1 (by decide +kernel)
  obtain ⟨hreading, hscopes, -⟩ := bundle_eq_members (by decide) (by decide) hshared
  obtain ⟨-, -, hone⟩ := bundle_eq_members (by decide) (by decide) hapart
  obtain ⟨scope, hscope, hexpand⟩ := hscopes (hreading.2 (by decide))
  have hself : ∀ e ∈ bundled.flags ["c", "w"],
    e.2.IsSelfContained bundled.context bundled.shell := by
    unfold Flag.IsSelfContained
    decide +kernel
  refine ⟨⟨scope, (hscope 0 _).trans (by decide +kernel), (hscope 1 _).trans (by decide +kernel),
    (hscope 2 _).trans (by decide +kernel), hexpand ["x"] ["y"] (by decide)⟩, by decide +kernel, ?_⟩
  exact hone (by decide) (by decide) hself ["--", "y"] (not_offersValue_cons (by decide) _)

end Expander

end Shorthand
