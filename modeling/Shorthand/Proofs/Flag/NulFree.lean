import Shorthand.Invocation.Assembly
import Shorthand.Proofs.Flag.Naming
import Shorthand.Proofs.Origin
import Shorthand.Proofs.Words.Quoting
set_option autoImplicit false

namespace Shorthand

open Words (NulFree)

namespace Words.NulFree

variable {s t : String}

theorem of_subset (ht : NulFree t) (h : s.toList ⊆ t.toList) : NulFree s := fun hc => ht (h hc)

theorem append (hs : NulFree s) (ht : NulFree t) : NulFree (s ++ t) := by
  simpa [NulFree, not_or] using And.intro hs ht

end Words.NulFree

def Variables.NulFree (vars : Variables) : Prop :=
  ∀ name value, vars.get? name = some value → Words.NulFree value

namespace Variables.NulFree

variable {vars more : Variables} {name value : String}

theorem empty : Variables.NulFree ∅ := by simp [Variables.NulFree]

theorem insert (h : Variables.NulFree vars) (hv : Words.NulFree value) :
    Variables.NulFree (vars.insert name value) := by
  intro name' value' hget
  rw [SortedMap.get?_insert] at hget
  split at hget
  · obtain rfl := Option.some.inj hget
    exact hv
  · exact h name' value' hget

theorem foldl_insert (h : Variables.NulFree vars) {entries : List (String × String)}
    (he : ∀ e ∈ entries, Words.NulFree e.2) :
    Variables.NulFree (entries.foldl (fun m e => m.insert e.1 e.2) vars) := by
  induction entries generalizing vars with
  | nil => exact h
  | cons e entries ih => exact ih (h.insert (he e (by simp))) fun e' h' => he e' (by simp [h'])

theorem override (h : Variables.NulFree vars) (hmore : Variables.NulFree more) :
    Variables.NulFree (vars.override more) := by
  intro name value hget
  rw [SortedMap.get?_override] at hget
  rcases Option.or_eq_some_iff.1 hget with hget | ⟨-, hget⟩
  · exact hmore name value hget
  · exact h name value hget

theorem render {template : String} (h : Variables.NulFree vars) (ht : Words.NulFree template) :
    Words.NulFree (Template.render template vars) := by
  intro hc
  rcases Template.mem_render hc with hc | ⟨name, value, hget, hc⟩
  · exact ht hc
  · exact h name value hget hc

end Variables.NulFree

structure Expansion.NulFree (e : Expansion) : Prop where
  after : ∀ fragment ∈ e.fragments.after, Words.NulFree fragment
  passthrough : ∀ word ∈ e.passthrough, Words.NulFree word

namespace Expansion.NulFree

theorem empty : Expansion.NulFree {} := ⟨by simp, by simp⟩

theorem append {e f : Expansion} (he : e.NulFree) (hf : f.NulFree) : (e ++ f).NulFree where
  after := List.forall_mem_append.2 ⟨he.after, hf.after⟩
  passthrough := List.forall_mem_append.2 ⟨he.passthrough, hf.passthrough⟩

theorem ofWords {words : List String} (h : ∀ word ∈ words, Words.NulFree word) :
    (Expansion.ofWords words).NulFree :=
  ⟨by simp [Expansion.ofWords], h⟩

end Expansion.NulFree

structure Flag.NulFree (f : Flag) : Prop where
  templates : ∀ shell, ∀ t ∈ f.templatesFor shell, Words.NulFree t.template
  defaults : ∀ d ∈ f.defaults, Words.NulFree d.2

theorem Fragments.nulFree_place (position : Position) {text : String} (h : NulFree text) :
    ∀ fragment ∈ (Fragments.place position text).after, NulFree fragment := by
  have htrim : NulFree (Text.trim text) := h.of_subset (Text.trim_subset text)
  unfold Fragments.place
  dsimp only
  repeat' split
  · simp
  · simp
  · simpa using htrim

theorem nulFree_renderPlaced {vars : Variables} (hv : Variables.NulFree vars)
    {templates : List PlacedTemplate} (ht : ∀ t ∈ templates, NulFree t.template) :
    ∀ fragment ∈ (renderPlaced vars templates).after, NulFree fragment := by
  have hfold (f : Fragments) (hf : ∀ fragment ∈ f.after, NulFree fragment) :
      ∀ fragment ∈ (templates.foldl
        (fun f t => f ++ .place t.position (Template.render t.template vars)) f).after,
        NulFree fragment := by
    induction templates generalizing f with
    | nil => exact hf
    | cons t templates ih =>
      have hplace := Fragments.nulFree_place t.position (hv.render (ht t (by simp)))
      exact ih (fun t' h' => ht t' (by simp [h'])) _ (List.forall_mem_append.2 ⟨hf, hplace⟩)
  exact hfold {} (by simp)

namespace Flag.NulFree

variable {f : Flag} {context : Context} {vars : Variables}

/-- A value goes to the first variable of the flag and to a name of its own. -/
theorem given (hv : Variables.NulFree vars) {value : String} (hvalue : Words.NulFree value) :
    Variables.NulFree
      ((f.defaults.head?.elim vars fun d => vars.insert d.1 value).insert "value" value) := by
  cases f.defaults.head? with
  | none => exact hv.insert hvalue
  | some d => exact (hv.insert hvalue).insert hvalue

theorem scope (hf : f.NulFree) (hc : Variables.NulFree context.bindings) {value : Option String}
    (hvalue : ∀ v, value = some v → Words.NulFree v) (hv : Variables.NulFree vars) :
    Variables.NulFree (f.scope context value vars) := by
  have hcontext : Variables.NulFree
    (if f.kind = .contextAware then vars.override context.bindings else vars) := by
    split
    · exact hv.override hc
    · exact hv
  cases value with
  | none => exact hcontext.foldl_insert hf.defaults
  | some v => exact given (hcontext.foldl_insert hf.defaults) (hvalue v rfl)

theorem expand (hf : f.NulFree) (key : String) (shell : Shell) (hv : Variables.NulFree vars) :
    (f.expand key shell vars).NulFree := by
  have hrendered := nulFree_renderPlaced hv (hf.templates shell)
  unfold Flag.expand
  dsimp only
  split
  · exact ⟨by simp, by simp⟩
  · exact ⟨hrendered, by simp⟩

end Flag.NulFree

theorem FlagToken.nulFree_value {word : String} {token : FlagToken}
    (h : FlagToken.ofWord? word = some token) (hw : NulFree word) :
    ∀ v, token.value = some v → NulFree v := by
  have hbody {isShort : Bool} {body : String} (hb : FlagToken.ofBody? isShort body = some token)
      (hsub : body.toList ⊆ word.toList) : ∀ v, token.value = some v → NulFree v := by
    intro v hv
    unfold FlagToken.ofBody? at hb
    cases hcut : Text.cut '=' body with
    | none =>
      simp only [hcut] at hb
      split at hb
      · cases hb
      · obtain rfl := Option.some.inj hb
        cases hv
    | some parts =>
      simp only [hcut] at hb
      split at hb
      · cases hb
      · obtain rfl := Option.some.inj hb
        obtain rfl := Option.some.inj hv
        exact hw.of_subset (List.Subset.trans (Text.subset_of_cut hcut).2 hsub)
  unfold FlagToken.ofWord? at h
  split at h
  · rename_i body hdrop
    exact hbody h (Text.subset_of_dropStart? hdrop)
  · obtain ⟨body, hdrop, h⟩ := Option.bind_eq_some_iff.1 h
    exact hbody h (Text.subset_of_dropStart? hdrop)

namespace Expander

/-- No U+0000 in the flags of the table and in what they may know of the command. -/
structure NulFree (x : Expander) : Prop where
  table : ∀ key flag, x.table.get? key = some flag → flag.NulFree
  context : Variables.NulFree x.context.bindings

variable {x : Expander}

namespace NulFree

theorem single (hx : x.NulFree) {key : String} {flag : Flag} {value : Option String}
    (hf : flag.NulFree) (hv : ∀ v, value = some v → Words.NulFree v) :
    (x.single key flag value).NulFree :=
  hf.expand key x.shell (hf.scope hx.context hv .empty)

theorem bundle (hx : x.NulFree) {flags : List (String × Flag)} (hf : ∀ e ∈ flags, e.2.NulFree)
    {vars : Variables} (hv : Variables.NulFree vars) : (x.bundle vars flags).NulFree := by
  induction flags generalizing vars with
  | nil => exact .empty
  | cons e flags ih =>
    have he : e.2.NulFree := hf e (by simp)
    have hscope : Variables.NulFree (e.2.scope x.context none vars) :=
      he.scope hx.context (by simp) hv
    exact (he.expand e.1 x.shell hscope).append (ih (fun e' h' => hf e' (by simp [h'])) hscope)

theorem expandHead (hx : x.NulFree) {words : List String}
    (hw : ∀ word ∈ words, Words.NulFree word) :
    (x.expandHead words).NulFree := by
  fun_induction Expander.expandHead x words with
  | case1 => exact .empty
  | case2 word rest hr ih =>
    obtain ⟨hword, hrest⟩ := List.forall_mem_cons.1 hw
    exact .append (.ofWords (by simpa using hword)) (ih hrest)
  | case3 word rest flags hr ih =>
    obtain ⟨-, hrest⟩ := List.forall_mem_cons.1 hw
    exact .append (hx.bundle (fun e he => hx.table e.1 e.2 (get?_of_reading_bundle hr e he)) .empty)
      (ih hrest)
  | case4 word key flag value hr next rest ht ih =>
    obtain ⟨-, hnext, hrest⟩ := List.forall_mem_cons.1 hw |>.imp id List.forall_mem_cons.1
    obtain ⟨token, -, -, hflag⟩ := token_of_reading_single hr
    exact .append (hx.single (hx.table _ flag hflag) (by simpa using hnext)) (ih hrest)
  | case5 word key flag value hr next rest ht ih =>
    obtain ⟨hword, hrest⟩ := List.forall_mem_cons.1 hw
    obtain ⟨token, htoken, rfl, hflag⟩ := token_of_reading_single hr
    exact .append (hx.single (hx.table _ flag hflag) (FlagToken.nulFree_value htoken hword))
      (ih hrest)
  | case6 word key flag value hr =>
    obtain ⟨token, htoken, rfl, hflag⟩ := token_of_reading_single hr
    exact hx.single (hx.table _ flag hflag) (FlagToken.nulFree_value htoken (hw word (by simp)))

theorem expand (hx : x.NulFree) {words : List String} (hw : ∀ word ∈ words, Words.NulFree word) :
    (x.expand words).NulFree := by
  have hhead : ∀ word ∈ (splitAtSeparator words).1, Words.NulFree word := fun word hword =>
    hw word ((List.takeWhile_sublist _).subset hword)
  have htail : ∀ word ∈ (splitAtSeparator words).2, Words.NulFree word := fun word hword =>
    hw word ((List.dropWhile_sublist _).subset ((List.drop_sublist _ _).subset hword))
  refine .append (hx.expandHead hhead) (.ofWords ?_)
  split
  · simp
  · exact List.forall_mem_cons.2 ⟨by decide, htail⟩

end NulFree

end Expander

end Shorthand
