import Mathlib.Data.List.Chain
import Mathlib.Data.List.Forall2
import Shorthand.Proofs.Text.Blank
import Shorthand.Template
/-!
Every template has one reading as tokens. The tokens written one after the other are the template
again, and where each of them ends is settled by the first braces that come; so a value that is put
in for a name has no part in the reading.
-/
set_option autoImplicit false

namespace Shorthand

namespace Token

/-- How a token is written: a text as it is, a name between braces, of which the closing ones are
the first. -/
inductive Spells : Token → List Char → Prop
  | literal {text : String} (nonempty : text ≠ "") : Spells (.literal text) text.toList
  | reference {left name right : List Char} (left_blank : ∀ c ∈ left, Text.isBlank c = true)
      (right_blank : ∀ c ∈ right, Text.isBlank c = true)
      (closed : ¬['}', '}'] <:+: left ++ name ++ right ++ ['}'])
      (trimmed : Text.trimmed (left ++ name ++ right) = name) :
      Spells (.reference (.ofList name)) ('{' :: '{' :: (left ++ name ++ right ++ ['}', '}']))

/-- A text in front of a reference must not open one any earlier, and two texts in a row would be
one. -/
def Precedes : Token → Token → Prop
  | .literal text, .reference _ => ¬['{', '{'] <:+: text.toList ++ ['{']
  | .literal _, .literal _ => False
  | .reference _, _ => True

/-- A text at the end may open a reference, but must not close it. -/
def MayEnd : Token → Prop
  | .literal text => ¬['{', '{'] <:+: text.toList ∨
      ∃ a b, text.toList = a ++ '{' :: '{' :: b ∧ ¬['{', '{'] <:+: a ++ ['{'] ∧ ¬['}', '}'] <:+: b
  | .reference _ => True

end Token

/-- The text is the tokens in a row, each of them where it may stand. -/
structure IsReading (ts : List Token) (cs : List Char) : Prop where
  spelled : ∃ ss, List.Forall₂ Token.Spells ts ss ∧ ss.flatten = cs
  joined : ts.IsChain Token.Precedes
  ended : ∀ t ∈ ts.getLast?, t.MayEnd

namespace IsReading

variable {t : Token} {ts : List Token} {cs s : List Char} {name text : String}

theorem nil : IsReading [] [] := ⟨⟨[], .nil, rfl⟩, .nil, by simp⟩

theorem cons (ht : t.Spells s) (hnext : ∀ t' ∈ ts.head?, t.Precedes t') (hend : ts = [] → t.MayEnd)
    (h : IsReading ts cs) : IsReading (t :: ts) (s ++ cs) := by
  obtain ⟨ss, hss, rfl⟩ := h.spelled
  refine ⟨⟨s :: ss, .cons ht hss, rfl⟩, ?_, ?_⟩
  · exact List.isChain_cons.2 ⟨hnext, h.joined⟩
  · cases ts with
    | nil => simpa using hend rfl
    | cons t' ts => simpa using h.ended

theorem uncons (h : IsReading (t :: ts) cs) :
    ∃ s rest, t.Spells s ∧ cs = s ++ rest ∧
      (∀ t' ∈ ts.head?, t.Precedes t') ∧ (ts = [] → t.MayEnd) ∧
      IsReading ts rest := by
  obtain ⟨ss, hss, rfl⟩ := h.spelled
  obtain ⟨s, rest, ht, hrest, rfl⟩ := List.forall₂_cons_left_iff.1 hss
  obtain ⟨hnext, hjoined⟩ := List.isChain_cons.1 h.joined
  refine ⟨s, rest.flatten, ht, rfl, hnext, ?_, ⟨rest, hrest, rfl⟩, hjoined, ?_⟩
  · rintro rfl
    exact h.ended t rfl
  · intro t' ht'
    exact h.ended t' (List.mem_getLast?_cons ht')

theorem mayEnd_of_precedes (h : t.Precedes (.reference name)) : t.MayEnd := by
  cases t with
  | literal text => exact .inl fun hopen => h (hopen.trans (List.prefix_append _ _).isInfix)
  | reference _ => trivial

theorem split {before after : List Token} (h : IsReading (before ++ .reference name :: after) cs) :
    ∃ a s b, cs = a ++ s ++ b ∧
      (Token.reference name).Spells s ∧ IsReading before a ∧ IsReading after b := by
  induction before generalizing cs with
  | nil =>
    obtain ⟨s, rest, hs, rfl, -, -, hrest⟩ := h.uncons
    exact ⟨[], s, rest, rfl, hs, .nil, hrest⟩
  | cons t before ih =>
    rw [List.cons_append] at h
    obtain ⟨s', rest, ht, rfl, hnext, -, hrest⟩ := h.uncons
    obtain ⟨a, s, b, rfl, hs, ha, hb⟩ := ih hrest
    refine ⟨s' ++ a, s, b, by simp, hs, .cons ht (fun t' ht' => ?_) (fun hnil => ?_) ha, hb⟩
    · exact hnext t' (List.mem_head?_append_of_mem_head? ht')
    · exact mayEnd_of_precedes (hnext (.reference name) (by simp [hnil]))

end IsReading

namespace Template

open Text

variable {cs before rest name after : List Char}

theorem tokens_of_unopened (h : cutDoubled '{' cs = none) : tokens cs = literalOf cs := by
  rw [tokens]
  split
  · rfl
  · simp_all

theorem tokens_of_unclosed (h : cutDoubled '{' cs = some (before, rest))
    (hrest : cutDoubled '}' rest = none) :
    tokens cs = literalOf cs := by
  rw [tokens]
  split
  · rfl
  · split
    · rfl
    · simp_all

theorem tokens_of_placeholder (h : cutDoubled '{' cs = some (before, rest))
    (hrest : cutDoubled '}' rest = some (name, after)) :
    tokens cs = literalOf before ++ .reference (.ofList (trimmed name)) :: tokens after := by
  rw [tokens]
  split
  · simp_all
  · split <;> simp_all

theorem isReading_literalOf (h : (Token.literal (.ofList cs)).MayEnd) :
    IsReading (literalOf cs) cs := by
  by_cases hcs : cs = []
  · rw [literalOf, if_pos hcs, hcs]
    exact .nil
  · rw [literalOf, if_neg hcs]
    have hspells : (Token.literal (.ofList cs)).Spells (String.ofList cs).toList :=
      .literal (by simpa using hcs)
    simpa using IsReading.nil.cons hspells (by simp) fun _ => h

/-- A text in front of a reference is a token of its own, if there is any. -/
theorem isReading_before {n : String} {ts : List Token} (hbefore : ¬['{', '{'] <:+: before ++ ['{'])
    (h : IsReading (.reference n :: ts) cs) :
    IsReading (literalOf before ++ .reference n :: ts) (before ++ cs) := by
  by_cases hempty : before = []
  · rw [literalOf, if_pos hempty, hempty]
    exact h
  · rw [literalOf, if_neg hempty]
    have hspells : (Token.literal (.ofList before)).Spells (String.ofList before).toList :=
      .literal (by simpa using hempty)
    simpa using h.cons hspells (by simpa [Token.Precedes] using hbefore) (by simp)

theorem spells_trimmed (h : ¬['}', '}'] <:+: name ++ ['}']) :
    (Token.reference (.ofList (trimmed name))).Spells ('{' :: '{' :: (name ++ ['}', '}'])) := by
  obtain ⟨left, hleft, hblank⟩ := exists_dropBlank name
  obtain ⟨right, hright, hblank'⟩ := exists_dropBlankEnd (dropBlank name)
  have hname : left ++ trimmed name ++ right = name := by
    rw [List.append_assoc, trimmed, ← hright, ← hleft]
  rw [← hname] at h
  have hspells := Token.Spells.reference hblank hblank' h (by rw [hname])
  rwa [hname] at hspells

theorem isReading_tokens (cs : List Char) : IsReading (tokens cs) cs := by
  fun_induction tokens cs with
  | case1 cs hopen =>
    refine isReading_literalOf (.inl ?_)
    simpa using cutDoubled_eq_none_iff.1 hopen
  | case2 cs before rest hopen hclose =>
    obtain ⟨rfl, hbefore⟩ := cutDoubled_eq_some_iff.1 hopen
    exact isReading_literalOf
      (.inr ⟨before, rest, by simp, hbefore, cutDoubled_eq_none_iff.1 hclose⟩)
  | case3 cs before rest hopen name after hclose ih =>
    obtain ⟨rfl, hbefore⟩ := cutDoubled_eq_some_iff.1 hopen
    obtain ⟨rfl, hname⟩ := cutDoubled_eq_some_iff.1 hclose
    have hreference := ih.cons (spells_trimmed hname) (fun _ _ => trivial) fun _ => trivial
    simpa using isReading_before hbefore hreference

/-- The first braces of a text that goes on with a reference are those of the reference. -/
theorem tokens_spelled {n : String} {s : List Char} (hs : (Token.reference n).Spells s)
    (hbefore : ¬['{', '{'] <:+: before ++ ['{']) (rest : List Char) :
    tokens (before ++ (s ++ rest)) = literalOf before ++ .reference n :: tokens rest := by
  obtain @⟨⟩ | @⟨left, name, right, -, -, hclosed, htrimmed⟩ := hs
  have hclose := cutDoubled_append hclosed rest
  have hopen := cutDoubled_append hbefore (left ++ name ++ right ++ '}' :: '}' :: rest)
  have htokens := tokens_of_placeholder hopen hclose
  rw [htrimmed] at htokens
  simpa using htokens

theorem tokens_reference {n : String} {s : List Char} (hs : (Token.reference n).Spells s)
    (rest : List Char) :
    tokens (s ++ rest) = .reference n :: tokens rest := by
  have hnone : ¬['{', '{'] <:+: [] ++ ['{'] := by decide
  simpa [literalOf] using tokens_spelled hs hnone rest

theorem literalOf_toList {text : String} (h : text ≠ "") :
    literalOf text.toList = [.literal text] := by
  rw [literalOf, if_neg (by simpa using h), String.ofList_toList]

/-- Braces that come first leave no choice at any token. -/
theorem tokens_of_isReading {ts : List Token} (h : IsReading ts cs) : tokens cs = ts := by
  induction ts generalizing cs with
  | nil =>
    obtain ⟨ss, hss, rfl⟩ := h.spelled
    cases hss
    exact tokens_of_unopened rfl
  | cons t ts ih =>
    obtain ⟨s, rest, ht, rfl, hnext, hend, hrest⟩ := h.uncons
    have htail := ih hrest
    cases t with
    | reference n => rw [tokens_reference ht, htail]
    | literal text =>
      obtain ⟨hne⟩ | ⟨⟩ := ht
      cases ts with
      | nil =>
        obtain ⟨ss, hss, rfl⟩ := hrest.spelled
        cases hss
        rw [List.flatten_nil, List.append_nil, ← literalOf_toList hne]
        rcases hend rfl with hplain | ⟨a, b, htext, ha, hb⟩
        · exact tokens_of_unopened (cutDoubled_eq_none_iff.2 hplain)
        · exact tokens_of_unclosed (cutDoubled_eq_some_iff.2 ⟨htext, ha⟩)
            (cutDoubled_eq_none_iff.2 hb)
      | cons t' ts =>
        cases t' with
        | literal _ => exact absurd (hnext _ rfl) id
        | reference n =>
          obtain ⟨s, rest, hs, rfl, -⟩ := hrest.uncons
          rw [tokens_reference hs] at htail
          rw [tokens_spelled hs (hnext _ rfl), literalOf_toList hne, htail]
          rfl

theorem isReading_iff {ts : List Token} : IsReading ts cs ↔ ts = tokens cs :=
  ⟨fun h => (tokens_of_isReading h).symm, fun h => h ▸ isReading_tokens cs⟩

theorem render_congr {template : String} {vars vars' : Variables}
    (h : ∀ name ∈ names template, vars.get? name = vars'.get? name) :
    render template vars = render template vars' := by
  have htokens : ∀ token ∈ tokenize template, token.render vars = token.render vars' := by
    intro token htoken
    cases token with
    | literal text => rfl
    | reference name =>
      have hname : name ∈ names template := List.mem_filterMap.2 ⟨_, htoken, rfl⟩
      simp only [Token.render, h name hname]
  rw [render, List.map_congr_left htokens]
  rfl

theorem render_of_names_eq_nil {template : String} (h : names template = []) (vars : Variables) :
    render template vars = template := by
  have hreading : IsReading (tokenize template) template.toList := isReading_tokens _
  have hnames : ∀ t ∈ tokenize template, t.name? = none := List.filterMap_eq_nil_iff.1 h
  rw [render]
  generalize tokenize template = ts at *
  match ts with
  | [] =>
    obtain ⟨ss, hss, htemplate⟩ := hreading.spelled
    cases hss
    rw [← String.toList_inj, ← htemplate]
    rfl
  | [.literal text] =>
    obtain ⟨s, rest, ⟨⟩ | ⟨⟩, htemplate, -, -, hrest⟩ := hreading.uncons
    obtain ⟨ss, hss, rfl⟩ := hrest.spelled
    cases hss
    obtain rfl : template = text := String.toList_inj.1 (by simpa using htemplate)
    simp [Token.render]
  | .literal _ :: .literal _ :: _ =>
    obtain ⟨-, -, -, -, hnext, -⟩ := hreading.uncons
    exact absurd (hnext _ rfl) id
  | .reference n :: _ | .literal _ :: .reference n :: _ =>
    exact absurd (hnames (.reference n) (by simp)) (by simp [Token.name?])

theorem tokenize_of_isReading {ts : List Token} (h : IsReading ts cs) :
    tokenize (.ofList cs) = ts := by
  rw [tokenize, String.toList_ofList, tokens_of_isReading h]

/-- The tokens of a template are its only reading. So a template is rendered by what is known of its
names, and around each of them by its two sides, whatever braces the value may hold. -/
theorem reading_unique (template : String) :
    (∀ ts, IsReading ts template.toList ↔ ts = tokenize template) ∧
    (∀ vars vars' : Variables, (∀ name ∈ names template, vars.get? name = vars'.get? name) →
      render template vars = render template vars') ∧
    (names template = [] → ∀ vars, render template vars = template) ∧
    ∀ before name after, tokenize template = before ++ .reference name :: after →
      ∃ a s b, template = a ++ s ++ b ∧ (Token.reference name).Spells s.toList ∧
        tokenize a = before ∧ tokenize b = after ∧
        ∀ vars, render template vars =
          render a vars ++ (vars.get? name).getD "" ++ render b vars := by
  refine ⟨fun ts => isReading_iff, fun vars vars' h => render_congr h, render_of_names_eq_nil,
    fun before name after htokens => ?_⟩
  have hreading : IsReading (before ++ .reference name :: after) template.toList :=
    isReading_iff.2 htokens.symm
  obtain ⟨a, s, b, htemplate, hs, ha, hb⟩ := hreading.split
  refine ⟨.ofList a, .ofList s, .ofList b, ?_, by simpa using hs, ?_, ?_, fun vars => ?_⟩
  · rw [← String.ofList_toList (s := template), htemplate, String.ofList_append,
      String.ofList_append]
  · exact tokenize_of_isReading ha
  · exact tokenize_of_isReading hb
  · simp only [render, tokenize_of_isReading ha, tokenize_of_isReading hb, htokens, List.map_append,
      List.map_cons, String.join_append, String.join_cons, String.append_assoc]
    rfl

/-- A template with a run of three braces, a reference with blanks and one that is never closed. -/
def bracedTemplate : String := "a\x7b\x7b\x7bb\x7d\x7d\x7b\x7b c \x7d\x7d \x7b\x7bd"

theorem reading_unique_braced :
    (tokenize bracedTemplate =
        [.literal "a", .reference "\x7bb"] ++ .reference "c" :: [.literal " \x7b\x7bd"] ∧
      names "a\x7b\x7b" = [] ∧
      ∀ name ∈ names bracedTemplate, (SortedMap.ofList [("c", "\x7b\x7bd\x7d\x7d")]).get? name =
        (SortedMap.ofList [("c", "\x7b\x7bd\x7d\x7d"), ("d", "e")]).get? name) ∧
    (IsReading [.literal "a", .reference "\x7bb", .reference "c", .literal " \x7b\x7bd"]
        bracedTemplate.toList ∧
      render bracedTemplate (.ofList [("c", "\x7b\x7bd\x7d\x7d")]) =
        render bracedTemplate (.ofList [("c", "\x7b\x7bd\x7d\x7d"), ("d", "e")]) ∧
      render "a\x7b\x7b" ∅ = "a\x7b\x7b") ∧
    ∃ a s b, bracedTemplate = a ++ s ++ b ∧ (Token.reference "c").Spells s.toList ∧
      tokenize a = [.literal "a", .reference "\x7bb"] ∧ tokenize b = [.literal " \x7b\x7bd"] ∧
      ∀ vars, render bracedTemplate vars = render a vars ++
        (vars.get? "c").getD "" ++ render b vars := by
  have htokens : tokenize bracedTemplate =
      [.literal "a", .reference "\x7bb"] ++ .reference "c" :: [.literal " \x7b\x7bd"] := by
        decide +kernel
  have hplain : names "a\x7b\x7b" = [] := by decide +kernel
  have hagree : ∀ name ∈ names bracedTemplate,
    (SortedMap.ofList [("c", "\x7b\x7bd\x7d\x7d")]).get? name =
      (SortedMap.ofList [("c", "\x7b\x7bd\x7d\x7d"), ("d", "e")]).get? name := by decide +kernel
  obtain ⟨hreading, hrender, -, hsides⟩ := reading_unique bracedTemplate
  exact ⟨⟨htokens, hplain, hagree⟩, ⟨(hreading _).2 htokens.symm, hrender _ _ hagree,
    (reading_unique "a\x7b\x7b").2.2.1 hplain ∅⟩, hsides _ _ _ htokens⟩

end Template

end Shorthand
