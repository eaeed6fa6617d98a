import Shorthand.Proofs.Words.Reading
import Shorthand.Template
/-!
Where the characters of a text come from. Trimming, cutting, splitting into words and rendering move
characters and leave some out, but put in none of their own.
-/
set_option autoImplicit false

namespace Shorthand

namespace Text

theorem dropBlank_subset (s : List Char) : dropBlank s ⊆ s := (List.dropWhile_sublist _).subset

theorem trimmed_subset (s : List Char) : trimmed s ⊆ s := by
  intro c hc
  have hback : c ∈ dropBlank (dropBlank s).reverse := List.mem_reverse.1 hc
  exact dropBlank_subset s (List.mem_reverse.1 (dropBlank_subset _ hback))

theorem trim_subset (s : String) : (trim s).toList ⊆ s.toList := by
  rw [trim, String.toList_ofList]
  exact trimmed_subset s.toList

theorem subset_of_cut {c : Char} {s before after : String} (h : cut c s = some (before, after)) :
    before.toList ⊆ s.toList ∧ after.toList ⊆ s.toList := by
  obtain ⟨⟨a, b⟩, hcut, heq⟩ := Option.map_eq_some_iff.1 h
  obtain ⟨rfl, rfl⟩ := Prod.mk.inj heq
  rw [(eq_of_cutChars hcut).1, String.toList_ofList, String.toList_ofList]
  exact ⟨List.subset_append_left _ _, fun x hx => by simp [hx]⟩

theorem subset_of_dropStart? {start s rest : String} (h : dropStart? start s = some rest) :
    rest.toList ⊆ s.toList := by
  rw [eq_of_dropStart? h, String.toList_append]
  exact List.subset_append_right _ _

end Text

namespace Words

/-- What a mode has read and not yet given to a word. -/
def Mode.held : Mode → List Char
  | .doubleEscaped => ['\\']
  | _ => []

theorem Mode.held_opened (c : Char) : (Mode.opened c).held = [] := by
  unfold Mode.opened
  repeat' split
  all_goals rfl

theorem Mode.held_next_subset (m : Mode) (c : Char) : (m.next c).held ⊆ [c] := by
  cases m <;> simp only [next] <;> repeat' split
  all_goals first | simp [held_opened] | simp_all [held]

theorem Mode.given_subset (m : Mode) (c : Char) : m.given c ⊆ m.held ++ [c] := by
  cases m <;> simp only [given] <;> repeat' split
  all_goals simp [held]

theorem flatten_subset_of_read {m : Mode} {s : List Char} {ws : List (List Char)}
    (h : read m s = some ws) :
    ws.flatten ⊆ m.held ++ s := by
  induction s generalizing m ws with
  | nil =>
    cases m <;> simp [read] at h
    all_goals subst h; simp
  | cons c r ih =>
    obtain ⟨vs, hvs, hflatten⟩ := exists_read_of_cons h
    have hrest : vs.flatten ⊆ c :: r :=
      List.Subset.trans (ih hvs)
        (List.append_subset.2 ⟨List.Subset.trans (m.held_next_subset c) (by simp), by simp⟩)
    rw [hflatten]
    refine List.append_subset.2 ⟨List.Subset.trans (m.given_subset c) ?_,
      List.subset_append_of_subset_right _ hrest⟩
    simp

/-- All characters of the words stand in the text, or were held back by the mode. -/
theorem subset_of_read {m : Mode} {s : List Char} {ws : List (List Char)} (h : read m s = some ws) :
    ∀ w ∈ ws, w ⊆ m.held ++ s := fun _ hw =>
  List.Subset.trans (List.sublist_flatten_of_mem hw).subset (flatten_subset_of_read h)

theorem subset_of_split {line : String} {words : List String} (h : split line = some words)
    {word : String} (hw : word ∈ words) : word.toList ⊆ line.toList := by
  obtain ⟨ws, hws, rfl⟩ := Option.map_eq_some_iff.1 h
  obtain ⟨w, hmem, rfl⟩ := List.mem_map.1 hw
  rw [String.toList_ofList]
  exact subset_of_read hws w hmem

end Words

namespace Template

theorem literalOf_subset {cs : List Char} {text : String} (h : .literal text ∈ literalOf cs) :
    text.toList ⊆ cs := by
  unfold literalOf at h
  split at h
  · cases h
  · obtain rfl := Token.literal.inj (List.mem_singleton.1 h)
    rw [String.toList_ofList]
    exact fun _ => id

theorem literal_subset {cs : List Char} {text : String} (h : .literal text ∈ tokens cs) :
    text.toList ⊆ cs := by
  induction hl : cs.length using Nat.strongRecOn generalizing cs with
  | _ length ih =>
    subst hl
    rw [tokens] at h
    split at h
    · exact literalOf_subset h
    · rename_i before rest hopen
      have hcs := Text.eq_of_cutDoubled hopen
      split at h
      · exact literalOf_subset h
      · rename_i name after hclose
        have hrest := Text.eq_of_cutDoubled hclose
        rcases List.mem_append.1 h with h | h
        · exact List.Subset.trans (literalOf_subset h) (by simp [hcs])
        · have htail : .literal text ∈ tokens after := by simpa using h
          have hshort : after.length < cs.length :=
            Nat.lt_trans (Text.length_of_cutDoubled hclose) (Text.length_of_cutDoubled hopen)
          refine List.Subset.trans (ih after.length hshort htail rfl) fun c hc => ?_
          simp [hcs, hrest, hc]

theorem mem_render {template : String} {vars : Variables} {c : Char}
    (h : c ∈ (render template vars).toList) :
    c ∈ template.toList ∨ ∃ name value, vars.get? name = some value ∧ c ∈ value.toList := by
  rw [render, String.toList_join, List.mem_flatMap] at h
  obtain ⟨text, htext, hc⟩ := h
  obtain ⟨token, htoken, rfl⟩ := List.mem_map.1 htext
  cases token with
  | literal text => exact .inl (literal_subset htoken hc)
  | reference name =>
    cases hvalue : vars.get? name with
    | none => simp [Token.render, hvalue] at hc
    | some value => exact .inr ⟨name, value, hvalue, by simpa [Token.render, hvalue] using hc⟩

end Template

end Shorthand
