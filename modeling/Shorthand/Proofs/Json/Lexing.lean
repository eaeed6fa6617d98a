import Shorthand.Proofs.Json.Pieces
import Shorthand.Proofs.Text.Blank
/-!
Which of a text are its comments and strings. A comment is opened outside of strings and other
comments, and ends where it can first; a string likewise, at a quote that no backslash escapes.
There is one way to cut a text like that. What is left of it without its comments is cut at the same
places and holds no comment any more.
-/
set_option autoImplicit false

namespace Shorthand.Json

/-- What a string may hold between its quotes: a quote only behind a backslash, and a backslash with
what it escapes. -/
inductive Inside : List Char → Prop
  | nil : Inside []
  | plain {c : Char} {s : List Char} (quote : c ≠ '"') (slash : c ≠ '\\') (rest : Inside s) :
      Inside (c :: s)
  | escape {c : Char} {s : List Char} (rest : Inside s) : Inside ('\\' :: c :: s)

/-- The pieces are what the text in a row of them is to be cut into. -/
inductive Lexing : List Piece → Prop
  | nil : Lexing []
  | code {c : Char} {ps : List Piece} (quote : c ≠ '"')
      (slash : c = '/' → ∀ d ∈ (ps.flatMap Piece.text).head?, d ≠ '/' ∧ d ≠ '*')
      (rest : Lexing ps) :
      Lexing (.code c :: ps)
  | string {s : List Char} {ps : List Piece} (inside : Inside s) (rest : Lexing ps) :
      Lexing (.string ('"' :: (s ++ ['"'])) :: ps)
  /-- A string that the text ends in, perhaps with a backslash that escapes nothing. -/
  | openString {s : List Char} (inside : Inside s ∨ ∃ r, Inside r ∧ s = r ++ ['\\']) :
      Lexing [.string ('"' :: s)]
  | line {s : List Char} {ps : List Piece} (inside : '\n' ∉ s)
      (ended : ∀ c ∈ (ps.flatMap Piece.text).head?, c = '\n') (rest : Lexing ps) :
      Lexing (.comment ('/' :: '/' :: s) :: ps)
  | block {s : List Char} {ps : List Piece} (inside : ¬['*', '/'] <:+: s ++ ['*'])
      (rest : Lexing ps) :
      Lexing (.comment ('/' :: '*' :: (s ++ ['*', '/'])) :: ps)
  /-- A comment that nothing closes. -/
  | openBlock {s : List Char} (inside : ¬['*', '/'] <:+: s) : Lexing [.comment ('/' :: '*' :: s)]

variable {s : List Char} {ps : List Piece}

theorem cutString_inside (h : Inside s) (t : List Char) :
    cutString (s ++ t) = (s ++ (cutString t).1, (cutString t).2) := by
  induction h with
  | nil => rfl
  | plain quote slash _ ih => simp [cutString, slash, ih]
  | escape _ ih => simp [cutString, ih]

theorem cutString_open (h : Inside s ∨ ∃ r, Inside r ∧ s = r ++ ['\\']) :
    cutString s = (s, []) := by
  rcases h with h | ⟨r, h, rfl⟩
  · simpa [cutString] using cutString_inside h []
  · rw [cutString_inside h]
    rfl

theorem cutString_cases (s : List Char) :
    (∃ r, Inside r ∧ (cutString s).1 = r ++ ['"']) ∨
      (cutString s).2 = [] ∧
        (Inside (cutString s).1 ∨ ∃ r, Inside r ∧ (cutString s).1 = r ++ ['\\']) := by
  fun_induction cutString s with
  | case1 => exact .inr ⟨rfl, .inl .nil⟩
  | case2 r => exact .inl ⟨[], .nil, rfl⟩
  | case3 c r ih =>
    rcases ih with ⟨t, ht, heq⟩ | ⟨hnil, ht | ⟨t, ht, heq⟩⟩
    · exact .inl ⟨'\\' :: c :: t, .escape ht, by simp [heq]⟩
    · exact .inr ⟨hnil, .inl (.escape ht)⟩
    · exact .inr ⟨hnil, .inr ⟨'\\' :: c :: t, .escape ht, by simp [heq]⟩⟩
  | case4 c r hquote hslash ih =>
    have hquote : c ≠ '"' := hquote
    by_cases hc : c = '\\'
    · subst hc
      cases r with
      | nil => exact .inr ⟨rfl, .inr ⟨[], .nil, rfl⟩⟩
      | cons d r => exact absurd rfl (hslash d r rfl)
    · rcases ih with ⟨t, ht, heq⟩ | ⟨hnil, ht | ⟨t, ht, heq⟩⟩
      · exact .inl ⟨c :: t, .plain hquote hc ht, by simp [heq]⟩
      · exact .inr ⟨hnil, .inl (.plain hquote hc ht)⟩
      · exact .inr ⟨hnil, .inr ⟨c :: t, .plain hquote hc ht, by simp [heq]⟩⟩

/-- A comment goes on past everything that does not close it, also with the character behind. -/
theorem cutBlock_inside {t : List Char} (h : ¬['*', '/'] <:+: s ++ t.take 1) :
    cutBlock (s ++ t) = (s ++ (cutBlock t).1, (cutBlock t).2) := by
  induction s with
  | nil => rfl
  | cons c s ih =>
    have hopen : ∀ r, c = '*' → s ++ t = '/' :: r → False := by
      rintro r rfl heq
      refine h (List.IsPrefix.isInfix ?_)
      cases s with
      | nil => simp [show t = '/' :: r from heq]
      | cons d s =>
        obtain ⟨rfl, -⟩ := List.cons.inj heq
        exact List.prefix_append ['*', '/'] _
    rw [List.cons_append, cutBlock.eq_3 _ _ hopen, ih fun hinfix => h (List.infix_cons hinfix)]
    rfl

theorem cutBlock_open (h : ¬['*', '/'] <:+: s) : cutBlock s = (s, []) := by
  simpa [cutBlock] using cutBlock_inside (t := []) (by simpa using h)

/-- What is left of a comment is closed by the first `*/`, or else it is all that is left. -/
theorem cutBlock_cases (s : List Char) :
    (∃ r, ¬['*', '/'] <:+: r ++ ['*'] ∧ (cutBlock s).1 = r ++ ['*', '/']) ∨
      (cutBlock s).2 = [] ∧ ¬['*', '/'] <:+: (cutBlock s).1 := by
  fun_induction cutBlock s with
  | case1 => exact .inr ⟨rfl, by decide⟩
  | case2 r => exact .inl ⟨[], by decide, rfl⟩
  | case3 c r hopen ih =>
    have hstart : ¬['*', '/'] <+: c :: r := by
      rintro ⟨rest, heq⟩
      obtain ⟨rfl, rfl⟩ := List.cons.inj heq
      exact hopen rest rfl rfl
    have hr := cutBlock_append r
    rcases ih with ⟨t, ht, heq⟩ | ⟨hnil, ht⟩
    · refine .inl ⟨c :: t, fun hinfix => ?_, by rw [heq, List.cons_append]⟩
      rw [heq] at hr
      have hprefix : t ++ ['*'] <+: r := ⟨'/' :: (cutBlock r).2, by simpa using hr⟩
      rcases List.infix_cons_iff.1 hinfix with hclose | hclose
      · exact hstart (hclose.trans (List.cons_prefix_cons.2 ⟨rfl, hprefix⟩))
      · exact ht hclose
    · rw [hnil, List.append_nil] at hr
      rw [hr] at ht ⊢
      exact .inr ⟨hnil, fun hinfix => (List.infix_cons_iff.1 hinfix).elim hstart ht⟩

theorem pieces_code {c : Char} (quote : c ≠ '"')
    (slash : c = '/' → ∀ d ∈ s.head?, d ≠ '/' ∧ d ≠ '*') :
    pieces (c :: s) = .code c :: pieces s := by
  rw [pieces]
  · exact quote
  · rintro r rfl rfl
    exact (slash rfl '/' rfl).1 rfl
  · rintro r rfl rfl
    exact (slash rfl '*' rfl).2 rfl

theorem lexing_pieces (s : List Char) : Lexing (pieces s) := by
  fun_induction pieces s with
  | case1 => exact .nil
  | case2 r ih =>
    rcases cutString_cases r with ⟨t, ht, heq⟩ | ⟨hnil, ht⟩
    · rw [heq]
      exact .string ht ih
    · rw [hnil, pieces]
      exact .openString ht
  | case3 r ih =>
    refine .line (fun hmem => ?_) (fun c hc => ?_) ih
    · simpa [isLineEnd] using List.mem_takeWhile_imp hmem
    · rw [text_pieces] at hc
      have hend := List.head?_dropWhile_not (fun c => !isLineEnd c) r
      rw [hc] at hend
      simpa [isLineEnd] using hend
  | case4 r ih =>
    rcases cutBlock_cases r with ⟨t, ht, heq⟩ | ⟨hnil, ht⟩
    · rw [heq]
      exact .block ht ih
    · rw [hnil, pieces]
      exact .openBlock ht
  | case5 c r hquote hline hblock ih =>
    refine .code hquote (fun hslash d hd => ?_) ih
    rw [text_pieces] at hd
    cases r with
    | nil => cases hd
    | cons e r =>
      obtain rfl : e = d := by simpa using hd
      constructor
      · rintro rfl
        exact hline r hslash rfl
      · rintro rfl
        exact hblock r hslash rfl

theorem pieces_of_lexing (h : Lexing ps) : pieces (ps.flatMap Piece.text) = ps := by
  induction h with
  | nil => rw [List.flatMap_nil, pieces]
  | code quote slash _ ih =>
    rw [List.flatMap_cons, Piece.text, List.singleton_append, pieces_code quote slash, ih]
  | @string s ps inside _ ih =>
    have hcut := cutString_inside inside ('"' :: ps.flatMap Piece.text)
    rw [List.flatMap_cons, Piece.text, List.cons_append, List.append_assoc, List.singleton_append,
      pieces, hcut]
    simp only [cutString, ih]
  | openString inside =>
    rw [List.flatMap_singleton, Piece.text, pieces, cutString_open inside, pieces]
  | @line s ps inside ended _ ih =>
    have hstretch :=
      Text.stretch_append (p := fun c => !isLineEnd c) (a := s) (b := ps.flatMap Piece.text)
      (fun c hc => by simpa [isLineEnd] using ne_of_mem_of_not_mem hc inside)
      (fun c hc => by simp [isLineEnd, ended c hc])
    rw [List.flatMap_cons, Piece.text, List.cons_append, List.cons_append, pieces, hstretch.1,
      hstretch.2, ih]
  | @block s ps inside _ ih =>
    have hcut := cutBlock_inside (t := '*' :: '/' :: ps.flatMap Piece.text) inside
    rw [List.flatMap_cons, Piece.text, List.cons_append, List.cons_append, List.append_assoc,
      List.cons_append, List.singleton_append, pieces, hcut]
    simp only [cutBlock, ih]
  | openBlock inside =>
    rw [List.flatMap_singleton, Piece.text, pieces, cutBlock_open inside, pieces]

theorem lexing_iff : Lexing ps ∧ ps.flatMap Piece.text = s ↔ ps = pieces s := by
  constructor
  · rintro ⟨h, rfl⟩
    exact (pieces_of_lexing h).symm
  · rintro rfl
    exact ⟨lexing_pieces s, text_pieces s⟩

namespace Piece

/-- Whether a character of the piece is left where comments are taken out: of a comment its line
ends only. -/
def keeps : Piece → Char → Bool
  | comment _, c => isLineEnd c
  | _, _ => true

def marked (p : Piece) : List (Char × Bool) := p.text.map fun c => (c, p.keeps c)

def remains : Piece → List Piece
  | comment text => (text.filter isLineEnd).map code
  | p => [p]

theorem map_marked (p : Piece) : (p.marked.filter (·.2)).map (·.1) = p.bare := by
  rw [marked, List.filter_map, List.map_map]
  cases p <;> simp [text, keeps, bare, Function.comp_def]

theorem keeps_lineEnd (p : Piece) {c : Char} (h : isLineEnd c = true) : p.keeps c = true := by
  cases p with
  | comment _ => exact h
  | _ => rfl

theorem text_remains (p : Piece) : p.remains.flatMap text = p.bare := by
  cases p <;> simp [remains, text, bare, List.flatMap_map]

theorem bare_remains (p : Piece) : p.remains.flatMap bare = p.bare := by
  cases p <;> simp [remains, bare, List.flatMap_map]

end Piece

theorem map_fst_marked (ps : List Piece) :
    (ps.flatMap Piece.marked).map (·.1) = ps.flatMap Piece.text := by
  simp [List.map_flatMap, Piece.marked, Function.comp_def]

theorem text_flatMap_remains (ps : List Piece) :
    (ps.flatMap Piece.remains).flatMap Piece.text = ps.flatMap Piece.bare := by
  simp only [List.flatMap_assoc, Piece.text_remains]

theorem bare_flatMap_remains (ps : List Piece) :
    (ps.flatMap Piece.remains).flatMap Piece.bare = ps.flatMap Piece.bare := by
  simp only [List.flatMap_assoc, Piece.bare_remains]

theorem uncommented_eq_marked (s : List Char) :
    uncommented .code s = (((pieces s).flatMap Piece.marked).filter (·.2)).map (·.1) := by
  simp only [uncommented_eq, List.filter_flatMap, List.map_flatMap, Piece.map_marked]

theorem countP_marked {l : List (Char × Bool)} (h : l ⊆ ps.flatMap Piece.marked) :
    (l.map (·.1)).countP isLineEnd = ((l.filter (·.2)).map (·.1)).countP isLineEnd := by
  rw [List.countP_map, List.countP_map, List.countP_filter]
  refine List.countP_congr fun m hm => ?_
  obtain ⟨p, -, hmarked⟩ := List.mem_flatMap.1 (h hm)
  obtain ⟨c, -, rfl⟩ := List.mem_map.1 hmarked
  simpa using p.keeps_lineEnd

theorem head?_bare (h : Lexing ps) (hslash : ∀ d ∈ (ps.flatMap Piece.text).head?, d ≠ '/') :
    (ps.flatMap Piece.bare).head? = (ps.flatMap Piece.text).head? := by
  cases h with
  | nil | code | string | openString => rfl
  | line | block | openBlock => exact absurd rfl (hslash '/' rfl)

theorem Lexing.lineEnds (h : Lexing ps) {ls : List Char} (hls : ∀ c ∈ ls, isLineEnd c) :
    Lexing (ls.map .code ++ ps) := by
  induction ls with
  | nil => exact h
  | cons c ls ih =>
    obtain ⟨hc, hrest⟩ := List.forall_mem_cons.1 hls
    obtain rfl : c = '\n' := by simpa [isLineEnd] using hc
    exact .code (by decide) (fun hslash => absurd hslash (by decide)) (ih hrest)

/-- What is left of the pieces is cut as it should be: a slash that is left has the same character
behind it as before, as it would have begun a comment in front of a comment. -/
theorem Lexing.remains (h : Lexing ps) : Lexing (ps.flatMap Piece.remains) := by
  have hlineEnds (text : List Char) : ∀ c ∈ text.filter isLineEnd, isLineEnd c :=
    fun c hc => (List.mem_filter.1 hc).2
  induction h with
  | nil => exact .nil
  | @code c ps quote slash rest ih =>
    have hhead (hslash : c = '/') :
        ((ps.flatMap Piece.remains).flatMap Piece.text).head? = (ps.flatMap Piece.text).head? := by
      rw [text_flatMap_remains, head?_bare rest fun d hd => (slash hslash d hd).1]
    exact .code quote (fun hslash d hd => slash hslash d (hhead hslash ▸ hd)) ih
  | string inside _ ih => exact .string inside ih
  | openString inside => exact .openString inside
  | line _ _ _ ih => exact ih.lineEnds (hlineEnds _)
  | block _ _ ih => exact ih.lineEnds (hlineEnds _)
  | openBlock _ => exact Lexing.nil.lineEnds (hlineEnds _)

theorem uncommented_uncommented (s : List Char) :
    uncommented .code (uncommented .code s) = uncommented .code s := by
  have hpieces := pieces_of_lexing (lexing_pieces s).remains
  rw [text_flatMap_remains, ← uncommented_eq] at hpieces
  rw [uncommented_eq (uncommented .code s), hpieces, bare_flatMap_remains, uncommented_eq]

/-- A text has one cut into code, strings and comments. Without its comments it is all characters of
the cut but those of comments that end no line. What is left stands on the line where it stood, and
there is nothing more to take out. -/
theorem stripComments_eq_marked (text : String) :
    ∃ ps, (∀ ps', Lexing ps' ∧ ps'.flatMap Piece.text = text.toList ↔ ps' = ps) ∧
      (ps.flatMap Piece.marked).map (·.1) = text.toList ∧
      (stripComments text).toList = ((ps.flatMap Piece.marked).filter (·.2)).map (·.1) ∧
      (∀ before c after, ps.flatMap Piece.marked = before ++ (c, true) :: after →
        (before.map (·.1)).countP isLineEnd = ((before.filter (·.2)).map (·.1)).countP isLineEnd) ∧
      stripComments (stripComments text) = stripComments text := by
  refine ⟨pieces text.toList, fun ps => lexing_iff, ?_, ?_, fun before c after hmarked => ?_, ?_⟩
  · rw [map_fst_marked, text_pieces]
  · rw [stripComments, String.toList_ofList, uncommented_eq_marked]
  · have hbefore : before ⊆ (pieces text.toList).flatMap Piece.marked := by
      rw [hmarked]
      exact List.subset_append_left _ _
    exact countP_marked hbefore
  · rw [stripComments, stripComments, String.toList_ofList, uncommented_uncommented]

/-- A comment over two lines, one in a string that a quote does not end, and one that nothing
closes. -/
def commentedText : String := "a /*\n*/ b // c\n\"\\\" //\" / /*/"

theorem stripComments_eq_marked_sample :
    ∃ before after,
      (pieces commentedText.toList).flatMap Piece.marked = before ++ ('b', true) :: after ∧
      (before.map (·.1)).countP isLineEnd = 1 ∧
        ((before.filter (·.2)).map (·.1)).countP isLineEnd = 1 ∧
      stripComments commentedText = "a \n b \n\"\\\" //\" / " ∧
      stripComments (stripComments commentedText) = stripComments commentedText := by
  obtain ⟨ps, hcut, -, -, hlines, htwice⟩ := stripComments_eq_marked commentedText
  obtain rfl := (hcut _).1 (lexing_iff.2 rfl)
  have hmarked : (pieces commentedText.toList).flatMap Piece.marked =
      ((pieces commentedText.toList).flatMap Piece.marked).take 8 ++
        ('b', true) :: ((pieces commentedText.toList).flatMap Piece.marked).drop 9 := by
          decide +kernel
  have hline : ((((pieces commentedText.toList).flatMap Piece.marked).take 8).map (·.1)).countP
    isLineEnd = 1 := by
    decide +kernel
  exact ⟨_, _, hmarked, hline, (hlines _ _ _ hmarked).symm.trans hline, by decide +kernel, htwice⟩

end Shorthand.Json
