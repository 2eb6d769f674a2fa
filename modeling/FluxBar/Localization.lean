import FluxBar.Article
import FluxBar.Library.Json
import FluxBar.Library.Substrings

/-! Plural messages. A template is text with groups in double braces, and a count goes in
place of the groups that name it. -/
namespace FluxBar.Localization
open Article JsonFormat Substrings Words

/-! ## The scanner -/

/-- A turn of the loop of `apply_count_template`, and what follows it. A group that is not
closed is copied with the rest, which has its text before the braces copied already. -/
def applyLoop (countStr result rest : Text) : Text :=
  match _opened : find ['{', '{'] rest with
  | none => result ++ rest
  | some start =>
    let result := result ++ rest.take start
    match find ['}', '}'] (rest.drop start) with
    | some endOffset =>
      let inner := (rest.drop (start + 2)).take (endOffset - 2)
      let result :=
        if trim isWhitespace inner = ".Count".toList then result ++ countStr
        else result ++ (rest.drop start).take (endOffset + 2)
      applyLoop countStr result (rest.drop (start + endOffset + 2))
    -- after the loop, `rest` is what it was
    | none => result ++ rest.drop start ++ rest
termination_by rest.length
decreasing_by
  have some : 0 < rest.length := List.length_pos_iff.mpr fun empty => by simp [find, empty] at _opened
  rw [List.length_drop]
  omega

/-- `apply_count_template`: the count is put in where a group says `.Count`, and other
groups stay as they are. -/
def applyCountTemplate (template : Text) (count : Int) : Text :=
  applyLoop (toString count).toList [] template

/-- `Localizer::plural`, over the messages of a catalog: the form for one or for others, or
a fallback, and the count put into it. -/
def plural (messages : String → Option Json) (key : String) (oneFallback otherFallback : Text)
    (count : Int) : Text :=
  let singular := count.natAbs = 1
  let fallback := if singular then oneFallback else otherFallback
  let form := if singular then "one" else "other"
  let template := ((messages key).bind (·.find? form)).bind asString
  applyCountTemplate ((template.map String.toList).getD fallback) count

/-! ## Templates -/

/-- A character of plain text, or a group with what its braces hold. -/
inductive Piece where
  | plain (c : Char)
  | group (inside : Text)
  deriving DecidableEq, Repr

def Piece.source : Piece → Text
  | .plain c => [c]
  | .group inside => ['{', '{'] ++ inside ++ ['}', '}']

/-- A piece with the count put in, where it is a group that asks for it. -/
def Piece.shown (count : Int) : Piece → Text
  | .plain c => [c]
  | .group inside =>
    if trim isWhitespace inside = ".Count".toList then (toString count).toList
    else (Piece.group inside).source

/-- A template read from left to right. What is left is the text from a `{{` on that no `}}`
closes, and empty without one. -/
inductive Reads : Text → List Piece → Text → Prop where
  | done : Reads [] [] []
  | plain {rest left : Text} {pieces : List Piece} (c : Char) : ¬ ['{', '{'] <+: c :: rest →
      Reads rest pieces left → Reads (c :: rest) (.plain c :: pieces) left
  -- closed by the next `}}`
  | group {rest left : Text} {pieces : List Piece} (inside : Text) :
      ¬ ['}', '}'] <:+: inside ++ ['}'] → Reads rest pieces left →
      Reads ((Piece.group inside).source ++ rest) (.group inside :: pieces) left
  | unclosed (rest : Text) : ¬ ['}', '}'] <:+: rest →
      Reads (['{', '{'] ++ rest) [] (['{', '{'] ++ rest)

/-- Plain text before a `{{`, or before the end, is read character by character. -/
theorem reads_plain {before text left : Text} {pieces : List Piece}
    (none : ¬ ['{', '{'] <:+: before ++ text.take 1) (reads : Reads text pieces left) :
    Reads (before ++ text) (before.map .plain ++ pieces) left := by
  induction before with
  | nil => exact reads
  | cons c before ih =>
    rw [List.cons_append, List.infix_cons_iff, not_or] at none
    refine .plain c (fun first => none.1 ?_) (ih none.2)
    cases before with
    | nil =>
      cases text with
      | nil => exact first
      | cons d text => simpa [List.cons_prefix_cons] using first
    | cons d before => simpa [List.cons_prefix_cons] using first

/-- The pieces and what is left make up the template. -/
theorem Reads.source {template left : Text} {pieces : List Piece}
    (reads : Reads template pieces left) : pieces.flatMap Piece.source ++ left = template := by
  induction reads with
  | done => rfl
  | plain c _ _ ih => simp [Piece.source, ← ih]
  | group inside _ _ ih => simp [Piece.source, ← ih]
  | unclosed => rfl

/-- The first `}}` is in one place. -/
theorem inside_unique {inside inside' rest rest' : Text}
    (first : ¬ ['}', '}'] <:+: inside ++ ['}']) (first' : ¬ ['}', '}'] <:+: inside' ++ ['}'])
    (same : inside ++ '}' :: '}' :: rest = inside' ++ '}' :: '}' :: rest') :
    inside = inside' ∧ rest = rest' := by
  have starts : ∀ {c : Char} {inside rest rest' : Text}, ¬ ['}', '}'] <:+: c :: inside ++ ['}'] →
      '}' :: '}' :: rest ≠ c :: inside ++ '}' :: '}' :: rest' := by
    intro c inside rest rest' none same
    cases inside with
    | nil =>
      obtain ⟨rfl, _⟩ : '}' = c ∧ _ := by simpa using same
      exact none (List.infix_refl _)
    | cons d inside =>
      obtain ⟨rfl, rfl, _⟩ : '}' = c ∧ '}' = d ∧ _ := by simpa using same
      exact none ⟨[], inside ++ ['}'], by simp⟩
  induction inside generalizing inside' with
  | nil =>
    cases inside' with
    | nil => exact ⟨rfl, by simpa using same⟩
    | cons c inside' => exact absurd same (starts first')
  | cons c inside ih =>
    cases inside' with
    | nil => exact absurd same.symm (starts first)
    | cons c' inside' =>
      rw [List.cons_append, List.infix_cons_iff, not_or] at first first'
      simp only [List.cons_append, List.cons.injEq] at same
      obtain ⟨rfl, same⟩ := same
      obtain ⟨rfl, rfl⟩ := ih first.2 first'.2 same
      exact ⟨rfl, rfl⟩

/-- A template is read in one way: what a group holds ends at the first `}}` after it, and
by induction on the reading the rest is read in one way too. -/
theorem Reads.unique {template left left' : Text} {pieces pieces' : List Piece}
    (reads : Reads template pieces left) (other : Reads template pieces' left') :
    pieces' = pieces ∧ left' = left := by
  induction reads generalizing pieces' left' with
  | done =>
    generalize same : ([] : Text) = template at other
    cases other with
    | done => exact ⟨rfl, rfl⟩
    | plain | group | unclosed => cases same
  | @plain rest left pieces c bare _ ih =>
    generalize same : c :: rest = template at other
    cases other with
    | done => cases same
    | plain c' _ reads =>
      cases same
      obtain ⟨rfl, rfl⟩ := ih reads
      exact ⟨rfl, rfl⟩
    | group inside | unclosed =>
      rw [same] at bare
      exact absurd (by simp [Piece.source]) bare
  | @group rest left pieces inside first _ ih =>
    generalize same : (Piece.group inside).source ++ rest = template at other
    cases other with
    | done => simp [Piece.source] at same
    | plain c bare => exact absurd (by rw [← same]; simp [Piece.source]) bare
    | @group rest' _ _ inside' first' reads =>
      obtain ⟨rfl, rfl⟩ := inside_unique first first' (by simpa [Piece.source] using same)
      obtain ⟨rfl, rfl⟩ := ih reads
      exact ⟨rfl, rfl⟩
    | unclosed rest' none =>
      obtain rfl : inside ++ ['}', '}'] ++ rest = rest' := by simpa [Piece.source] using same
      exact absurd ⟨inside, rest, rfl⟩ none
  | unclosed rest none =>
    generalize same : ['{', '{'] ++ rest = template at other
    cases other with
    | done => cases same
    | plain c bare => exact absurd (by rw [← same]; simp) bare
    | @group rest' _ _ inside' =>
      obtain rfl : inside' ++ ['}', '}'] ++ rest' = rest := by simpa [Piece.source] using same.symm
      exact absurd ⟨inside', rest', rfl⟩ none
    | unclosed rest' _ =>
      obtain rfl : rest = rest' := by simpa using same
      exact ⟨rfl, rfl⟩

theorem shown_plain (count : Int) (before : Text) :
    (before.map .plain).flatMap (Piece.shown count) = before := by
  rw [List.flatMap_map]
  exact List.flatMap_singleton' before

/-- The next `{{`, with the text before it. -/
theorem opened_shape {rest : Text} {start : Nat} (opened : find ['{', '{'] rest = some start) :
    ∃ before tail, rest = before ++ (['{', '{'] ++ tail) ∧ before.length = start ∧
      ¬ ['{', '{'] <:+: before ++ ['{'] := by
  obtain ⟨before, tail, same, length, alone⟩ := find_eq_some opened
  exact ⟨before, tail, by rw [same, List.append_assoc], length, alone (by simp)⟩

/-- The next `}}` after it closes a group. -/
theorem closed_shape {tail : Text} {endOffset : Nat}
    (closed : find ['}', '}'] (['{', '{'] ++ tail) = some endOffset) :
    ∃ inside after, ['{', '{'] ++ tail = (Piece.group inside).source ++ after ∧
      endOffset = inside.length + 2 ∧ ¬ ['}', '}'] <:+: inside ++ ['}'] := by
  obtain ⟨before, after, same, rfl, alone⟩ := find_eq_some closed
  match before with
  | [] | [_] => simp at same
  | c :: d :: inside =>
    simp only [List.cons_append, List.nil_append, List.cons.injEq] at same
    obtain ⟨rfl, rfl, rfl⟩ := same
    refine ⟨inside, after, by simp [Piece.source], rfl, fun within => alone (by simp) ?_⟩
    exact within.trans ⟨['{', '{'], [], by simp⟩

theorem applyLoop_reads (count : Int) (result rest : Text) : ∃ pieces left extra,
    Reads rest pieces left ∧ (extra = [] ↔ left = []) ∧
      applyLoop (toString count).toList result rest =
        result ++ pieces.flatMap (Piece.shown count) ++ left ++ extra := by
  fun_induction applyLoop (toString count).toList result rest with
  | case1 result rest opened =>
    have reads := @reads_plain rest [] [] [] (by simpa using find_eq_none.mp opened) .done
    simp only [List.append_nil] at reads
    exact ⟨_, _, [], reads, Iff.rfl, by simp [shown_plain]⟩
  | case2 result rest start opened result' endOffset closed inner result'' ih =>
    obtain ⟨before, tail, rfl, rfl, alone⟩ := opened_shape opened
    rw [List.drop_left] at closed
    obtain ⟨inside, after, same, rfl, first⟩ := closed_shape closed
    rw [same] at ih ⊢
    have taken : result' = result ++ before := by
      change result ++ List.take _ _ = _
      rw [List.take_left]
    have rest : (before ++ ((Piece.group inside).source ++ after)).drop
        (before.length + (inside.length + 2) + 2) = after := by
      rw [← List.append_assoc]
      exact List.drop_left' (by simp [Piece.source]; omega)
    have held : inner = inside := by
      change List.take _ (List.drop _ (before ++ (['{', '{'] ++ tail))) = _
      rw [same, ← List.drop_drop, List.drop_left]
      simp [Piece.source]
    have shown : result'' = result ++ before ++ (Piece.group inside).shown count := by
      change (if trim isWhitespace inner = ".Count".toList then result' ++ (toString count).toList
        else result' ++ List.take _ (List.drop _ (before ++ (['{', '{'] ++ tail)))) = _
      rw [held, taken, same, List.drop_left, List.take_left' (by simp [Piece.source])]
      exact (apply_ite (result ++ before ++ ·) _ _ _).symm
    rw [rest, shown] at ih
    obtain ⟨pieces, left, extra, reads, none, ran⟩ := ih
    have whole := reads_plain (by simpa [Piece.source] using alone) (.group inside first reads)
    refine ⟨_, left, extra, whole, none, ?_⟩
    rw [rest, shown, ran, List.flatMap_append, shown_plain, List.flatMap_cons]
    simp only [List.append_assoc]
  | case3 result rest start opened result' closed =>
    obtain ⟨before, tail, rfl, rfl, alone⟩ := opened_shape opened
    rw [List.drop_left] at closed
    have none := find_eq_none.mp closed
    have reads := @reads_plain before (['{', '{'] ++ tail) (['{', '{'] ++ tail) [] (by simpa using alone)
      (.unclosed tail fun within => none (within.trans ⟨['{', '{'], [], by simp⟩))
    simp only [List.append_nil] at reads
    refine ⟨_, _, before ++ (['{', '{'] ++ tail), reads, by simp, ?_⟩
    change result ++ List.take _ _ ++ _ ++ _ = _
    rw [List.take_left, List.drop_left, shown_plain]

/-- Every template is read in one way, and what comes of it is the reading with the count
put in exactly when no `{{` is left open. Of an open one the text before it is copied twice.
-/
theorem apply_count_template_iff (template : Text) (count : Int) : ∃ pieces left,
    Reads template pieces left ∧
    (∀ pieces' left', Reads template pieces' left' → pieces' = pieces ∧ left' = left) ∧
    pieces.flatMap Piece.source ++ left = template ∧
    (applyCountTemplate template count = pieces.flatMap (Piece.shown count) ++ left ↔ left = []) := by
  obtain ⟨pieces, left, extra, reads, none, ran⟩ := applyLoop_reads count [] template
  refine ⟨pieces, left, reads, fun _ _ => reads.unique, reads.source, ?_⟩
  rw [← none, applyCountTemplate, ran, List.nil_append]
  exact List.append_right_eq_self

/-- A fallback with a group that is not closed. -/
def openTemplate : Text := "new ".toList ++ ['{', '{']

/-- A fallback with a group that is not closed: its text is copied twice. -/
theorem open_group_repeated :
    let pieces := "new ".toList.map .plain
    Reads openTemplate pieces ['{', '{'] ∧
      plural (fun _ => none) "missing.plural" openTemplate openTemplate 2 =
        openTemplate ++ openTemplate ∧
      pieces.flatMap (Piece.shown 2) ++ ['{', '{'] = openTemplate := by
  have reads := @reads_plain "new ".toList ['{', '{'] ['{', '{'] [] (by decide)
    (.unclosed [] (by decide))
  refine ⟨reads, ?_, rfl⟩
  unfold plural applyCountTemplate
  dsimp only
  rw [openTemplate, applyLoop]
  rfl

end FluxBar.Localization
