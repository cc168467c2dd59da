import Mathlib.Data.List.Basic
import SpotForecast.Text.Pieces

/-!
# Where lines stand

A text that is empty or ends with a line feed has no line that another text could continue, so the
lines of the two put together are those of the one and then those of the other (`lines_append`).

`LineAt before line text` says where a line stands without cutting the text: behind `before`, which
ends with a line feed if there is anything in it, and up to the next line feed or the end of the
text.  The lines of `text` are exactly these, and the number of a line is that of the line feeds
before it (`exists_lineAt_of_lines_eq`, `LineAt.lines_eq`).

`induction_on_lines` goes through a text line by line, and `closed` writes lines one behind the
other, each with a line feed at its end (`pieces_closed`, `lines_closed`).
-/

namespace SpotForecast.Text

variable {α : Type} {xs ys line before text : List Char}

/-- A text is empty or ends with a line feed. -/
def EndsLine (text : List Char) : Prop :=
  ∀ c ∈ text.getLast?, c = '\n'

instance (text : List Char) : Decidable (EndsLine text) :=
  decidable_of_iff (text.getLast?.all (· == '\n') = true)
    (by simp [EndsLine, Option.all_eq_true])

theorem EndsLine.cases (h : EndsLine xs) : xs = [] ∨ ∃ front, xs = front ++ ['\n'] := by
  rcases List.eq_nil_or_concat xs with rfl | ⟨front, c, rfl⟩
  · exact Or.inl rfl
  · obtain rfl := h c (by simp)
    exact Or.inr ⟨front, by simp⟩

theorem endsLine_append_cons (h : EndsLine ys) (xs : List Char) : EndsLine (xs ++ '\n' :: ys) := by
  intro c hc
  rw [List.getLast?_append, List.getLast?_cons, Option.some_or, Option.mem_some_iff] at hc
  subst hc
  cases hlast : ys.getLast? with
  | none => rfl
  | some d => exact h d hlast

/-- At a separator the pieces of a text fall apart. -/
theorem pieces_append_cons {stop : α → Bool} {a : α} (ha : stop a = true) (xs ys : List α) :
    pieces stop (xs ++ a :: ys) = pieces stop xs ++ pieces stop ys := by
  induction xs with
  | nil => simp [pieces, ha]
  | cons x rest ih =>
      rw [List.cons_append, pieces, pieces, ih]
      split
      · rfl
      · cases hp : pieces stop rest with
        | nil => exact absurd hp (pieces_ne_nil stop rest)
        | cons p ps => rfl

theorem pieces_eq_singleton {stop : α → Bool} {xs : List α} (h : ∀ a ∈ xs, stop a = false) :
    pieces stop xs = [xs] := by
  induction xs with
  | nil => rfl
  | cons x rest ih =>
      obtain ⟨hx, hrest⟩ := List.forall_mem_cons.mp h
      rw [pieces, hx, ih hrest]
      rfl

/-- There is one piece more than there are separators. -/
theorem length_pieces (stop : α → Bool) (xs : List α) :
    (pieces stop xs).length = xs.countP stop + 1 := by
  induction xs with
  | nil => rfl
  | cons x rest ih =>
      rw [pieces]
      split
      · rename_i hx
        rw [List.length_cons, ih, List.countP_cons_of_pos hx]
      · rename_i hx
        rw [List.countP_cons_of_neg hx, ← ih]
        cases hp : pieces stop rest with
        | nil => exact absurd hp (pieces_ne_nil stop rest)
        | cons p ps => rfl

theorem mem_of_mem_dropReturn {c : Char} (h : c ∈ dropReturn line) : c ∈ line := by
  rw [dropReturn] at h
  split at h
  · exact List.dropLast_subset _ h
  · exact h

/-- Only the last piece is not ended by a line feed. -/
theorem closeLines_append (ps : List (List Char)) {qs : List (List Char)} (hqs : qs ≠ []) :
    closeLines (ps ++ qs) = ps.map dropReturn ++ closeLines qs := by
  induction ps with
  | nil => rfl
  | cons p rest ih =>
      cases hnext : rest ++ qs with
      | nil => exact absurd (List.append_eq_nil_iff.mp hnext).2 hqs
      | cons q more =>
          rw [List.cons_append, hnext, closeLines, ← hnext, ih]
          rfl

theorem lines_append_cons (xs ys : List Char) :
    lines (xs ++ '\n' :: ys) = (pieces (· == '\n') xs).map dropReturn ++ lines ys := by
  rw [lines, pieces_append_cons (by rfl), closeLines_append _ (pieces_ne_nil _ _)]
  rfl

theorem lines_nil : lines [] = [] :=
  rfl

/-- **Lines of two texts.**  If the first text leaves no line open, the lines of both together are
those of the first and then those of the second. -/
theorem lines_append (h : EndsLine xs) (ys : List Char) :
    lines (xs ++ ys) = lines xs ++ lines ys := by
  rcases h.cases with rfl | ⟨front, rfl⟩
  · rfl
  · have hfront : lines (front ++ ['\n']) = (pieces (· == '\n') front).map dropReturn := by
      rw [lines_append_cons, lines_nil, List.append_nil]
    rw [List.append_assoc, List.singleton_append, lines_append_cons, hfront]

/-- A text that leaves no line open has as many lines as line feeds. -/
theorem length_lines (h : EndsLine xs) : (lines xs).length = xs.count '\n' := by
  rcases h.cases with rfl | ⟨front, rfl⟩
  · rfl
  · have hlines : (lines (front ++ ['\n'])).length = front.count '\n' + 1 := by
      rw [lines_append_cons, lines_nil, List.append_nil, List.length_map, length_pieces,
        List.count]
    rw [hlines, List.count_append, List.count_singleton_self]

theorem pieces_of_notMem (h : '\n' ∉ xs) : pieces (· == '\n') xs = [xs] := by
  refine pieces_eq_singleton fun c hc => ?_
  have hcn : c ≠ '\n' := fun heq => h (heq ▸ hc)
  simpa using hcn

theorem lines_of_notMem (h : '\n' ∉ xs) (hne : xs ≠ []) : lines xs = [xs] := by
  rw [lines, pieces_of_notMem h, closeLines, if_neg (by simpa using hne)]

/-- A line that is closed comes before the lines behind it. -/
theorem lines_cons_of_notMem (h : '\n' ∉ xs) (ys : List Char) :
    lines (xs ++ '\n' :: ys) = dropReturn xs :: lines ys := by
  rw [lines_append_cons, pieces_of_notMem h]
  rfl

/-! ### Closed lines -/

/-- **Line by line.**  What holds of a last line that is not closed, and with a text also of that
text behind a closed line, holds of every text. -/
@[elab_as_elim]
theorem induction_on_lines {motive : List Char → Prop} (last : ∀ body, '\n' ∉ body → motive body)
    (closed : ∀ body rest, '\n' ∉ body → motive rest → motive (body ++ '\n' :: rest))
    (text : List Char) : motive text := by
  by_cases hmem : '\n' ∈ text
  · obtain ⟨body, rest, htext, hbody⟩ := List.eq_append_cons_of_mem hmem
    have hshorter : rest.length < text.length := by
      rw [htext, List.length_append, List.length_cons]
      omega
    rw [htext]
    exact closed body rest hbody (induction_on_lines last closed rest)
  · exact last text hmem
termination_by text.length

/-- Lines one behind the other, each of them ended by a line feed. -/
def closed (ls : List (List Char)) : List Char :=
  ls.flatMap (· ++ ['\n'])

theorem closed_cons (line : List Char) (ls : List (List Char)) :
    closed (line :: ls) = line ++ '\n' :: closed ls := by
  simp [closed]

theorem pieces_closed {ls : List (List Char)} (h : ∀ l ∈ ls, '\n' ∉ l) :
    pieces (· == '\n') (closed ls) = ls ++ [[]] := by
  induction ls with
  | nil => rfl
  | cons line rest ih =>
      obtain ⟨hline, hrest⟩ := List.forall_mem_cons.mp h
      rw [closed_cons, pieces_append_cons (by rfl), pieces_of_notMem hline, ih hrest]
      rfl

/-- Closed lines are the first lines of a text that begins with them. -/
theorem lines_closed {ls : List (List Char)} (h : ∀ l ∈ ls, '\n' ∉ l) (text : List Char) :
    lines (closed ls ++ text) = ls.map dropReturn ++ lines text := by
  induction ls with
  | nil => rfl
  | cons line rest ih =>
      obtain ⟨hline, hrest⟩ := List.forall_mem_cons.mp h
      rw [closed_cons, List.append_assoc, List.cons_append, lines_cons_of_notMem hline, ih hrest]
      rfl

/-! ### Lines in their text -/

/-- The line that stands in a text behind some other text. -/
inductive LineAt (before : List Char) : List Char → List Char → Prop where
  /-- A line that is ended by a line feed; a carriage return before that does not count. -/
  | closed {body after : List Char} (hbefore : EndsLine before) (hbody : '\n' ∉ body) :
      LineAt before (dropReturn body) (before ++ body ++ '\n' :: after)
  | last {body : List Char} (hbefore : EndsLine before) (hbody : '\n' ∉ body) (hne : body ≠ []) :
      LineAt before body (before ++ body)

theorem LineAt.endsLine (h : LineAt before line text) : EndsLine before := by
  cases h with
  | closed hbefore => exact hbefore
  | last hbefore => exact hbefore

/-- A line is among the lines of its text, behind those of the text before it. -/
theorem LineAt.lines_eq (h : LineAt before line text) :
    ∃ after, lines text = lines before ++ line :: after := by
  cases h with
  | @closed body after hbefore hbody =>
      refine ⟨lines after, ?_⟩
      rw [List.append_assoc, lines_append hbefore, lines_cons_of_notMem hbody]
  | last hbefore hbody hne =>
      refine ⟨[], ?_⟩
      rw [lines_append hbefore, lines_of_notMem hbody hne]

/-- In front of a line another closed line may be put. -/
theorem LineAt.cons (h : LineAt before line text) (xs : List Char) :
    LineAt (xs ++ '\n' :: before) line (xs ++ '\n' :: text) := by
  have hends := endsLine_append_cons h.endsLine xs
  cases h with
  | @closed body after hbefore hbody =>
      have hclosed : LineAt (xs ++ '\n' :: before) (dropReturn body)
          (xs ++ '\n' :: before ++ body ++ '\n' :: after) := .closed hends hbody
      simpa using hclosed
  | @last body hbefore hbody hne =>
      have hlast := LineAt.last hends hbody hne
      simpa using hlast

/-- **Lines stand in their text.**  Whatever is among the lines of a text stands in it, behind a
text that has just the lines before. -/
theorem exists_lineAt_of_lines_eq {earlier later : List (List Char)}
    (h : lines text = earlier ++ line :: later) :
    ∃ before, LineAt before line text ∧ lines before = earlier := by
  induction earlier generalizing text with
  | nil =>
      by_cases hmem : '\n' ∈ text
      · obtain ⟨body, after, rfl, hbody⟩ := List.eq_append_cons_of_mem hmem
        rw [lines_cons_of_notMem hbody] at h
        obtain ⟨rfl, -⟩ := List.cons.inj h
        exact ⟨[], .closed (by simp [EndsLine]) hbody, rfl⟩
      · have hne : text ≠ [] := by
          rintro rfl
          cases h
        rw [lines_of_notMem hmem hne] at h
        obtain ⟨rfl, -⟩ := List.cons.inj h
        exact ⟨[], .last (by simp [EndsLine]) hmem hne, rfl⟩
  | cons first rest ih =>
      by_cases hmem : '\n' ∈ text
      · obtain ⟨body, after, rfl, hbody⟩ := List.eq_append_cons_of_mem hmem
        rw [lines_cons_of_notMem hbody] at h
        obtain ⟨rfl, hrest⟩ := List.cons.inj h
        obtain ⟨before, hat, hlines⟩ := ih hrest
        refine ⟨body ++ '\n' :: before, hat.cons body, ?_⟩
        rw [lines_cons_of_notMem hbody, hlines]
      · have hne : text ≠ [] := by
          rintro rfl
          cases h
        rw [lines_of_notMem hmem hne] at h
        have hlength := congrArg List.length h
        simp at hlength

end SpotForecast.Text
