import SpotForecast.Proofs.Text.Lines

/-!
# Fields

A line is made of fields with a separator between them.  Cutting at a character and joining are the
library's `List.splitOnP` and `List.intercalate` (`pieces_eq_splitOnP`,
`joinPieces_eq_intercalate`), so fields without the separator are found again in the line that they
were joined to (`pieces_joinPieces`).

In tables and in feeds the separator is the tab.  `IsFieldText` texts can stand between tabs in a
line; lines of such fields, each of them closed, are cut back into them (`isCut_closed`).
-/

namespace SpotForecast.Text

variable {α : Type} {stop : α → Bool} {a c : α} {text piece separator : List α}
  {ps : List (List α)}

theorem consFirst_eq_modifyHead (a : α) (hne : ps ≠ []) :
    consFirst a ps = ps.modifyHead (List.cons a) := by
  cases ps with
  | nil => exact absurd rfl hne
  | cons p rest => rfl

theorem pieces_eq_splitOnP (stop : α → Bool) (text : List α) :
    pieces stop text = text.splitOnP stop := by
  induction text with
  | nil => rfl
  | cons a rest ih =>
      rw [pieces, List.splitOnP_cons_eq_if_modifyHead, ← ih,
        consFirst_eq_modifyHead a (pieces_ne_nil stop rest)]

theorem joinPieces_eq_intercalate (separator : List α) (ps : List (List α)) :
    joinPieces separator ps = separator.intercalate ps := by
  induction ps with
  | nil => rfl
  | cons p rest ih =>
      cases rest with
      | nil => simp [joinPieces]
      | cons q more =>
          rw [joinPieces, List.intercalate_cons_of_ne_nil (List.cons_ne_nil q more), ih]

/-- **Fields.**  Pieces without a separator are the pieces of what they are joined to. -/
theorem pieces_joinPieces [BEq α] [LawfulBEq α] (hps : ∀ p ∈ ps, a ∉ p) (hne : ps ≠ []) :
    pieces (· == a) (joinPieces [a] ps) = ps := by
  rw [pieces_eq_splitOnP, joinPieces_eq_intercalate]
  exact List.splitOn_intercalate a hps hne

/-- What holds of the separator and of all pieces holds of the joined text. -/
theorem forall_mem_joinPieces {p : α → Prop} (hseparator : ∀ c ∈ separator, p c)
    (hps : ∀ piece ∈ ps, ∀ c ∈ piece, p c) : ∀ c ∈ joinPieces separator ps, p c := by
  induction ps with
  | nil => exact fun c hc => absurd hc List.not_mem_nil
  | cons piece rest ih =>
      obtain ⟨hpiece, hrest⟩ := List.forall_mem_cons.mp hps
      cases rest with
      | nil => exact hpiece
      | cons next more =>
          rw [joinPieces, List.forall_mem_append, List.forall_mem_append]
          exact ⟨⟨hpiece, hseparator⟩, ih hrest⟩

/-- A piece has no separators, and nothing that the text does not have. -/
theorem of_mem_pieces (hpiece : piece ∈ pieces stop text) (hc : c ∈ piece) :
    stop c = false ∧ c ∈ text := by
  induction text generalizing piece with
  | nil =>
      obtain rfl := List.mem_singleton.mp hpiece
      cases hc
  | cons a rest ih =>
      have hlater : piece ∈ pieces stop rest → stop c = false ∧ c ∈ a :: rest := fun h =>
        (ih h hc).imp_right (List.mem_cons_of_mem a)
      rw [pieces] at hpiece
      split at hpiece
      · rcases List.mem_cons.mp hpiece with rfl | hpiece
        · cases hc
        · exact hlater hpiece
      · rename_i ha
        obtain ⟨p, more, hp⟩ := List.exists_cons_of_ne_nil (pieces_ne_nil stop rest)
        rw [hp, consFirst] at hpiece
        rcases List.mem_cons.mp hpiece with rfl | hpiece
        · rcases List.mem_cons.mp hc with rfl | hc
          · exact ⟨eq_false_of_ne_true ha, List.mem_cons_self⟩
          · exact (ih (hp ▸ List.mem_cons_self) hc).imp_right (List.mem_cons_of_mem a)
        · exact hlater (hp ▸ List.mem_cons_of_mem p hpiece)

/-- A line of a text has no line feed. -/
theorem notMem_of_mem_lines {text line : List Char} (h : line ∈ lines text) : '\n' ∉ line := by
  have hpieces : ∀ piece ∈ pieces (· == '\n') text, '\n' ∉ piece := fun piece hpiece hc =>
    absurd (of_mem_pieces hpiece hc).1 (by simp)
  rw [lines] at h
  generalize pieces (· == '\n') text = ps at h hpieces
  induction ps with
  | nil => cases h
  | cons p rest ih =>
      obtain ⟨hp, hrest⟩ := List.forall_mem_cons.mp hpieces
      cases rest with
      | nil =>
          rw [closeLines, List.mem_ite_nil_left, List.mem_singleton] at h
          exact h.2 ▸ hp
      | cons q more =>
          rw [closeLines] at h
          rcases List.mem_cons.mp h with rfl | h
          · exact fun hc => hp (mem_of_mem_dropReturn hc)
          · exact ih h hrest

/-! ### Between tabs -/

/-- A text that can stand between tabs in a line. -/
def IsFieldText (text : List Char) : Prop :=
  ∀ c ∈ text, c ≠ '\t' ∧ c ≠ '\n'

instance (text : List Char) : Decidable (IsFieldText text) :=
  decidable_of_iff (text.all (fun c => c != '\t' && c != '\n') = true)
    (by simp [IsFieldText, List.all_eq_true])

theorem IsFieldText.append {xs ys : List Char} (hxs : IsFieldText xs) (hys : IsFieldText ys) :
    IsFieldText (xs ++ ys) :=
  List.forall_mem_append.mpr ⟨hxs, hys⟩

theorem notMem_of_isFieldText {fields : List (List Char)}
    (h : ∀ field ∈ fields, IsFieldText field) : '\n' ∉ joinPieces ['\t'] fields := by
  have hall : ∀ c ∈ joinPieces ['\t'] fields, c ≠ '\n' :=
    forall_mem_joinPieces (List.forall_mem_singleton.mpr (by decide))
      fun field hfield c hc => (h field hfield c hc).2
  exact fun hmem => hall _ hmem rfl

/-- Fields are found again in their line. -/
theorem pieces_of_isFieldText {fields : List (List Char)} (hne : fields ≠ [])
    (h : ∀ field ∈ fields, IsFieldText field) :
    pieces (· == '\t') (joinPieces ['\t'] fields) = fields :=
  pieces_joinPieces (fun field hfield hmem => (h field hfield _ hmem).1 rfl) hne

/-- Lines of fields are found again in their text. -/
theorem pieces_closed_joinPieces {cells : List (List (List Char))}
    (h : ∀ fields ∈ cells, ∀ field ∈ fields, IsFieldText field) :
    pieces (· == '\n') (closed (cells.map (joinPieces ['\t']))) =
      cells.map (joinPieces ['\t']) ++ [[]] := by
  apply pieces_closed
  intro line hline
  obtain ⟨fields, hfields, rfl⟩ := List.mem_map.mp hline
  exact notMem_of_isFieldText (h fields hfields)

/-- The text has closed lines only, and these are the fields between the tabs of each line. -/
def IsCut (text : List Char) (cells : List (List (List Char))) : Prop :=
  ∃ ls, pieces (· == '\n') text = ls ++ [[]] ∧ ls.map (pieces (· == '\t')) = cells

/-- **Tables of fields.**  Fields written line by line are found again. -/
theorem isCut_closed {cells : List (List (List Char))} (hne : ∀ fields ∈ cells, fields ≠ [])
    (h : ∀ fields ∈ cells, ∀ field ∈ fields, IsFieldText field) :
    IsCut (closed (cells.map (joinPieces ['\t']))) cells := by
  refine ⟨_, pieces_closed_joinPieces h, ?_⟩
  rw [List.map_map]
  refine (List.map_congr_left ?_).trans (List.map_id cells)
  exact fun fields hfields => pieces_of_isFieldText (hne fields hfields) (h fields hfields)

end SpotForecast.Text
