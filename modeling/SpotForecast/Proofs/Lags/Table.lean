import SpotForecast.Proofs.Grid.Table
import SpotForecast.Proofs.Lags.Views

/-!
# The table of a lag report

The names over the features are counted from the rows that are shown, so a report cut to no row at
all has no names either.  Any other cut keeps the line of names and the lines of the rows that it
shows (`keepsLines_iff`): every row has a feature for each lag (`of_ofGrid_ok`), and the line of a
row does not depend on the rows around it (`table_eq`).
-/

namespace SpotForecast

open Text

namespace LagReport

variable {g : Grid} {category : String} {numLags count : Nat} {r : LagReport}

/-! ### Lines -/

theorem isFieldText_nameChars (index : Nat) : IsFieldText (Lags.nameChars index) :=
  (by decide : IsFieldText Lags.namePrefix).append (isFieldText_padded _ _)

/-- The fields of the line of names over some features. -/
def headerFields (width : Nat) : List (List Char) :=
  "date".toList :: (List.range width).map Lags.nameChars

/-- The line of names over some features. -/
def headerLine (width : Nat) : List Char :=
  joinPieces ['\t'] (headerFields width)

/-- The line of a row of features. -/
def rowLine (f : Row) : List Char :=
  joinPieces ['\t'] ((Layout.printed Layout.bareTemplate).rowFields Pattern.secondParts f)

theorem fill_bareTemplate (name : List Char) :
    Layout.fill name Layout.bareTemplate.toList = name :=
  List.append_nil name

theorem headerFields_printed (width : Nat) :
    (Layout.printed Layout.bareTemplate).headerFields ((List.range width).map Lags.name) =
      headerFields width := by
  have hname : ∀ index, Layout.fill (Lags.name index).toList Layout.bareTemplate.toList =
      Lags.nameChars index := by
    intro index
    rw [fill_bareTemplate, Lags.name, String.toList_ofList]
  rw [Layout.headerFields, headerFields, List.map_map]
  exact congrArg _ (List.map_congr_left fun index _ => hname index)

theorem isFieldText_of_mem_cells {width : Nat} {rows : List Row} :
    ∀ fields ∈ Layout.cells Layout.bareTemplate ((List.range width).map Lags.name) rows,
      ∀ field ∈ fields, IsFieldText field := by
  apply Layout.isFieldText_cells
  intro name hname
  obtain ⟨index, -, rfl⟩ := List.mem_map.mp hname
  rw [fill_bareTemplate, Lags.name, String.toList_ofList]
  exact isFieldText_nameChars index

/-- The lines of a table of features are those of its names and of its rows. -/
theorem map_joinPieces_cells (width : Nat) (rows : List Row) :
    (Layout.cells Layout.bareTemplate ((List.range width).map Lags.name) rows).map
        (joinPieces ['\t']) = headerLine width :: rows.map rowLine := by
  rw [Layout.cells, headerFields_printed, List.map_cons, List.map_map]
  rfl

/-- Cutting the line of names at the tabs gives the names back. -/
theorem pieces_headerLine (width : Nat) :
    pieces (· == '\t') (headerLine width) = headerFields width := by
  have hcell : headerFields width ∈
      Layout.cells Layout.bareTemplate ((List.range width).map Lags.name) [] := by
    rw [Layout.cells, headerFields_printed]
    exact List.mem_cons_self
  exact pieces_of_isFieldText (Layout.ne_nil_of_mem_cells hcell)
    (isFieldText_of_mem_cells _ hcell)

/-- A line of names has as many of them as there are features. -/
theorem headerLine_injective {m n : Nat} (h : headerLine m = headerLine n) : m = n := by
  have hlength := congrArg (fun line => (pieces (· == '\t') line).length) h
  simpa [pieces_headerLine, headerFields] using hlength

/-- **Widths.**  A table of features has as many names as its first row has features, and no names
if it has no row. -/
theorem table_eq {rows : List Row} {width : Nat} (hwidth : ∀ f ∈ rows, f.values.length = width) :
    ∃ text, Lags.table Layout.standard rows = .ok text ∧ pieces (· == '\n') text.toList =
      headerLine (if rows = [] then 0 else width) :: rows.map rowLine ++ [[]] := by
  have htable : Lags.table Layout.standard rows = (Layout.printed Layout.bareTemplate).table
      ((List.range (if rows = [] then 0 else width)).map Lags.name) rows := by
    cases rows with
    | nil => rfl
    | cons first rest =>
        rw [if_neg (List.cons_ne_nil _ _), ← hwidth first List.mem_cons_self]
        rfl
  refine ⟨_, htable.trans (Layout.table_printed _ _ _), ?_⟩
  rw [String.toList_ofList, pieces_closed_joinPieces isFieldText_of_mem_cells, map_joinPieces_cells]

/-! ### Cutting to the last rows -/

/-- A report cut to its last rows has the line of names of the whole one, and behind it the lines of
these rows. -/
def KeepsLines (r : LagReport) (count : Nat) : Prop :=
  ∃ whole cut header lines, r.text none = .ok whole ∧ r.text (some count) = .ok cut ∧
    pieces (· == '\n') whole.toList = header :: lines ++ [[]] ∧ lines.length = r.rows.length ∧
    pieces (· == '\n') cut.toList = header :: lines.drop (lines.length - count) ++ [[]]

theorem shown_eq_nil_iff (hne : r.rows ≠ []) : r.shown (some count) = [] ↔ count = 0 := by
  have hlength := List.length_pos_of_ne_nil hne
  rw [shown, List.drop_eq_nil_iff]
  omega

/-- The names stay exactly if a row does. -/
theorem keepsLines_iff (hne : r.rows ≠ []) (hwidth : ∀ f ∈ r.rows, f.values.length = numLags)
    (hlags : 0 < numLags) : KeepsLines r count ↔ 0 < count := by
  obtain ⟨whole, hwhole, hlines⟩ := table_eq hwidth
  have hwidth' : ∀ f ∈ r.shown (some count), f.values.length = numLags := fun f hf =>
    hwidth f (List.mem_of_mem_drop hf)
  obtain ⟨cut, hcut, hkept⟩ := table_eq hwidth'
  rw [if_neg hne] at hlines
  simp only [shown_eq_nil_iff hne] at hkept
  constructor
  · rintro ⟨whole', cut', header, lines, hwhole', hcut', hlines', -, hkept'⟩
    cases hwhole.symm.trans hwhole'
    cases hcut.symm.trans hcut'
    obtain ⟨hheader, -⟩ := List.cons.inj (hlines.symm.trans hlines')
    obtain ⟨hheader', -⟩ := List.cons.inj (hkept.symm.trans hkept')
    have hnames := headerLine_injective (hheader'.trans hheader.symm)
    split at hnames
    · omega
    · omega
  · intro hcount
    rw [if_neg (by omega)] at hkept
    refine ⟨whole, cut, _, _, hwhole, hcut, hlines, List.length_map _, ?_⟩
    rw [hkept, List.length_map, ← List.map_drop]
    rfl

/-- A report has a row, and in every row a feature for each lag. -/
theorem of_ofGrid_ok (h : ofGrid numLags g category = .ok r) :
    0 < numLags ∧ r.rows ≠ [] ∧ ∀ f ∈ r.rows, f.values.length = numLags := by
  have hbuild : Lags.build numLags g category = .ok r.rows := by
    rw [ofGrid] at h
    cases hrows : Lags.build numLags g category with
    | error e =>
        rw [hrows] at h
        cases h
    | ok rows =>
        rw [hrows] at h
        cases hmean : g.rollingMean numLags category with
        | error e =>
            rw [hmean] at h
            cases h
        | ok mean =>
            rw [hmean] at h
            cases h
            rfl
  obtain ⟨hlags, hrows, i, values, -, -, hlength, heq⟩ := Lags.of_build_ok hbuild
  rw [heq]
  refine ⟨hlags, List.ne_nil_of_length_pos ?_, ?_⟩
  · rw [Lags.length_featureRows hlength]
    exact Nat.sub_pos_of_lt hrows
  · exact fun f hf => Lags.length_values_of_mem_featureRows hlength hf

/-- **The last rows of a lag report.**  Cut to any number of rows but none, a report keeps its line
of names and the lines of the rows that it shows.  Cut to none, it loses the names. -/
theorem text_tail (h : ofGrid numLags g category = .ok r) :
    (∀ count, KeepsLines r count ↔ 0 < count) ∧ r.text (some 0) = .ok "date\n" ∧
      ∃ whole lines, r.text none = .ok whole ∧
        pieces (· == '\n') whole.toList = headerLine numLags :: lines ++ [[]] := by
  obtain ⟨hlags, hne, hwidth⟩ := of_ofGrid_ok h
  refine ⟨fun count => keepsLines_iff hne hwidth hlags, ?_, ?_⟩
  · have hshown : r.shown (some 0) = [] := (shown_eq_nil_iff hne).mpr rfl
    rw [text, hshown]
    rfl
  · obtain ⟨whole, hwhole, hlines⟩ := table_eq hwidth
    rw [if_neg hne] at hlines
    exact ⟨whole, _, hwhole, hlines⟩

/-- A feed in which the price doubles from the first row to the second. -/
def doublingFeed : String :=
  "0\t1.0\t1970-01-01T00:00:00Z\ta\tLinux\tz1\n0\t2.0\t1970-01-01T04:00:00Z\ta\tLinux\tz1\n" ++
    "0\t2.0\t1970-01-01T08:00:00Z\ta\tLinux\tz1\n"

def doublingPrices : List Observation :=
  [⟨⟨0, 0⟩, 1.0, ⟨"a", "Linux", "z1"⟩⟩, ⟨⟨14400, 0⟩, 2.0, ⟨"a", "Linux", "z1"⟩⟩,
    ⟨⟨28800, 0⟩, 2.0, ⟨"a", "Linux", "z1"⟩⟩]

def doublingGrid : Grid :=
  ⟨["a__Linux__z1"], 4, [⟨⟨0, 0⟩, [1.0]⟩, ⟨⟨14400, 0⟩, [2.0]⟩]⟩

def doublingReport : LagReport :=
  ⟨[⟨⟨14400, 0⟩, [2.0]⟩], 2.0⟩

theorem ofGrid_doublingGrid : ofGrid 1 doublingGrid "a__Linux__z1" = .ok doublingReport := by
  decide +kernel

/-- The doubling report keeps its line of names with its only row. -/
theorem text_tail_doublingReport :
    ofGrid 1 doublingGrid "a__Linux__z1" = .ok doublingReport ∧ KeepsLines doublingReport 1 ∧
      doublingReport.text (some 0) = .ok "date\n" := by
  obtain ⟨hkeeps, hnone, -⟩ := text_tail ofGrid_doublingGrid
  exact ⟨ofGrid_doublingGrid, (hkeeps 1).mpr (by decide), hnone⟩

/-- Without that row it does not. -/
theorem not_keepsLines_doublingReport :
    Feed.parse doublingFeed = .ok doublingPrices ∧
      Grid.ofObservations 4 doublingPrices = .ok doublingGrid ∧
      ofGrid 1 doublingGrid "a__Linux__z1" = .ok doublingReport ∧ ¬KeepsLines doublingReport 0 := by
  have hfeed : Feed.parse doublingFeed = .ok doublingPrices := by
    refine (Feed.parse_eq_ofLines String.ofList_append.symm).trans ?_
    decide +kernel
  have hgrid : Grid.ofObservations 4 doublingPrices = .ok doublingGrid := by
    have hsorted : doublingPrices.Pairwise (fun a b => a.time ≤ b.time) := by decide
    rw [Grid.ofObservations_of_pairwise (by decide) (by decide) (by decide) hsorted]
    decide +kernel
  obtain ⟨hlags, hne, hwidth⟩ := of_ofGrid_ok ofGrid_doublingGrid
  exact ⟨hfeed, hgrid, ofGrid_doublingGrid, fun hkeeps =>
    absurd ((keepsLines_iff hne hwidth hlags).mp hkeeps) (Nat.lt_irrefl 0)⟩

end LagReport

end SpotForecast
