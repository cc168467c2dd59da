import SpotForecast.Grid.Mean
import SpotForecast.Proofs.Grid.Sweep

/-!
# Reading a column

Every row of the grid of observations has one value per column (`rectangular_ofObservations`), so
the column of a category can be read from the first row to the last (`exists_column`).  The mean of
its latest values then exists whenever there are as many rows as the window asks for
(`rollingMean_eq`).
-/

namespace SpotForecast.Grid

/-- Every row has one value per column. -/
def Rectangular (g : Grid) : Prop :=
  ∀ r ∈ g.rows, r.values.length = g.columns.length

/-- Values are those of the column with a name, one for each row. -/
def IsColumn (g : Grid) (name : String) (values : List Float) : Prop :=
  ∃ i : Nat, g.columns[i]? = some name ∧
    List.Forall₂ (fun r x => r.values[i]? = some x) g.rows values

variable {g : Grid} {name : String}

/-- The grid of observations has one value per row and column. -/
theorem rectangular_ofObservations {stepHours : Nat} {observations : List Observation}
    (h : ofObservations stepHours observations = .ok g) : g.Rectangular := by
  obtain ⟨-, -, -, rfl⟩ := ofObservations_eq_ok_iff.mp h
  intro r hr
  obtain ⟨second, -, hrow⟩ := List.mem_filterMap.mp hr
  obtain ⟨values, hvalues, rfl⟩ := Option.map_eq_some_iff.mp hrow
  exact (mapM_eq_some_iff.mp hvalues).length_eq.symm

/-- The grid of observations has the columns of the observations. -/
theorem columns_eq_of_ofObservations {stepHours : Nat} {observations : List Observation}
    (h : ofObservations stepHours observations = .ok g) : g.columns = columnsOf observations := by
  obtain ⟨-, -, -, rfl⟩ := ofObservations_eq_ok_iff.mp h
  rfl

/-- The columns of the grid of observations are the names of the observations. -/
theorem mem_columns_ofObservations {stepHours : Nat} {observations : List Observation}
    (h : ofObservations stepHours observations = .ok g) :
    name ∈ g.columns ↔ ∃ o ∈ observations, o.name = name := by
  rw [columns_eq_of_ofObservations h]
  exact mem_columnsOf

/-- A column has as many values as there are rows. -/
theorem IsColumn.length_eq {values : List Float} (h : g.IsColumn name values) :
    values.length = g.rowCount := by
  obtain ⟨i, -, hvalues⟩ := h
  exact hvalues.length_eq.symm

/-- There is no place for a name that no column has. -/
theorem requireColumn_of_notMem (h : name ∉ g.columns) :
    g.requireColumn name = .error (.unknownCategory name) := by
  rw [requireColumn, columnIndex?, List.idxOf?_eq_none_iff.mpr h]

/-- The place of a name is that of a column with this name. -/
theorem getElem?_of_columnIndex? {i : Nat} (h : g.columnIndex? name = some i) :
    g.columns[i]? = some name := by
  obtain ⟨hlt, hname, -⟩ := List.idxOf?_eq_some_iff.mp h
  exact List.getElem?_eq_some_iff.mpr ⟨hlt, hname⟩

/-- A name that some column has is found at the place of such a column. -/
theorem exists_requireColumn (h : name ∈ g.columns) :
    ∃ i, g.requireColumn name = .ok i ∧ g.columns[i]? = some name := by
  rw [requireColumn]
  cases hi : g.columnIndex? name with
  | none => exact absurd h (List.idxOf?_eq_none_iff.mp hi)
  | some i => exact ⟨i, rfl, getElem?_of_columnIndex? hi⟩

/-- **Columns can be read.**  At the place of a column every row has a value. -/
theorem exists_columnValues {i : Nat} (hg : g.Rectangular) (hname : g.columns[i]? = some name) :
    ∃ values, g.columnValues i = some values ∧ g.IsColumn name values := by
  have hread : ∀ r ∈ g.rows, ∃ x, r.values[i]? = some x := by
    intro r hr
    have hlt : i < r.values.length := by
      rw [hg r hr]
      exact (List.getElem?_eq_some_iff.mp hname).1
    exact ⟨r.values[i], List.getElem?_eq_getElem hlt⟩
  obtain ⟨values, hvalues⟩ := exists_mapM_iff.mpr hread
  exact ⟨values, hvalues, i, hname, mapM_eq_some_iff.mp hvalues⟩

/-- A name that some column has is found, and the rows have the values of its column. -/
theorem exists_column (hg : g.Rectangular) (h : name ∈ g.columns) :
    ∃ i values, g.requireColumn name = .ok i ∧ g.columnValues i = some values ∧
      g.IsColumn name values := by
  obtain ⟨i, hi, hname⟩ := exists_requireColumn h
  obtain ⟨values, hvalues, hcolumn⟩ := exists_columnValues hg hname
  exact ⟨i, values, hi, hvalues, hcolumn⟩

/-- For a mean, an unknown column is noticed first. -/
theorem rollingMean_of_unknown {window : Nat} (hwindow : 0 < window) (h : name ∉ g.columns) :
    g.rollingMean window name = .error (.fault (.unknownCategory name)) := by
  rw [rollingMean, if_neg (by omega), requireColumn_of_notMem h]
  rfl

/-- For a mean, too few rows are noticed next. -/
theorem rollingMean_of_fewRows {window : Nat} (hrows : g.rowCount < window) (h : name ∈ g.columns) :
    g.rollingMean window name = .error (.fault (.insufficientData window g.rowCount)) := by
  obtain ⟨i, hi, -⟩ := exists_requireColumn h
  rw [rollingMean, if_neg (by omega), hi]
  simp only [orFault, bind, Except.bind, if_pos hrows]
  rfl

/-- **The mean of the latest values.**  It exists if the column does and there are enough rows. -/
theorem rollingMean_eq {window i : Nat} {values : List Float} (hwindow : 0 < window)
    (hrows : window ≤ g.rowCount) (hi : g.requireColumn name = .ok i)
    (hvalues : g.columnValues i = some values) :
    g.rollingMean window name =
      .ok (sum (values.drop (g.rowCount - window)) / Float.ofNat window) := by
  rw [rollingMean, if_neg (by omega), hi]
  simp only [orFault, orAbort, hvalues, if_neg (Nat.not_lt.mpr hrows), bind,
    Except.bind, pure, Except.pure]

end SpotForecast.Grid
