import SpotForecast.Lags.Basic
import SpotForecast.Proofs.Grid.Reading

/-!
# Windows and ratios

The features of a row are the ratios inside a window of consecutive values of a column.

* `windows_eq` lists the windows by the places at which they start, and `mapM_ratio?_windows` finds
  both values in each window of two.
* `getElem?_ratios` says which two values each ratio is made of, `AreRatiosFrom` what the ratios
  from a place on are, and `AreLatestRatios` what those at the end of a column are.
* `featureRow?_eq`: where there are enough rows, no row, window or value is missing.  The same holds
  if every value is looked up by itself (`featuresAt?_eq`), and what is read is `featureRows`.
* `build_eq` gives the features of all rows that have enough rows before them, `latest_eq` those
  of the last row.
-/

namespace SpotForecast.Lags

/-- The windows at the first places, each by the place at which it starts. -/
theorem windowsAt_eq {α : Type} (size : Nat) {count : Nat} {l : List α}
    (h : count ≤ l.length) :
    windowsAt size count l = (List.range count).map (fun k => (l.drop k).take size) := by
  induction count generalizing l with
  | zero => cases l <;> rfl
  | succ count ih =>
      cases l with
      | nil => simp at h
      | cons a rest =>
          rw [windowsAt, ih (by simpa using h), List.range_succ_eq_map, List.map_cons,
            List.map_map]
          rfl

/-- The windows, each by the place at which it starts. -/
theorem windows_eq {α : Type} {size : Nat} (hsize : 0 < size) (l : List α) :
    windows size l =
      (List.range (l.length + 1 - size)).map (fun k => (l.drop k).take size) :=
  windowsAt_eq size (by omega)

/-- The quotients of consecutive values, the later by the earlier one. -/
def ratios : List Float → List Float
  | earlier :: later :: rest => later / earlier :: ratios (later :: rest)
  | _ => []

/-- A window of two values has both of them, so the ratios are read without a miss. -/
theorem mapM_ratio?_windows (l : List Float) : (windows 2 l).mapM ratio? = some (ratios l) := by
  induction l using ratios.induct with
  | case1 earlier later rest ih =>
      have hfirst : windows 2 (earlier :: later :: rest) =
          [earlier, later] :: windows 2 (later :: rest) := rfl
      have hratio : ratio? [earlier, later] = some (later / earlier) := rfl
      rw [hfirst, List.mapM_cons, hratio, ih]
      rfl
  | case2 l h =>
      cases l with
      | nil => rfl
      | cons a rest =>
          cases rest with
          | nil => rfl
          | cons b rest => exact absurd rfl (h a b rest)

/-- There is one ratio less than there are values. -/
theorem length_ratios (l : List Float) : (ratios l).length = l.length - 1 := by
  induction l using ratios.induct with
  | case1 earlier later rest ih => simp [ratios, ih]
  | case2 l h =>
      cases l with
      | nil => rfl
      | cons a rest =>
          cases rest with
          | nil => rfl
          | cons b rest => exact absurd rfl (h a b rest)

/-- A ratio is that of the value behind its place by the value at its place. -/
theorem getElem?_ratios {l : List Float} {j : Nat} {earlier later : Float}
    (hearlier : l[j]? = some earlier) (hlater : l[j + 1]? = some later) :
    (ratios l)[j]? = some (later / earlier) := by
  induction j generalizing l with
  | zero =>
      match l, hearlier, hlater with
      | a :: b :: rest, ha, hb =>
          simp only [List.getElem?_cons_zero, List.getElem?_cons_succ, Option.some.injEq] at ha hb
          simp [ratios, ha, hb]
  | succ j ih =>
      match l, hearlier, hlater with
      | a :: b :: rest, ha, hb =>
          rw [ratios, List.getElem?_cons_succ]
          exact ih (by simpa using ha) (by simpa using hb)

/-- Features are the latest ratios of a column: each of its last `count` values by the value before
it, in the order of the rows. -/
def AreLatestRatios (count : Nat) (values features : List Float) : Prop :=
  features.length = count ∧ ∀ j < count, ∃ earlier later,
    values[values.length - 1 - count + j]? = some earlier ∧
      values[values.length - count + j]? = some later ∧ features[j]? = some (later / earlier)

/-- Features are the ratios of a column from a place on: each of the `count` values behind it by the
value before it, in the order of the rows. -/
def AreRatiosFrom (place count : Nat) (values features : List Float) : Prop :=
  features.length = count ∧ ∀ j < count, ∃ earlier later,
    values[place + j]? = some earlier ∧ values[place + j + 1]? = some later ∧
      features[j]? = some (later / earlier)

/-- The ratios inside a window are those from its first place on. -/
theorem areRatiosFrom_ratios {place count : Nat} {values : List Float}
    (h : place + count < values.length) :
    AreRatiosFrom place count values (ratios ((values.drop place).take (minRows count))) := by
  constructor
  · rw [length_ratios, List.length_take, List.length_drop, minRows]
    omega
  · intro j hj
    have hearlier : place + j < values.length := by omega
    have hlater : place + j + 1 < values.length := by omega
    refine ⟨_, _, List.getElem?_eq_getElem hearlier, List.getElem?_eq_getElem hlater, ?_⟩
    apply getElem?_ratios
    · rw [List.getElem?_take_of_lt (by rw [minRows]; omega), List.getElem?_drop,
        List.getElem?_eq_getElem hearlier]
    · rw [List.getElem?_take_of_lt (by rw [minRows]; omega), List.getElem?_drop, ← Nat.add_assoc,
        List.getElem?_eq_getElem hlater]

/-- The last window has all values from its first place on. -/
theorem take_minRows_drop (count : Nat) (values : List Float) :
    (values.drop (values.length - minRows count)).take (minRows count) =
      values.drop (values.length - minRows count) := by
  apply List.take_of_length_le
  rw [List.length_drop]
  omega

/-- The ratios inside the last window are the latest ones. -/
theorem areLatestRatios_ratios {count : Nat} {values : List Float} (h : count < values.length) :
    AreLatestRatios count values (ratios (values.drop (values.length - minRows count))) := by
  have hplace : values.length - minRows count = values.length - 1 - count := by
    rw [minRows]
    omega
  have hinside : values.length - minRows count + count < values.length := by
    rw [minRows]
    omega
  have hratios := areRatiosFrom_ratios hinside
  rw [take_minRows_drop, hplace] at hratios
  rw [hplace]
  refine ⟨hratios.1, ?_⟩
  intro j hj
  obtain ⟨earlier, later, hearlier, hlater, hfeature⟩ := hratios.2 j hj
  have hnext : values.length - 1 - count + j + 1 = values.length - count + j := by omega
  rw [hnext] at hlater
  exact ⟨earlier, later, hearlier, hlater, hfeature⟩

/-! ### Rows of features -/

/-- The features of all rows that have enough rows before them. -/
def featureRows (count : Nat) (rows : List Row) (values : List Float) : List Row :=
  List.zipWith (fun r window => ⟨r.time, ratios window⟩) (rows.drop count)
    (windows (minRows count) values)

/-- The features at a place, every value looked up by itself; nothing if one is missing. -/
def featuresAt? (count : Nat) (rows : List Row) (values : List Float) (place : Nat) :
    Option Row := do
  let r ← rows[place]?
  let features ← (List.range count).mapM (fun j => do
    let earlier ← values[place - count + j]?
    let later ← values[place - count + j + 1]?
    pure (later / earlier))
  pure ⟨r.time, features⟩

theorem length_featureRows {count : Nat} {rows : List Row} {values : List Float}
    (hlength : values.length = rows.length) :
    (featureRows count rows values).length = rows.length - count := by
  have hsize : 0 < minRows count := Nat.succ_pos count
  have hwindows : (windows (minRows count) values).length = rows.length - count := by
    rw [windows_eq hsize, List.length_map, List.length_range, hlength, minRows]
    omega
  rw [featureRows, List.length_zipWith, List.length_drop, hwindows, Nat.min_self]

/-- The first features belong to the first row that has enough rows before it. -/
theorem getElem?_featureRows {count place : Nat} {rows : List Row} {values : List Float} {r : Row}
    (hlength : values.length = rows.length) (hr : rows[place + count]? = some r) :
    (featureRows count rows values)[place]? =
      some ⟨r.time, ratios ((values.drop place).take (minRows count))⟩ := by
  have hsize : 0 < minRows count := Nat.succ_pos count
  have hplace : place + count < rows.length := (List.getElem?_eq_some_iff.mp hr).1
  have hwindow : place < values.length + 1 - minRows count := by
    rw [minRows]
    omega
  have hrow : (rows.drop count)[place]? = some r := by
    rw [List.getElem?_drop, Nat.add_comm count place, hr]
  have hvalues : (windows (minRows count) values)[place]? =
      some ((values.drop place).take (minRows count)) := by
    rw [windows_eq hsize, List.getElem?_map, List.getElem?_range hwindow, Option.map_some]
  rw [featureRows, List.getElem?_zipWith, hrow, hvalues]

/-- Every row of features has one for each lag. -/
theorem length_values_of_mem_featureRows {count : Nat} {rows : List Row} {values : List Float}
    {f : Row} (hlength : values.length = rows.length) (hf : f ∈ featureRows count rows values) :
    f.values.length = count := by
  obtain ⟨place, hplace, rfl⟩ := List.getElem_of_mem hf
  have hinside : place + count < rows.length := by
    rw [length_featureRows hlength] at hplace
    omega
  have hfeatures := getElem?_featureRows hlength (List.getElem?_eq_getElem hinside)
  rw [List.getElem?_eq_getElem hplace, Option.some.injEq] at hfeatures
  rw [hfeatures]
  exact (areRatiosFrom_ratios (hlength.symm ▸ hinside)).1

/-- Where there are enough rows, every value that a row of features needs is there. -/
theorem featuresAt?_eq {count place : Nat} {rows : List Row} {values : List Float} {r : Row}
    (hlength : values.length = rows.length) (hr : rows[place + count]? = some r) :
    featuresAt? count rows values (place + count) =
      some ⟨r.time, ratios ((values.drop place).take (minRows count))⟩ := by
  have hplace : place + count < values.length := by
    rw [hlength]
    exact (List.getElem?_eq_some_iff.mp hr).1
  have hratios := areRatiosFrom_ratios hplace
  have hread : (List.range count).mapM (fun j => do
      let earlier ← values[place + count - count + j]?
      let later ← values[place + count - count + j + 1]?
      pure (later / earlier)) = some (ratios ((values.drop place).take (minRows count))) := by
    rw [Nat.add_sub_cancel, Grid.mapM_eq_some_iff, List.forall₂_iff_get]
    refine ⟨by rw [List.length_range, hratios.1], ?_⟩
    intro j hj hj'
    rw [List.length_range] at hj
    obtain ⟨earlier, later, hearlier, hlater, hfeature⟩ := hratios.2 j hj
    rw [List.getElem?_eq_getElem hj', Option.some.injEq] at hfeature
    rw [List.get_eq_getElem, List.get_eq_getElem, List.getElem_range]
    rw [hearlier, hlater, hfeature]
    rfl
  rw [featuresAt?, hr, hread]
  rfl

/-- Whatever reads the features at each place reads the rows of features. -/
theorem mapM_eq_featureRows {count : Nat} {rows : List Row} {values : List Float}
    {read : Nat → Option Row} (hlength : values.length = rows.length)
    (hread : ∀ place r, rows[place + count]? = some r →
      read place = some ⟨r.time, ratios ((values.drop place).take (minRows count))⟩) :
    (List.range (rows.length - count)).mapM read = some (featureRows count rows values) := by
  rw [Grid.mapM_eq_some_iff, List.forall₂_iff_get]
  refine ⟨by rw [List.length_range, length_featureRows hlength], ?_⟩
  intro place hplace hplace'
  rw [List.length_range] at hplace
  have hr := List.getElem?_eq_getElem (l := rows) (i := place + count) (by omega)
  have hfeatures := getElem?_featureRows hlength hr
  rw [List.getElem?_eq_getElem hplace', Option.some.injEq] at hfeatures
  rw [List.get_eq_getElem, List.getElem_range, hread place _ hr, List.get_eq_getElem, hfeatures]

/-- **No place is missed.**  The rows of features can be read place by place, every value by
itself. -/
theorem mapM_featuresAt? {count : Nat} {rows : List Row} {values : List Float}
    (hlength : values.length = rows.length) :
    (List.range (rows.length - count)).mapM
        (fun place => featuresAt? count rows values (place + count)) =
      some (featureRows count rows values) :=
  mapM_eq_featureRows hlength fun _ _ hr => featuresAt?_eq hlength hr

/-- Where there are enough rows, the row, its window and the pairs in the window are there. -/
theorem featureRow?_eq {count place : Nat} {rows : List Row} {values : List Float} {r : Row}
    (hlength : values.length = rows.length) (hr : rows[place + count]? = some r) :
    featureRow? count rows.toArray values.toArray (place + count) =
      some ⟨r.time, ratios ((values.drop place).take (minRows count))⟩ := by
  have hplace : place + count < values.length := by
    rw [hlength]
    exact (List.getElem?_eq_some_iff.mp hr).1
  have hrow : rows.toArray[place + count]? = some r := by
    rw [List.getElem?_toArray, hr]
  have hsize : place + count + 1 - place = minRows count := by
    rw [minRows]
    omega
  have hwindow : window? count values.toArray (place + count) =
      some ((values.drop place).take (minRows count)) := by
    rw [window?, List.size_toArray, if_pos ⟨Nat.le_add_left _ _, hplace⟩, Nat.add_sub_cancel]
    rw [Array.toList_extract, List.extract_eq_take_drop, hsize]
  rw [featureRow?, hrow, hwindow]
  simp only [Option.bind_eq_bind, Option.bind_some, mapM_ratio?_windows]
  rfl

/-- **No row is missed.**  The features of all rows with enough rows before them are there. -/
theorem mapM_featureRow? {count : Nat} {rows : List Row} {values : List Float}
    (hlength : values.length = rows.length) :
    (List.range' count (rows.length - count)).mapM
        (featureRow? count rows.toArray values.toArray) =
      some (featureRows count rows values) := by
  rw [List.range'_eq_map_range, List.mapM_map]
  refine mapM_eq_featureRows hlength fun place r hr => ?_
  rw [Function.comp_apply, Nat.add_comm]
  exact featureRow?_eq hlength hr

/-- The last features belong to the last row. -/
theorem getLast?_featureRows {count : Nat} {rows : List Row} {values : List Float} {last : Row}
    (hlength : values.length = rows.length) (hrows : count < rows.length)
    (hlast : rows.getLast? = some last) :
    (featureRows count rows values).getLast? =
      some ⟨last.time, ratios (values.drop (values.length - minRows count))⟩ := by
  have hplace : rows.length - count - 1 + count = rows.length - 1 := by omega
  have hstart : rows.length - count - 1 = values.length - minRows count := by
    rw [hlength, minRows]
    omega
  rw [List.getLast?_eq_getElem?, ← hplace] at hlast
  have hfeatures := getElem?_featureRows hlength hlast
  rw [hstart, take_minRows_drop] at hfeatures
  rw [List.getLast?_eq_getElem?, length_featureRows hlength, hstart, hfeatures]

variable {g : Grid} {category : String} {count i : Nat} {values : List Float}

/-- **Features.**  They exist if there are enough rows and the column does. -/
theorem build_eq (hcount : 0 < count) (hrows : count < g.rowCount)
    (hi : g.requireColumn category = .ok i) (hvalues : g.columnValues i = some values) :
    build count g category = .ok (featureRows count g.rows values) := by
  have hmin : ¬g.rowCount < minRows count := by
    rw [minRows]
    omega
  have hlength : values.length = g.rows.length := (Grid.mapM_eq_some_iff.mp hvalues).length_eq.symm
  have hread : (List.range' count (g.rowCount - count)).mapM
      (featureRow? count g.rows.toArray values.toArray) = some (featureRows count g.rows values) :=
    mapM_featureRow? hlength
  rw [build, if_neg (by omega), if_neg hmin, hi]
  simp only [orFault, orAbort, hvalues, hread, bind, Except.bind]

/-- Too few rows are noticed first. -/
theorem build_of_fewRows (hcount : 0 < count) (hrows : g.rowCount ≤ count) :
    build count g category = .error (.fault (.insufficientData (count + 1) g.rowCount)) := by
  have hmin : g.rowCount < minRows count := by
    rw [minRows]
    omega
  rw [build, if_neg (by omega), if_pos hmin]
  rfl

/-- An unknown column is noticed next. -/
theorem build_of_unknown (hcount : 0 < count) (hrows : count < g.rowCount)
    (hcategory : category ∉ g.columns) :
    build count g category = .error (.fault (.unknownCategory category)) := by
  have hmin : ¬g.rowCount < minRows count := by
    rw [minRows]
    omega
  rw [build, if_neg (by omega), if_neg hmin, Grid.requireColumn_of_notMem hcategory]
  rfl

/-- Features that there are belong to a column, and have all rows that they can have. -/
theorem of_build_ok {features : List Row} (h : build count g category = .ok features) :
    0 < count ∧ count < g.rowCount ∧ ∃ i values, g.requireColumn category = .ok i ∧
      g.columnValues i = some values ∧ values.length = g.rowCount ∧
      features = featureRows count g.rows values := by
  by_cases hcount : count = 0
  · rw [build, if_pos hcount] at h
    cases h
  · have hpositive := Nat.pos_of_ne_zero hcount
    rcases Nat.lt_or_ge count g.rowCount with hrows | hrows
    · have hmin : ¬g.rowCount < minRows count := by
        rw [minRows]
        omega
      cases hi : g.requireColumn category with
      | error e =>
          rw [build, if_neg hcount, if_neg hmin, hi] at h
          cases h
      | ok i =>
          cases hvalues : g.columnValues i with
          | none =>
              rw [build, if_neg hcount, if_neg hmin, hi] at h
              simp only [orFault, orAbort, hvalues, bind, Except.bind] at h
              cases h
          | some values =>
              rw [build_eq hpositive hrows hi hvalues] at h
              cases h
              have hlength := (Grid.mapM_eq_some_iff.mp hvalues).length_eq.symm
              exact ⟨hpositive, hrows, i, values, rfl, hvalues, hlength, rfl⟩
    · rw [build_of_fewRows hpositive hrows] at h
      cases h

/-- Without features there are no latest ones. -/
theorem latest_of_build_error {e : Stop ForecastFault} (h : build count g category = .error e) :
    latest count g category = .error e := by
  rw [latest, h]
  rfl

/-- Where there are features, the latest ones are the last of them. -/
theorem latest_of_build_ok {rows : List Row} {last : Row} (h : build count g category = .ok rows)
    (hlast : rows.getLast? = some last) : latest count g category = .ok last := by
  rw [latest, h]
  simp only [bind, Except.bind, hlast, pure, Except.pure]

/-- **The latest features** are the ratios inside the last window. -/
theorem latest_eq_ok {last : Row} (hcount : 0 < count) (hrows : count < g.rowCount)
    (hi : g.requireColumn category = .ok i) (hvalues : g.columnValues i = some values)
    (hlength : values.length = g.rowCount) (hlast : g.rows.getLast? = some last) :
    latest count g category =
      .ok ⟨last.time, ratios (values.drop (values.length - minRows count))⟩ :=
  latest_of_build_ok (build_eq hcount hrows hi hvalues) (getLast?_featureRows hlength hrows hlast)

/-- The latest features are the ratios among the last values of the column. -/
theorem latest_eq (hcount : 0 < count) (hrows : count < g.rowCount)
    (hi : g.requireColumn category = .ok i) (hvalues : g.columnValues i = some values)
    (hlength : values.length = g.rowCount) :
    ∃ r, latest count g category = .ok r ∧ AreLatestRatios count values r.values := by
  have hne : g.rows ≠ [] := List.ne_nil_of_length_pos (Nat.lt_of_le_of_lt (Nat.zero_le _) hrows)
  obtain ⟨last, hlast⟩ := Option.isSome_iff_exists.mp (List.getLast?_isSome.mpr hne)
  exact ⟨_, latest_eq_ok hcount hrows hi hvalues hlength hlast,
    areLatestRatios_ratios (hlength.symm ▸ hrows)⟩

end SpotForecast.Lags
