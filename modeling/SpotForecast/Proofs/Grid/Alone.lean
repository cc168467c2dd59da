import SpotForecast.Proofs.Grid.Reading
import SpotForecast.Proofs.Grid.RowCount

/-!
# A column by itself

The observations of one column have a grid of their own.  It may begin on a later day than the grid
of all observations, it is not held back by columns that start later, and it may end earlier.  This
file compares the two.

* A column has the same value at the same time, whatever else is on the grid
  (`isValueAt_named`).
* If the step divides a day, grid points that start at different midnights are in phase
  (`exists_steps_between`).  Then the two grids have the same rows as long as both have any
  (`isRowTime_named_iff`).

`exists_alone_named` puts both together.
-/

namespace SpotForecast

/-- A row with the value of one column only. -/
def Row.only (i : Nat) (r : Row) : Row :=
  ⟨r.time, r.values[i]?.toList⟩

namespace Grid

variable {observations found : List Observation} {name : String} {t first last a b : Instant}
  {x : Float} {o : Observation} {stepHours i : Nat}

/-- The observations of a column. -/
def named (name : String) (observations : List Observation) : List Observation :=
  observations.filter (fun o => decide (o.name = name))

@[simp] theorem mem_named : o ∈ named name observations ↔ o ∈ observations ∧ o.name = name := by
  simp [named]

/-! ### Values -/

theorem exists_latestOf (hne : observations ≠ []) : ∃ o, LatestOf o observations := by
  have hsorted : inOrder observations ≠ [] := fun h => hne (inOrder_eq_nil_iff.mp h)
  obtain ⟨o, ho⟩ := Option.isSome_iff_exists.mp (List.getLast?_isSome.mpr hsorted)
  exact ⟨o, latestOf_of_getLast?_inOrder ho⟩

theorem LatestOf.mem (h : LatestOf o observations) : o ∈ observations := by
  obtain ⟨before, after, rfl, -, -⟩ := h
  simp

theorem LatestOf.time_le (h : LatestOf o observations) {b : Observation}
    (hb : b ∈ observations) : b.time ≤ o.time := by
  obtain ⟨before, after, rfl, hbefore, hafter⟩ := h
  rcases List.mem_append.mp hb with hb | hb
  · exact hbefore b hb
  · rcases List.mem_cons.mp hb with rfl | hb
    · exact le_refl _
    · exact le_of_lt (hafter b hb)

/-- The latest observation stays the latest when others are left out. -/
theorem LatestOf.filter {p : Observation → Bool} (h : LatestOf o observations) (hp : p o = true) :
    LatestOf o (observations.filter p) := by
  obtain ⟨before, after, rfl, hbefore, hafter⟩ := h
  refine ⟨before.filter p, after.filter p, ?_, ?_, ?_⟩
  · rw [List.filter_append, List.filter_cons_of_pos hp]
  · exact fun b hb => hbefore b (List.mem_filter.mp hb).1
  · exact fun b hb => hafter b (List.mem_filter.mp hb).1

/-- The latest of some observations is the latest of all if all others are earlier. -/
theorem LatestOf.of_filter {p : Observation → Bool} (h : LatestOf o (observations.filter p))
    (hothers : ∀ b ∈ observations, p b = false → b.time < o.time) : LatestOf o observations := by
  obtain ⟨o', ho'⟩ := exists_latestOf (List.ne_nil_of_mem (List.mem_filter.mp h.mem).1)
  cases hp : p o' with
  | true => rwa [h.unique (ho'.filter hp)]
  | false =>
      have hle := ho'.time_le (List.mem_filter.mp h.mem).1
      exact absurd (hothers o' ho'.mem hp) (not_lt_of_ge hle)

/-- The value of a column does not depend on other columns. -/
theorem isValueAt_named :
    IsValueAt (named name observations) t name x ↔ IsValueAt observations t name x := by
  have hsame : (named name observations).filter
      (fun o => decide (o.name = name) && decide (o.time ≤ t)) =
        observations.filter (fun o => decide (o.name = name) && decide (o.time ≤ t)) := by
    rw [named, List.filter_filter]
    exact List.filter_congr fun o _ => by cases decide (o.name = name) <;> simp
  rw [IsValueAt, IsValueAt, hsame]

/-! ### Times -/

/-- If a step divides a day, whole steps lie between the midnight of an instant and that of a later
one. -/
theorem exists_steps_between (hday : stepHours ∣ 24) (h : a ≤ b) :
    ∃ m : Nat, b.midnight = a.midnight + m * (stepHours * secondsPerHour : Nat) := by
  obtain ⟨perDay, hperDay⟩ := hday
  have hsecond : Instant.secondsPerDay = (perDay : Int) * (stepHours * secondsPerHour : Nat) := by
    calc Instant.secondsPerDay
        = ((24 * secondsPerHour : Nat) : Int) := rfl
      _ = (perDay : Int) * (stepHours * secondsPerHour : Nat) := by
        rw [hperDay, Nat.mul_right_comm, Int.natCast_mul, Int.mul_comm]
  -- both midnights are multiples of a day, and that of the later instant is not the earlier one
  obtain ⟨days, hdays⟩ : ∃ days : Nat, b.midnight = a.midnight + days * Instant.secondsPerDay := by
    obtain ⟨hdayA, hleA, hltA⟩ := a.midnight_bounds
    obtain ⟨hdayB, hleB, hltB⟩ := b.midnight_bounds
    rw [Instant.le_def] at h
    refine ⟨((b.midnight - a.midnight) / 86400).toNat, ?_⟩
    rw [Instant.secondsPerDay]
    omega
  refine ⟨days * perDay, ?_⟩
  calc b.midnight
      = a.midnight + days * Instant.secondsPerDay := hdays
    _ = a.midnight + (days * perDay : Nat) * (stepHours * secondsPerHour : Nat) := by
      rw [hsecond, Int.natCast_mul days perDay, Int.mul_assoc]

/-- An instant that does not lie before the later of two midnights is a grid point from there
exactly if it is one from the earlier midnight. -/
theorem exists_point_iff (hday : stepHours ∣ 24) (h : a ≤ b) (hb : b ≤ t) :
    (∃ k : Nat, t = Instant.ofSeconds (b.midnight + k * (stepHours * secondsPerHour : Nat))) ↔
      ∃ k : Nat, t = Instant.ofSeconds (a.midnight + k * (stepHours * secondsPerHour : Nat)) := by
  obtain ⟨m, hm⟩ := exists_steps_between hday h
  constructor
  · rintro ⟨k, rfl⟩
    refine ⟨m + k, ?_⟩
    rw [hm, add_natCast_mul]
  · rintro ⟨k, rfl⟩
    have hpositive : 0 < stepHours * secondsPerHour :=
      Nat.mul_pos (Nat.pos_of_dvd_of_pos hday (by decide)) (by decide)
    have hle := le_trans (Instant.midnight_le b) hb
    rw [← not_lt, Instant.ofSeconds_lt_ofSeconds, not_lt, hm] at hle
    have hmul : m * (stepHours * secondsPerHour) ≤ k * (stepHours * secondsPerHour) := by
      exact_mod_cast Int.le_of_add_le_add_left hle
    obtain ⟨j, rfl⟩ := Nat.exists_eq_add_of_le (Nat.le_of_mul_le_mul_right hmul hpositive)
    refine ⟨j, ?_⟩
    rw [hm, add_natCast_mul]

/-- The row times between bounds that are known. -/
theorem isRowTime_iff_of_bounds {columns : List String} {primed : Instant}
    (hfirst : (observations.map Observation.time).min? = some first)
    (hprimed : (columns.filterMap (firstTime? observations)).max? = some primed)
    (hlast : (observations.map Observation.time).max? = some last) :
    IsRowTime stepHours columns observations t ↔
      (∃ k : Nat, t = Instant.ofSeconds (first.midnight + k * (stepHours * secondsPerHour : Nat))) ∧
        primed ≤ t ∧ t < last := by
  constructor
  · rintro ⟨first', primed', last', hfirst', hprimed', hlast', hpoint, hbounds⟩
    obtain rfl := Option.some.inj (hfirst.symm.trans hfirst')
    obtain rfl := Option.some.inj (hprimed.symm.trans hprimed')
    obtain rfl := Option.some.inj (hlast.symm.trans hlast')
    exact ⟨hpoint, hbounds⟩
  · rintro ⟨hpoint, hbounds⟩
    exact ⟨first, primed, last, hfirst, hprimed, hlast, hpoint, hbounds⟩

theorem named_ne_nil (hname : ∃ o ∈ observations, o.name = name) :
    named name observations ≠ [] := by
  obtain ⟨o, ho, hon⟩ := hname
  exact List.ne_nil_of_mem (mem_named.mpr ⟨ho, hon⟩)

theorem first_le_named (hfirst : (observations.map Observation.time).min? = some a)
    (hnamed : ((named name observations).map Observation.time).min? = some b) : a ≤ b := by
  obtain ⟨o, ho, rfl⟩ := List.mem_map.mp (List.min?_eq_some_iff.mp hnamed).1
  exact (List.min?_eq_some_iff.mp hfirst).2 _ (List.mem_map_of_mem (mem_named.mp ho).1)

theorem named_le_last (hnamed : ((named name observations).map Observation.time).max? = some a)
    (hlast : (observations.map Observation.time).max? = some b) : a ≤ b := by
  obtain ⟨o, ho, rfl⟩ := List.mem_map.mp (List.max?_eq_some_iff.mp hnamed).1
  exact (List.max?_eq_some_iff.mp hlast).2 _ (List.mem_map_of_mem (mem_named.mp ho).1)

/-- From the last observation of a column on, its value is the price of that observation. -/
theorem exists_latestOf_of_last_le
    (hlast : ((named name observations).map Observation.time).max? = some last) (hle : last ≤ t)
    (hx : IsValueAt observations t name x) :
    ∃ o, LatestOf o (named name observations) ∧ o.price = x := by
  obtain ⟨o, ho, hprice⟩ := isValueAt_named.mpr hx
  have hall : (named name observations).filter
      (fun o => decide (o.name = name) && decide (o.time ≤ t)) = named name observations := by
    rw [List.filter_eq_self]
    intro b hb
    have hbefore := (List.max?_eq_some_iff.mp hlast).2 _ (List.mem_map_of_mem hb)
    simpa using ⟨(mem_named.mp hb).2, le_trans hbefore hle⟩
  rw [hall] at ho
  exact ⟨o, ho, hprice⟩

/-- **Common times.**  As long as a column is observed and all columns have been, the grid of all
observations and that of the column alone have rows at the same times. -/
theorem isRowTime_named_iff {primed : Instant} (hday : stepHours ∣ 24)
    (hname : ∃ o ∈ observations, o.name = name)
    (hprimed : ((columnsOf observations).filterMap (firstTime? observations)).max? = some primed)
    (hlast : ((named name observations).map Observation.time).max? = some last) :
    IsRowTime stepHours (columnsOf observations) observations t ∧ t < last ↔
      IsRowTime stepHours (columnsOf (named name observations)) (named name observations) t ∧
        primed ≤ t := by
  have hne := named_ne_nil hname
  obtain ⟨o, ho, hon⟩ := hname
  obtain ⟨first, end', hfirst, hend⟩ := exists_time_bounds (List.ne_nil_of_mem ho)
  obtain ⟨begin, -, hbegin, -⟩ := exists_time_bounds hne
  have hnames : ∀ o ∈ named name observations, o.name = name := fun o ho => (mem_named.mp ho).2
  have hstarts := max?_firstTime?_of_name hne hnames hbegin
  have hbegin_le : begin ≤ primed := (List.max?_eq_some_iff.mp hprimed).2 begin
    (List.mem_filterMap.mpr ⟨name, mem_columnsOf.mpr ⟨o, ho, hon⟩, hbegin⟩)
  have hfirst_le := first_le_named hfirst hbegin
  have hlast_le := named_le_last hlast hend
  rw [isRowTime_iff_of_bounds hfirst hprimed hend, isRowTime_iff_of_bounds hbegin hstarts hlast]
  constructor
  · rintro ⟨⟨hpoint, hafter, -⟩, hbefore⟩
    have hbegun := le_trans hbegin_le hafter
    exact ⟨⟨(exists_point_iff hday hfirst_le hbegun).mpr hpoint, hbegun, hbefore⟩, hafter⟩
  · rintro ⟨⟨hpoint, hbegun, hbefore⟩, hafter⟩
    exact ⟨⟨(exists_point_iff hday hfirst_le hbegun).mp hpoint, hafter,
      lt_of_lt_of_le hbefore hlast_le⟩, hbefore⟩

/-- The grid of a column stays within the calendar if that of all observations does. -/
theorem StaysInCalendar.named (hday : stepHours ∣ 24)
    (h : StaysInCalendar stepHours observations) (name : String) :
    StaysInCalendar stepHours (named name observations) := by
  intro begin last hbegin hlast k hk
  obtain ⟨o, ho, -⟩ := List.mem_map.mp (List.min?_eq_some_iff.mp hbegin).1
  obtain ⟨first, end', hfirst, hend⟩ :=
    exists_time_bounds (List.ne_nil_of_mem (mem_named.mp ho).1)
  obtain ⟨m, hm⟩ := exists_steps_between hday (first_le_named hfirst hbegin)
  have hpoint : ∀ j : Nat, begin.midnight + j * (stepHours * secondsPerHour : Nat) =
      first.midnight + (m + j : Nat) * (stepHours * secondsPerHour : Nat) := by
    intro j
    rw [hm, add_natCast_mul]
  rw [hpoint] at hk ⊢
  exact h first end' hfirst hend (m + k) (lt_of_lt_of_le hk (named_le_last hlast hend))

/-! ### Rows -/

theorem laidOut_of_ofObservations {g : Grid} (h : ofObservations stepHours observations = .ok g) :
    LaidOut stepHours observations g := by
  obtain ⟨hstep, hne, -, rfl⟩ := ofObservations_eq_ok_iff.mp h
  exact laidOut_ofRows hstep hne

/-- What stands beside an item that is found is found at the same place. -/
theorem exists_getElem?_of_forall₂ {α β : Type} {R : α → β → Prop} {items : List α}
    {values : List β} (h : List.Forall₂ R items values) {item : α} (hi : items[i]? = some item) :
    ∃ value, values[i]? = some value ∧ R item value := by
  obtain ⟨hlength, hrel⟩ := List.forall₂_iff_get.mp h
  obtain ⟨hlt, rfl⟩ := List.getElem?_eq_some_iff.mp hi
  have hlt' : i < values.length := hlength ▸ hlt
  exact ⟨values[i], List.getElem?_eq_getElem hlt', hrel i hlt hlt'⟩

/-- A row has the value of a column in the place of that column. -/
theorem LaidOut.exists_value {g : Grid} (h : LaidOut stepHours observations g)
    (hi : g.columns[i]? = some name) {r : Row} (hr : r ∈ g.rows) :
    ∃ x, r.values[i]? = some x ∧ IsValueAt observations r.time name x :=
  exists_getElem?_of_forall₂ (h.values r hr) hi

theorem LaidOut.exists_eq_single {g : Grid} (h : LaidOut stepHours observations g)
    (hone : g.columns = [name]) {r : Row} (hr : r ∈ g.rows) :
    ∃ x, r = ⟨r.time, [x]⟩ ∧ IsValueAt observations r.time name x := by
  have hvalues := h.values r hr
  rw [hone, List.forall₂_cons_left_iff] at hvalues
  obtain ⟨x, rest, hx, hrest, heq⟩ := hvalues
  rw [List.forall₂_nil_left_iff.mp hrest] at heq
  refine ⟨x, ?_, hx⟩
  rw [← heq]

/-- If a grid with one column has no values but those of all observations, then its rows are those
of any grid of them at the same time, reduced to the column. -/
theorem LaidOut.only_eq {g h : Grid} (hg : LaidOut stepHours observations g)
    (hi : g.columns[i]? = some name) (hh : LaidOut stepHours found h) (hone : h.columns = [name])
    {r s : Row} (hr : r ∈ g.rows) (hs : s ∈ h.rows) (htime : r.time = s.time)
    (hvalue : ∀ x, IsValueAt found s.time name x → IsValueAt observations s.time name x) :
    r.only i = s := by
  obtain ⟨x, hx, hrx⟩ := hg.exists_value hi hr
  obtain ⟨y, heq, hsy⟩ := hh.exists_eq_single hone hs
  rw [htime] at hrx
  have hxy : x = y := hrx.unique (hvalue y hsy)
  rw [Row.only, hx, heq, hxy, htime]
  rfl

theorem mem_times_filter {rows : List Row} {p : Instant → Bool} :
    t ∈ (rows.filter (fun r => p r.time)).map Row.time ↔
      (∃ r ∈ rows, r.time = t) ∧ p t = true := by
  simp only [List.mem_map, List.mem_filter]
  constructor
  · rintro ⟨r, ⟨hr, hp⟩, rfl⟩
    exact ⟨⟨r, hr, rfl⟩, hp⟩
  · rintro ⟨⟨r, hr, rfl⟩, hp⟩
    exact ⟨r, ⟨hr, hp⟩, rfl⟩

/-- Rows of two grids, each cut to a class of times, are the same if the times are and rows of one
time do not differ. -/
theorem filter_only_eq {rows rows' : List Row} {p q : Instant → Bool}
    (hrows : rows.Pairwise (fun r s => r.time < s.time))
    (hrows' : rows'.Pairwise (fun r s => r.time < s.time))
    (htimes : ∀ t, ((∃ r ∈ rows, r.time = t) ∧ p t = true) ↔
      (∃ r ∈ rows', r.time = t) ∧ q t = true)
    (hsame : ∀ r ∈ rows, ∀ s ∈ rows', r.time = s.time → r.only i = s) :
    (rows.filter (fun r => p r.time)).map (Row.only i) = rows'.filter (fun r => q r.time) := by
  have htime : ((rows.filter (fun r => p r.time)).map (Row.only i)).map Row.time =
      (rows'.filter (fun r => q r.time)).map Row.time := by
    rw [List.map_map]
    change (rows.filter (fun r => p r.time)).map Row.time = _
    apply List.Pairwise.eq_of_mem_iff (r := (· < ·)) (List.pairwise_map.mpr (hrows.filter _))
      (List.pairwise_map.mpr (hrows'.filter _))
    intro t
    rw [mem_times_filter, mem_times_filter, htimes]
  refine rows_eq_of_times htime fun r' hr' s hs heq => ?_
  obtain ⟨r, hr, rfl⟩ := List.mem_map.mp hr'
  exact hsame r (List.mem_filter.mp hr).1 s (List.mem_filter.mp hs).1 heq

/-- How column `i` of the grid `g` of all observations goes together with the grid `h` of some of
them by themselves, `own`, which are what the column of the name is about. -/
structure Alone (stepHours : Nat) (observations own : List Observation) (name : String)
    (g h : Grid) (i : Nat) (primed last : Instant) : Prop where
  all : ofObservations stepHours observations = .ok g
  alone : ofObservations stepHours own = .ok h
  column : g.requireColumn name = .ok i
  one_column : h.columns = [name]
  /-- `primed` is the latest of the columns' first observations, `last` the column's own last. -/
  primed_eq : (g.columns.filterMap (firstTime? observations)).max? = some primed
  last_eq : (own.map Observation.time).max? = some last
  /-- The rows before the last observation of the column are those by itself from the time on when
  all columns have been observed. -/
  rows : (g.rows.filter (fun r => decide (r.time < last))).map (Row.only i) =
    h.rows.filter (fun r => decide (primed ≤ r.time))
  later : ∀ r ∈ g.rows, last ≤ r.time → ∃ o, LatestOf o own ∧ r.values[i]? = some o.price
  same_time : ∀ r ∈ g.rows, ∀ s ∈ h.rows, r.time = s.time → r.only i = s

/-- **A column by itself.**  With a step that divides a day, the observations of a column have a
grid whenever all observations have one, and where the two grids have rows of one time, these do not
differ in the column. -/
theorem exists_alone_named (hday : stepHours ∣ 24) (hname : ∃ o ∈ observations, o.name = name)
    (hcalendar : StaysInCalendar stepHours observations) :
    ∃ g h i primed last,
      Alone stepHours observations (named name observations) name g h i primed last := by
  have hstep : 0 < stepHours := Nat.pos_of_dvd_of_pos hday (by decide)
  have hne : observations ≠ [] := by
    obtain ⟨o, ho, -⟩ := hname
    exact List.ne_nil_of_mem ho
  have hnamed := named_ne_nil hname
  have hnames : ∀ o ∈ named name observations, o.name = name := fun o ho => (mem_named.mp ho).2
  have hall := ofObservations_eq_ok hstep hne hcalendar
  have halone := ofObservations_eq_ok hstep hnamed (hcalendar.named hday name)
  have hg := laidOut_of_ofObservations hall
  have hh := laidOut_of_ofObservations halone
  have hone := columnsOf_eq_singleton hnamed hnames
  obtain ⟨i, hcolumn, hi⟩ := exists_requireColumn ((mem_columns_ofObservations hall).mpr hname)
  obtain ⟨-, last, -, hlast⟩ := exists_time_bounds hnamed
  obtain ⟨primed, hprimed⟩ := exists_primed hne
  have hsame : ∀ r ∈ gridRows stepHours observations,
      ∀ s ∈ gridRows stepHours (named name observations), r.time = s.time → r.only i = s := by
    intro r hr s hs htime
    exact hg.only_eq hi hh hone hr hs htime (fun x => isValueAt_named.mp)
  refine ⟨_, _, i, primed, last, hall, halone, hcolumn, hone, hprimed, hlast, ?rows, ?later, hsame⟩
  case rows =>
    apply filter_only_eq (p := fun t => decide (t < last)) (q := fun t => decide (primed ≤ t))
      hg.rows_ascending hh.rows_ascending ?_ hsame
    intro t
    rw [hg.mem_times, hh.mem_times, decide_eq_true_eq, decide_eq_true_eq]
    exact isRowTime_named_iff hday hname hprimed hlast
  case later =>
    intro r hr hle
    obtain ⟨x, hx, hvalue⟩ := hg.exists_value hi hr
    obtain ⟨o, ho, rfl⟩ := exists_latestOf_of_last_le hlast hle hvalue
    exact ⟨o, ho, hx⟩

end Grid

end SpotForecast
