import SpotForecast.Proofs.Calendar.Dates
import SpotForecast.Proofs.Feed.Rows
import SpotForecast.Proofs.Grid.Views
import SpotForecast.Proofs.Text.Fields
import SpotForecast.Report

/-!
# The table of a grid

A table is cut back into what it was made from: at line feeds into lines, and every line at tabs
into fields.  That no separator is lost or made up along the way has to be said once for each kind
of field: the names of the columns come from a feed, where tabs and line feeds end them
(`isFieldText_name`), and times and values are made of digits and a few marks (`isFieldText_render`,
`isFieldText_fixed`).

* `table_printed` writes a table line by line.
* `IsTable` says what the lines of a table show, and `isTable_cells` that they are cut out again.
* `report_of_parse` says that the report on a feed is such a table, whatever the feed holds.
-/

namespace SpotForecast

open Text

variable {columns : List String} {rows : List Row} {template : String} {g : Grid}

/-! ### Fields -/

theorem isFieldText_of_isDigit {digits : List Char} (h : ∀ c ∈ digits, Decimal.isDigit c = true) :
    IsFieldText digits := by
  intro c hc
  have hdigit := h c hc
  constructor <;> rintro rfl <;> cases hdigit

theorem isFieldText_padded (width n : Nat) : IsFieldText (Decimal.padded '0' width n) :=
  isFieldText_of_isDigit fun _ hc => Decimal.isDigit_of_mem_padded hc

theorem isFieldText_digitsOf (n : Nat) : IsFieldText (Decimal.digitsOf n) :=
  Decimal.padded_one n ▸ isFieldText_padded 1 n

theorem isFieldText_pointed (places units : Nat) : IsFieldText (Decimal.pointed places units) :=
  (isFieldText_digitsOf _).append ((by decide : IsFieldText ['.']).append (isFieldText_padded _ _))

theorem isFieldText_signText (s : Float.Model.UnpackedFloat.Sign) :
    IsFieldText (Decimal.signText s) := by
  cases s <;> decide

theorem Decimal.IsFixed.isFieldText {places : Nat} {f : Float.Model.UnpackedFloat}
    {text : List Char} (h : IsFixed places f text) : IsFieldText text := by
  cases h with
  | notANumber => decide
  | infinity s => exact (isFieldText_signText s).append (by decide)
  | zero s => exact (isFieldText_signText s).append (isFieldText_pointed _ _)
  | finite _ => exact (isFieldText_signText _).append (isFieldText_pointed _ _)

/-- A value can stand in a line. -/
theorem isFieldText_fixed {places : Nat} (hplaces : 0 < places) (x : Float) :
    IsFieldText (Decimal.fixed places x) :=
  (Decimal.isFixed_fixed hplaces x).isFieldText

theorem toNat_ofNat_eq_or_eq_zero (n : Nat) :
    (Char.ofNat n).toNat = n ∨ (Char.ofNat n).toNat = 0 := by
  rw [Char.ofNat]
  split
  · exact Or.inl rfl
  · exact Or.inr rfl

/-- Even a number that has more than two digits gives no separator. -/
theorem isFieldText_twoPlaces (n : Nat) : IsFieldText (Pattern.twoPlaces .zero n) := by
  have hchar : ∀ d, Char.ofNat (48 + d) ≠ '\t' ∧ Char.ofNat (48 + d) ≠ '\n' := by
    intro d
    have hcode := toNat_ofNat_eq_or_eq_zero (48 + d)
    constructor <;> intro heq <;> rw [heq] at hcode <;> simp at hcode <;> omega
  rw [Pattern.twoPlaces_zero]
  intro c hc
  simp only [List.mem_cons, List.not_mem_nil, or_false] at hc
  rcases hc with rfl | rfl <;> exact hchar _

theorem isFieldText_yearPlaces (year : Int) : IsFieldText (Pattern.yearPlaces .zero year) := by
  rw [Pattern.yearPlaces_eq, Instant.yearText]
  split
  · exact isFieldText_padded _ _
  · split
    · exact (by decide : IsFieldText ['-']).append (isFieldText_padded _ _)
    · exact (by decide : IsFieldText ['+']).append (isFieldText_padded _ _)

/-- A time can stand in a line. -/
theorem isFieldText_render (t : Instant) : IsFieldText (Pattern.render Pattern.secondParts t) := by
  rw [IsFieldText, Pattern.render, List.forall_mem_flatMap]
  intro part hpart
  simp only [Pattern.secondParts, List.mem_cons, List.not_mem_nil, or_false] at hpart
  rcases hpart with rfl | rfl | rfl | rfl | rfl | rfl | rfl | rfl | rfl | rfl | rfl <;>
    first
    | exact isFieldText_twoPlaces _
    | exact isFieldText_yearPlaces _
    | exact List.forall_mem_singleton.mpr (by decide)

/-- A part of a category can stand in a line: the feed has been cut at tabs and line feeds. -/
theorem isFieldText_of_mem_line {text line field : List Char} (hline : line ∈ lines text)
    (hfield : field ∈ pieces (· == '\t') line) : IsFieldText field := by
  intro c hc
  obtain ⟨htab, hmem⟩ := of_mem_pieces hfield hc
  refine ⟨by simpa using htab, ?_⟩
  rintro rfl
  exact notMem_of_mem_lines hline hmem

/-- **Names.**  The name of a column of a feed can stand in a line. -/
theorem isFieldText_name {text : String} {observations : List Observation} {o : Observation}
    (h : Feed.parse text = .ok observations) (ho : o ∈ observations) :
    IsFieldText o.name.toList := by
  obtain ⟨line, hline, hread⟩ := Feed.exists_ofLine_of_parse h ho
  obtain ⟨number, price, time, resourceType, description, zone, further, hfields, -, -,
    hcategory⟩ := Feed.ofFields_eq_ok_iff.mp (Feed.ofLine_eq_ok_iff.mp hread).2
  have hparts : ∀ part ∈ [resourceType, description, zone], IsFieldText part := by
    intro part hpart
    apply isFieldText_of_mem_line hline
    rw [hfields]
    simp only [List.mem_cons, List.not_mem_nil, or_false] at hpart
    rcases hpart with rfl | rfl | rfl <;> simp
  have hname : o.name.toList = joinPieces Category.separator [resourceType, description, zone] := by
    rw [Observation.name, hcategory, Category.canonical, String.toList_ofList]
    simp [Category.canonicalChars]
  rw [hname]
  exact forall_mem_joinPieces (by decide : IsFieldText Category.separator) hparts

/-! ### Lines -/

namespace Layout

/-- Tables as the commands print them, with some template for the names. -/
def printed (template : String) : Layout :=
  { standard with columnTemplate := template }

theorem toList_separator (template : String) : (printed template).separator.toList = ['\t'] := by
  change "\t".toList = ['\t']
  decide

theorem toList_lineEnd (template : String) : (printed template).lineEnd.toList = ['\n'] := by
  change "\n".toList = ['\n']
  decide

/-- The fields of a printed table, the names first. -/
def cells (template : String) (columns : List String) (rows : List Row) :
    List (List (List Char)) :=
  (printed template).headerFields columns ::
    rows.map ((printed template).rowFields Pattern.secondParts)

theorem body_printed (template : String) (rows : List Row) :
    (printed template).body rows =
      .ok (closed ((rows.map ((printed template).rowFields Pattern.secondParts)).map
        (joinPieces ['\t']))) := by
  rw [body]
  split
  · rename_i hrows
    rw [List.isEmpty_iff.mp hrows]
    rfl
  · have hpattern : Pattern.parse (printed template).datePattern = some Pattern.secondParts :=
      Pattern.parse_secondParts
    have hprecision : 4 < Decimal.limit16 := by decide
    have hrow : (printed template).row Pattern.secondParts = fun r =>
        joinPieces ['\t'] ((printed template).rowFields Pattern.secondParts r) ++ ['\n'] := by
      funext r
      rw [row, toList_separator, toList_lineEnd]
    simp only [hpattern, hrow, closed, List.map_map, List.flatMap_map]
    exact if_pos hprecision

/-- **Lines.**  A printed table is its fields, line by line. -/
theorem table_printed (template : String) (columns : List String) (rows : List Row) :
    (printed template).table columns rows =
      .ok (String.ofList (closed ((cells template columns rows).map (joinPieces ['\t'])))) := by
  have hheader : (printed template).header columns =
      joinPieces ['\t'] ((printed template).headerFields columns) := by
    rw [header, toList_separator]
  have hlines : (cells template columns rows).map (joinPieces ['\t']) =
      joinPieces ['\t'] ((printed template).headerFields columns) ::
        (rows.map ((printed template).rowFields Pattern.secondParts)).map (joinPieces ['\t']) := by
    rw [cells, List.map_cons]
  rw [table, body_printed, hheader, toList_lineEnd, hlines, closed_cons]
  simp only [bind, Except.bind, pure, Except.pure, List.append_assoc, List.singleton_append]

theorem ne_nil_of_mem_cells {fields : List (List Char)}
    (h : fields ∈ cells template columns rows) : fields ≠ [] := by
  rcases List.mem_cons.mp h with rfl | h
  · exact List.cons_ne_nil _ _
  · obtain ⟨r, -, rfl⟩ := List.mem_map.mp h
    exact List.cons_ne_nil _ _

/-- All of it are fields, if the names over the columns are. -/
theorem isFieldText_cells
    (hnames : ∀ name ∈ columns, IsFieldText (fill name.toList template.toList)) :
    ∀ fields ∈ cells template columns rows, ∀ field ∈ fields, IsFieldText field := by
  have hdate : IsFieldText "date".toList := by decide
  have hprecision : 0 < 4 := by decide
  rw [cells, List.forall_mem_cons, List.forall_mem_map]
  constructor
  · rw [headerFields, List.forall_mem_cons, List.forall_mem_map]
    exact ⟨hdate, hnames⟩
  · intro r _
    rw [rowFields, List.forall_mem_cons, List.forall_mem_map]
    exact ⟨isFieldText_render r.time, fun x _ => isFieldText_fixed hprecision x⟩

theorem fill_price (name : List Char) :
    fill name standard.columnTemplate.toList = name ++ "__price".toList := by
  rfl

end Layout

/-! ### Tables -/

/-- What a table shows: over the columns the names, and in a line for each row its time and its
values. -/
structure IsTable (columns : List String) (rows : List Row) (cells : List (List (List Char))) :
    Prop where
  lines : cells.length = 1 + rows.length
  fields : ∀ line ∈ cells, line.length = 1 + columns.length
  names : cells[0]? =
    some ("date".toList :: columns.map (fun name => name.toList ++ "__price".toList))
  /-- The lines behind the first have the time of a row and its values, in the order of the
  columns. -/
  row : ∀ (i : Nat) (r : Row), rows[i]? = some r → ∃ time values,
    cells[i + 1]? = some (time :: values) ∧ ShowsTime r.time time ∧
      List.Forall₂ (fun x text => Decimal.IsFixed 4 x.toModel.unpack text) r.values values

/-- The rows of a report: all of them, or the last ones. -/
def Grid.shown (g : Grid) : Option Nat → List Row
  | some count => g.rows.drop (g.rows.length - count)
  | none => g.rows

theorem isTable_cells (hrectangular : ∀ r ∈ rows, r.values.length = columns.length)
    (htimes : ∀ r ∈ rows, r.time.nanos = 0) :
    IsTable columns rows (Layout.cells Layout.standard.columnTemplate columns rows) where
  lines := by
    rw [Layout.cells, List.length_cons, List.length_map, Nat.add_comm]
  fields := by
    rw [Layout.cells, List.forall_mem_cons, List.forall_mem_map]
    constructor
    · rw [Layout.headerFields, List.length_cons, List.length_map, Nat.add_comm]
    · intro r hr
      rw [Layout.rowFields, List.length_cons, List.length_map, hrectangular r hr, Nat.add_comm]
  names := by
    rfl
  row := by
    intro i r hr
    have hcells : (Layout.cells Layout.standard.columnTemplate columns rows)[i + 1]? =
        some (Layout.standard.rowFields Pattern.secondParts r) := by
      rw [Layout.cells, List.getElem?_cons_succ, List.getElem?_map, hr]
      rfl
    refine ⟨_, _, hcells, ?_, ?_⟩
    · exact Pattern.showsTime_render (htimes r (List.mem_of_getElem? hr))
    · rw [List.forall₂_map_right_iff, List.forall₂_same]
      exact fun x _ => Decimal.isFixed_fixed (by decide) x

/-- **Reports.**  The report on a grid of a feed, or on its last rows, is their table.  Whatever
stands in the categories of the feed, every line has its fields. -/
theorem Grid.report_of_parse {text : String} {observations : List Observation} {stepHours : Nat}
    (hfeed : Feed.parse text = .ok observations)
    (hgrid : ofObservations stepHours observations = .ok g) (tail : Option Nat) :
    ∃ out cells, g.report tail = .ok out ∧ IsCut out.toList cells ∧
      IsTable g.columns (g.shown tail) cells := by
  have hsound := sound_ofObservations hgrid
  have hshown : g.shown tail ⊆ g.rows := by
    cases tail with
    | none => exact List.Subset.refl _
    | some count => exact List.drop_subset _ _
  have hreport : g.report tail =
      (Layout.printed Layout.standard.columnTemplate).table g.columns (g.shown tail) := by
    cases tail with
    | none => rfl
    | some count =>
        rw [shown, ← rowCount, ← rows_tail]
        rfl
  have hfields : ∀ name ∈ g.columns,
      IsFieldText (Layout.fill name.toList Layout.standard.columnTemplate.toList) := by
    intro name hname
    obtain ⟨o, ho, rfl⟩ := (mem_columns_ofObservations hgrid).mp hname
    rw [Layout.fill_price]
    exact (isFieldText_name hfeed ho).append (by decide : IsFieldText "__price".toList)
  refine ⟨_, _, hreport.trans (Layout.table_printed _ _ _), ?_, isTable_cells ?_ ?_⟩
  · rw [String.toList_ofList]
    exact isCut_closed (fun _ h => Layout.ne_nil_of_mem_cells h) (Layout.isFieldText_cells hfields)
  · exact fun r hr => hsound.rectangular r (hshown hr)
  · intro r hr
    obtain ⟨n, hn⟩ := List.getElem?_of_mem (hshown hr)
    rw [hsound.time_eq n 0 r r hn hn]
    rfl

/-- A feed of one category with braces, underscores, blanks and a carriage return in its parts. -/
def oddFeed : String :=
  "0\t1.5\t1970-01-01T00:00:00Z\t\x7b\x7d\ta__\r\t \x7d\n" ++
    "0\tinf\t1970-01-02T00:00:00Z\t\x7b\x7d\ta__\r\t \x7d\n" ++
    "0\t2.0\t1970-01-03T00:00:00Z\t\x7b\x7d\ta__\r\t \x7d\n"

def oddCategory : Category :=
  ⟨"\x7b\x7d", "a__\r", " \x7d"⟩

def oddPrices : List Observation :=
  [⟨⟨0, 0⟩, 1.5, oddCategory⟩, ⟨⟨86400, 0⟩, Decimal.infinity, oddCategory⟩,
    ⟨⟨172800, 0⟩, 2.0, oddCategory⟩]

def oddGrid : Grid :=
  ⟨["\x7b\x7d__a__\r__ \x7d"], 24, [⟨⟨0, 0⟩, [1.5]⟩, ⟨⟨86400, 0⟩, [Decimal.infinity]⟩]⟩

theorem Grid.ofObservations_oddPrices : ofObservations 24 oddPrices = .ok oddGrid := by
  have hsorted : oddPrices.Pairwise (fun a b => a.time ≤ b.time) := by decide
  rw [ofObservations_of_pairwise (by decide) (by decide) (by decide) hsorted]
  decide +kernel

/-- The report on the last row of the odd grid has two lines of two fields. -/
theorem Grid.report_of_parse_oddFeed :
    Feed.parse oddFeed = .ok oddPrices ∧ ofObservations 24 oddPrices = .ok oddGrid ∧
      ∃ out cells, oddGrid.report (some 1) = .ok out ∧ IsCut out.toList cells ∧
        IsTable oddGrid.columns [⟨⟨86400, 0⟩, [Decimal.infinity]⟩] cells := by
  have hfeed : Feed.parse oddFeed = .ok oddPrices := by
    refine (Feed.parse_eq_ofLines
      ((congrArg (· ++ _) String.ofList_append.symm).trans String.ofList_append.symm)).trans ?_
    decide +kernel
  exact ⟨hfeed, ofObservations_oddPrices,
    report_of_parse hfeed ofObservations_oddPrices (some 1)⟩

end SpotForecast
