import SpotForecast.Feed

/-!
# Where observations of a feed come from

Every observation of a feed stands in one of its lines (`exists_ofLine_of_parse`).  A line that
holds an observation has the fields of `ofFields_eq_ok_iff`: a price, a time, and three parts of a
category key, which are taken as they stand.  The time always lies within the calendar
(`inCalendar_of_parse`).
-/

namespace SpotForecast

/-- Written numbers only name instants of the calendar. -/
theorem Timestamp.inCalendar_of_instant? {f : Timestamp.Fields} {t : Instant}
    (h : f.instant? = some t) : t.inCalendar = true := by
  simp only [Timestamp.Fields.instant?, Option.ite_none_right_eq_some, Option.some.injEq] at h
  obtain ⟨⟨-, -, -, -, -, -, -, hinside⟩, rfl⟩ := h
  exact hinside

/-- A time in a feed lies within the calendar. -/
theorem Timestamp.inCalendar_of_ofFeed? {cs : List Char} {t : Instant}
    (h : Timestamp.ofFeed? cs = some t) : t.inCalendar = true := by
  rw [Timestamp.ofFeed?] at h
  split at h
  · rename_i t' hstrict
    cases h
    obtain ⟨f, -, hf⟩ := Option.bind_eq_some_iff.mp hstrict
    exact Timestamp.inCalendar_of_instant? hf
  · obtain ⟨f, -, hf⟩ := Option.bind_eq_some_iff.mp h
    exact Timestamp.inCalendar_of_instant? hf

namespace Feed

variable {o : Observation}

/-- A feed whose characters are given is read from them. -/
theorem parse_eq_ofLines {text : String} {cs : List Char} (h : text = String.ofList cs) :
    parse text = ofLines 1 (Text.lines cs) := by
  rw [parse, h, String.toList_ofList]

/-- **Fields.**  Fields hold an observation exactly if there are six of them, the second is a
price and the third a time; the next three are the parts of the key. -/
theorem ofFields_eq_ok_iff {fields : List (List Char)} :
    ofFields fields = .ok o ↔
      ∃ number price time resourceType description zone further,
        fields = number :: price :: time :: resourceType :: description :: zone :: further ∧
        Decimal.read (Text.trim price) = .ok o.price ∧
        Timestamp.ofFeed? (Text.trim time) = some o.time ∧
        o.category = ⟨String.ofList resourceType, String.ofList description,
          String.ofList zone⟩ := by
  constructor
  · intro h
    rw [ofFields.eq_def] at h
    split at h
    · rename_i number price time resourceType description zone further
      split at h
      · cases h
      · rename_i x hprice
        split at h
        · cases h
        · rename_i t htime
          cases h
          exact ⟨number, price, time, resourceType, description, zone, further, rfl, hprice,
            htime, rfl⟩
    · cases h
  · rintro ⟨number, price, time, resourceType, description, zone, further, rfl, hprice, htime,
      hcategory⟩
    simp only [ofFields, hprice, htime, ← hcategory]

/-- A line holds an observation exactly if it has no quotation mark and its fields hold it. -/
theorem ofLine_eq_ok_iff {line : List Char} :
    ofLine line = .ok o ↔ '"' ∉ line ∧ ofFields (Text.pieces (· == '\t') line) = .ok o := by
  rw [ofLine]
  split
  · rename_i hquoted
    simp [hquoted]
  · rename_i hquoted
    simp [hquoted]

/-- Every observation among lines stands in one of them. -/
theorem exists_ofLine_of_ofLines {first : Nat} {lines : List (List Char)}
    {observations : List Observation} (h : ofLines first lines = .ok observations)
    (ho : o ∈ observations) : ∃ line ∈ lines, ofLine line = .ok o := by
  induction lines generalizing first observations with
  | nil =>
      cases h
      cases ho
  | cons line rest ih =>
      rw [ofLines] at h
      split at h
      · obtain ⟨line', hline', heq⟩ := ih h ho
        exact ⟨line', List.mem_cons_of_mem _ hline', heq⟩
      · split at h
        · cases h
        · rename_i o' hline
          cases hrest : ofLines (first + 1) rest with
          | error e =>
              rw [hrest] at h
              cases h
          | ok later =>
              rw [hrest] at h
              cases h
              rcases List.mem_cons.mp ho with rfl | ho
              · exact ⟨line, List.mem_cons_self, hline⟩
              · obtain ⟨line', hline', heq⟩ := ih hrest ho
                exact ⟨line', List.mem_cons_of_mem _ hline', heq⟩

/-- Every observation of a feed stands in one of its lines. -/
theorem exists_ofLine_of_parse {text : String} {observations : List Observation}
    (h : parse text = .ok observations) (ho : o ∈ observations) :
    ∃ line ∈ Text.lines text.toList, ofLine line = .ok o :=
  exists_ofLine_of_ofLines h ho

/-- The observations of a feed lie within the calendar. -/
theorem inCalendar_of_parse {text : String} {observations : List Observation}
    (h : parse text = .ok observations) (ho : o ∈ observations) :
    o.time.inCalendar = true := by
  obtain ⟨line, -, hline⟩ := exists_ofLine_of_parse h ho
  obtain ⟨_, _, _, _, _, _, _, -, -, htime, -⟩ :=
    ofFields_eq_ok_iff.mp (ofLine_eq_ok_iff.mp hline).2
  exact Timestamp.inCalendar_of_ofFeed? htime

end Feed

end SpotForecast
