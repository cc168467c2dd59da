import Mathlib.Data.List.Forall2
import SpotForecast.Feed
import SpotForecast.Proofs.Text.Lines

/-!
# Feeds put together

A feed is read line by line up to its first bad line.  Two facts say all about that.

* `parse_eq_ok_iff`: a feed is accepted exactly with the observations of its lines, blank ones left
  out, in their order.
* `parse_eq_error_iff`: a feed is refused exactly for a line that stands in it, is bad, and comes
  before all other bad ones; its number is one more than the number of line feeds before it.

`parse_append` joins feeds.  A feed that leaves no line open can be read by itself: behind it
another feed is read as if it stood alone, except that its lines have later numbers.
-/

namespace SpotForecast.Feed

variable {first : Nat} {line : List Char} {xs ys : List (List Char)} {os : List Observation}
  {o : Observation} {e : Fault} {cause : RowFault} {a b text : String}

/-- A fault with some more lines in front. -/
def Fault.behind (count : Nat) (e : Fault) : Fault :=
  ⟨count + e.line, e.cause⟩

/-- A line that does not stop the reading. -/
def Harmless (line : List Char) : Prop :=
  isBlankLine line = true ∨ ∃ o, ofLine line = .ok o

/-! ### Lines -/

theorem ofLines_blank (h : isBlankLine line = true) (first : Nat) (xs : List (List Char)) :
    ofLines first (line :: xs) = ofLines (first + 1) xs := by
  rw [ofLines, if_pos h]

theorem ofLines_bad (h : isBlankLine line = false) (hline : ofLine line = .error cause)
    (first : Nat) (xs : List (List Char)) : ofLines first (line :: xs) = .error ⟨first, cause⟩ := by
  rw [ofLines, if_neg (by simp [h]), hline]

theorem ofLines_good (h : isBlankLine line = false) (hline : ofLine line = .ok o) (first : Nat)
    (xs : List (List Char)) :
    ofLines first (line :: xs) = (ofLines (first + 1) xs).map (o :: ·) := by
  rw [ofLines, if_neg (by simp [h]), hline]

/-- The lines of two lists are read one list after the other. -/
theorem ofLines_append (first : Nat) (xs ys : List (List Char)) :
    ofLines first (xs ++ ys) =
      ofLines first xs >>= fun os => (ofLines (first + xs.length) ys).map (os ++ ·) := by
  induction xs generalizing first with
  | nil =>
      rw [List.nil_append, ofLines]
      cases ofLines first ys <;> rfl
  | cons line rest ih =>
      have hnumber : first + (line :: rest).length = first + 1 + rest.length := by
        rw [List.length_cons]
        omega
      rw [List.cons_append, hnumber]
      cases hblank : isBlankLine line with
      | true => rw [ofLines_blank hblank, ofLines_blank hblank, ih]
      | false =>
          cases hline : ofLine line with
          | error cause => rw [ofLines_bad hblank hline, ofLines_bad hblank hline]; rfl
          | ok o =>
              rw [ofLines_good hblank hline, ofLines_good hblank hline, ih]
              cases ofLines (first + 1) rest with
              | error e => rfl
              | ok os => cases ofLines (first + 1 + rest.length) ys <;> rfl

/-- Lines with later numbers are read alike. -/
theorem ofLines_add (count first : Nat) (xs : List (List Char)) :
    ofLines (count + first) xs = (ofLines first xs).mapError (Fault.behind count) := by
  induction xs generalizing first with
  | nil => rfl
  | cons line rest ih =>
      cases hblank : isBlankLine line with
      | true => rw [ofLines_blank hblank, ofLines_blank hblank, Nat.add_assoc, ih]
      | false =>
          cases hline : ofLine line with
          | error cause => rw [ofLines_bad hblank hline, ofLines_bad hblank hline]; rfl
          | ok o =>
              rw [ofLines_good hblank hline, ofLines_good hblank hline, Nat.add_assoc, ih]
              cases ofLines (first + 1) rest <;> rfl

/-- Lines are accepted with one observation for each of them that is not blank. -/
theorem ofLines_eq_ok_iff : ofLines first xs = .ok os ↔
    List.Forall₂ (fun line o => ofLine line = .ok o)
      (xs.filter (fun line => !isBlankLine line)) os := by
  induction xs generalizing first os with
  | nil => rw [ofLines, List.filter_nil, List.forall₂_nil_left_iff, Except.ok.injEq, eq_comm]
  | cons line rest ih =>
      cases hblank : isBlankLine line with
      | true => rw [ofLines_blank hblank, List.filter_cons_of_neg (by simp [hblank]), ih]
      | false =>
          rw [List.filter_cons_of_pos (by simp [hblank]), List.forall₂_cons_left_iff]
          cases hline : ofLine line with
          | error cause => simp [ofLines_bad hblank hline]
          | ok o =>
              rw [ofLines_good hblank hline]
              cases hrest : ofLines (first + 1) rest with
              | error e =>
                  simp only [Except.map, reduceCtorEq, Except.ok.injEq, false_iff]
                  rintro ⟨o', os', -, htail, -⟩
                  cases hrest.symm.trans (ih.mpr htail)
              | ok os' =>
                  simp only [Except.map, Except.ok.injEq]
                  constructor
                  · rintro rfl
                    exact ⟨o, os', rfl, ih.mp hrest, rfl⟩
                  · rintro ⟨o', os'', rfl, htail, rfl⟩
                    rw [Except.ok.inj (hrest.symm.trans (ih.mpr htail))]

/-- A harmless line adds what it holds to what the other lines hold. -/
theorem Harmless.ofLines_cons (h : Harmless line) (first : Nat) (xs : List (List Char)) :
    ∃ held, ofLines first (line :: xs) = (ofLines (first + 1) xs).map (held ++ ·) := by
  cases hblank : isBlankLine line with
  | true =>
      refine ⟨[], ?_⟩
      rw [ofLines_blank hblank]
      cases ofLines (first + 1) xs <;> rfl
  | false =>
      rcases h with hskip | ⟨o, hline⟩
      · rw [hblank] at hskip
        cases hskip
      · exact ⟨[o], ofLines_good hblank hline first xs⟩

/-- Harmless lines are accepted. -/
theorem exists_ofLines_of_harmless (h : ∀ l ∈ xs, Harmless l) (first : Nat) :
    ∃ os, ofLines first xs = .ok os := by
  induction xs generalizing first with
  | nil => exact ⟨[], rfl⟩
  | cons line rest ih =>
      obtain ⟨hline, hrest⟩ := List.forall_mem_cons.mp h
      obtain ⟨os, hos⟩ := ih hrest (first + 1)
      obtain ⟨held, hheld⟩ := hline.ofLines_cons first rest
      exact ⟨held ++ os, by rw [hheld, hos]; rfl⟩

/-- Behind a harmless line a fault is that of the rest. -/
theorem Harmless.ofLines_cons_eq_error (h : Harmless line)
    (herror : ofLines first (line :: xs) = .error e) :
    ofLines (first + 1) xs = .error e := by
  obtain ⟨held, hheld⟩ := h.ofLines_cons first xs
  rw [hheld] at herror
  cases hrest : ofLines (first + 1) xs with
  | ok os =>
      rw [hrest] at herror
      cases herror
  | error e' =>
      rw [hrest] at herror
      exact herror

theorem exists_cause_of_not_harmless (h : ¬Harmless line) :
    isBlankLine line = false ∧ ∃ cause, ofLine line = .error cause := by
  rw [Harmless, not_or, Bool.not_eq_true] at h
  obtain ⟨hblank, hnone⟩ := h
  cases hline : ofLine line with
  | ok o => exact absurd ⟨o, hline⟩ hnone
  | error cause => exact ⟨hblank, cause, rfl⟩

/-- Where lines are refused there is a first bad one, and its fault is told. -/
theorem exists_first_bad (h : ofLines first xs = .error e) :
    ∃ earlier line later, xs = earlier ++ line :: later ∧ (∀ l ∈ earlier, Harmless l) ∧
      isBlankLine line = false ∧ ofLine line = .error e.cause ∧
      e.line = first + earlier.length := by
  induction xs generalizing first with
  | nil => cases h
  | cons line rest ih =>
      by_cases hharmless : Harmless line
      · obtain ⟨earlier, bad, later, rfl, hearlier, hblank, hbad, hnumber⟩ :=
          ih (hharmless.ofLines_cons_eq_error h)
        have hplace : e.line = first + (line :: earlier).length := by
          rw [hnumber, List.length_cons]
          omega
        exact ⟨line :: earlier, bad, later, rfl, List.forall_mem_cons.mpr ⟨hharmless, hearlier⟩,
          hblank, hbad, hplace⟩
      · obtain ⟨hblank, cause, hline⟩ := exists_cause_of_not_harmless hharmless
        rw [ofLines_bad hblank hline] at h
        obtain rfl := Except.error.inj h
        exact ⟨[], line, rest, rfl, by simp, hblank, hline, rfl⟩

/-- Lines are refused for the first of them that is bad. -/
theorem ofLines_eq_error_iff : ofLines first xs = .error e ↔
    ∃ earlier line later, xs = earlier ++ line :: later ∧ (∀ l ∈ earlier, Harmless l) ∧
      isBlankLine line = false ∧ ofLine line = .error e.cause ∧
      e.line = first + earlier.length := by
  refine ⟨exists_first_bad, ?_⟩
  rintro ⟨earlier, line, later, rfl, hearlier, hblank, hline, hnumber⟩
  obtain ⟨os, hos⟩ := exists_ofLines_of_harmless hearlier first
  rw [ofLines_append, hos]
  change (ofLines (first + earlier.length) (line :: later)).map (os ++ ·) = .error e
  rw [ofLines_bad hblank hline, ← hnumber]
  rfl

/-! ### Feeds -/

/-- What is told of a fault is the number of its line and then its cause. -/
theorem Fault.message_of_line {number : Nat} (h : e.line = number) :
    e.message = "line " ++ toString number ++ ": " ++ e.cause.message := by
  rw [Fault.message, h]

/-- Observations are those of the lines of a text that are not blank, in the order of the lines. -/
def Lists (text : String) (os : List Observation) : Prop :=
  List.Forall₂ (fun line o => ofLine line = .ok o)
    ((Text.lines text.toList).filter (fun line => !isBlankLine line)) os

/-- A fault is that of the first bad line of a text.  The line stands behind lines that are harmless
and has one more than the number of line feeds before it as its number, and what is told of it
begins with that number. -/
def Blames (text : String) (e : Fault) : Prop :=
  ∃ before line, Text.LineAt before line text.toList ∧
    (∀ l ∈ Text.lines before, Harmless l) ∧ isBlankLine line = false ∧
    ofLine line = .error e.cause ∧ e.line = before.count '\n' + 1 ∧
    e.message = "line " ++ toString (before.count '\n' + 1) ++ ": " ++ e.cause.message

/-- **Accepted feeds** have one observation for each line that is not blank. -/
theorem parse_eq_ok_iff : parse text = .ok os ↔ Lists text os :=
  ofLines_eq_ok_iff

/-- **Refused feeds** are refused for their first bad line. -/
theorem parse_eq_error_iff : parse text = .error e ↔ Blames text e := by
  rw [parse, ofLines_eq_error_iff]
  constructor
  · rintro ⟨earlier, line, later, hlines, hearlier, hblank, hline, hnumber⟩
    obtain ⟨before, hat, rfl⟩ := Text.exists_lineAt_of_lines_eq hlines
    have hplace : e.line = before.count '\n' + 1 := by
      rw [hnumber, Text.length_lines hat.endsLine, Nat.add_comm]
    exact ⟨before, line, hat, hearlier, hblank, hline, hplace, Fault.message_of_line hplace⟩
  · rintro ⟨before, line, hat, hearlier, hblank, hline, hnumber, -⟩
    obtain ⟨later, hlines⟩ := hat.lines_eq
    refine ⟨_, line, later, hlines, hearlier, hblank, hline, ?_⟩
    rw [hnumber, Text.length_lines hat.endsLine, Nat.add_comm]

/-- Behind a feed that leaves no line open, another feed is read with later numbers. -/
theorem parse_append_eq (ha : Text.EndsLine a.toList) (b : String) :
    parse (a ++ b) = parse a >>= fun os =>
      ((parse b).mapError (Fault.behind (a.toList.count '\n'))).map (os ++ ·) := by
  have hlines : Text.lines (a ++ b).toList = Text.lines a.toList ++ Text.lines b.toList := by
    rw [String.toList_append, Text.lines_append ha]
  have hnumber : 1 + (Text.lines a.toList).length = a.toList.count '\n' + 1 := by
    rw [Text.length_lines ha, Nat.add_comm]
  calc parse (a ++ b)
      = ofLines 1 (Text.lines a.toList ++ Text.lines b.toList) := by rw [parse, hlines]
    _ = parse a >>= fun os =>
          (ofLines (a.toList.count '\n' + 1) (Text.lines b.toList)).map (os ++ ·) := by
      rw [ofLines_append, hnumber]
      rfl
    _ = parse a >>= fun os =>
          ((parse b).mapError (Fault.behind (a.toList.count '\n'))).map (os ++ ·) := by
      rw [ofLines_add]
      rfl

/-- How the reading of two feeds, one behind the other, follows from the reading of each. -/
structure Composes (a b : String) : Prop where
  first_fault : ∀ e, parse a = .error e → parse (a ++ b) = .error e
  /-- The line of a fault of the second feed is counted on from those of the first, blank ones
  included. -/
  second_fault : ∀ os e, parse a = .ok os → parse b = .error e →
    parse (a ++ b) = .error ⟨a.toList.count '\n' + e.line, e.cause⟩
  second_message : ∀ os e e', parse a = .ok os → parse b = .error e → parse (a ++ b) = .error e' →
    e'.message = "line " ++ toString (a.toList.count '\n' + e.line) ++ ": " ++ e.cause.message
  observations : ∀ os os', parse a = .ok os → parse b = .ok os' → parse (a ++ b) = .ok (os ++ os')

/-- **Feeds put together.**  Behind a feed that is empty or ends with a line feed, another feed is
read as it is read alone.  Every feed is accepted with one observation for each line that is not
blank, in the order of the lines, or refused for its first bad line by the number of that line. -/
theorem parse_append (ha : Text.EndsLine a.toList) (b : String) :
    Composes a b ∧ ∀ text, (∀ os, parse text = .ok os ↔ Lists text os) ∧
      ∀ e, parse text = .error e ↔ Blames text e := by
  have hfault : ∀ os e, parse a = .ok os → parse b = .error e →
      parse (a ++ b) = .error (e.behind (a.toList.count '\n')) := by
    intro os e hfirst hsecond
    rw [parse_append_eq ha, hfirst, hsecond]
    rfl
  refine ⟨?_, fun text => ⟨fun os => parse_eq_ok_iff, fun e => parse_eq_error_iff⟩⟩
  constructor
  case first_fault =>
    intro e hfirst
    rw [parse_append_eq ha, hfirst]
    rfl
  case second_fault => exact hfault
  case second_message =>
    intro os e e' hfirst hsecond hboth
    obtain rfl := Except.error.inj ((hfault os e hfirst hsecond).symm.trans hboth)
    exact Fault.message_of_line rfl
  case observations =>
    intro os os' hfirst hsecond
    rw [parse_append_eq ha, hfirst, hsecond]
    rfl

/-- A feed with one price between blank lines. -/
def spacedFeed : String :=
  "\n0\t1.0\t2022-06-07T00:00:00Z\ta\tb\tc\r\n \t\r\n"

/-- A feed whose second line has too few fields and whose third one is quoted. -/
def brokenFeed : String :=
  "\nx\ty\n\"z\""

/-- Behind the three lines of the spaced feed, the second line of the broken one is line five. -/
theorem parse_append_spacedFeed :
    Text.EndsLine spacedFeed.toList ∧
      parse spacedFeed = .ok [⟨⟨1654560000, 0⟩, 1.0, ⟨"a", "b", "c"⟩⟩] ∧
      parse brokenFeed = .error ⟨2, .fewFields 2⟩ ∧
      parse (spacedFeed ++ brokenFeed) = .error ⟨5, .fewFields 2⟩ := by
  have hends : Text.EndsLine spacedFeed.toList := by decide +kernel
  have hspaced : parse spacedFeed = .ok [⟨⟨1654560000, 0⟩, 1.0, ⟨"a", "b", "c"⟩⟩] := rfl
  have hbroken : parse brokenFeed = .error ⟨2, .fewFields 2⟩ := rfl
  exact ⟨hends, hspaced, hbroken,
    (parse_append hends brokenFeed).1.second_fault _ _ hspaced hbroken⟩

end SpotForecast.Feed
