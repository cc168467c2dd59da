import Mathlib.Algebra.GroupWithZero.Nat
import SpotForecast.Proofs.Feed.Composition

/-!
# Line ends and blank lines

Feeds come from other systems, which end lines in their own way and leave lines blank.  For the
reading of a feed neither matters.

* `Text.withReturns` puts a carriage return in front of every line feed.  The lines of a text that
  has none of its own stay as they are (`Text.lines_withReturns`).
* `Spaced` puts lines of blanks in front of any lines of a text, and behind a last line that is
  closed.  They are passed over and counted, so all that can change is the number of the line that
  a fault names (`ofLines_spaced`).

`parse_reformatted` says both of a whole feed.
-/

namespace SpotForecast

namespace Text

variable {text line : List Char}

/-- A text with a carriage return in front of every line feed. -/
def withReturns (text : List Char) : List Char :=
  text.flatMap (fun c => if c = '\n' then ['\r', '\n'] else [c])

theorem withReturns_of_notMem (h : '\n' ∉ text) : withReturns text = text := by
  induction text with
  | nil => rfl
  | cons c rest ih =>
      rw [List.mem_cons, not_or] at h
      rw [withReturns, List.flatMap_cons, if_neg (Ne.symm h.1), ← withReturns, ih h.2]
      rfl

theorem withReturns_append (xs ys : List Char) :
    withReturns (xs ++ ys) = withReturns xs ++ withReturns ys :=
  List.flatMap_append

theorem dropReturn_of_notMem (h : '\r' ∉ line) : dropReturn line = line := by
  rw [dropReturn, if_neg fun hlast => h (List.mem_of_getLast? hlast)]

theorem dropReturn_append_return (line : List Char) : dropReturn (line ++ ['\r']) = line := by
  simp [dropReturn]

/-- **Carriage returns in front of line feeds** are no part of any line. -/
theorem lines_withReturns (h : '\r' ∉ text) : lines (withReturns text) = lines text := by
  induction text using induction_on_lines with
  | last body hbody => rw [withReturns_of_notMem hbody]
  | closed body rest hbody ih =>
      rw [List.mem_append, List.mem_cons, not_or, not_or] at h
      obtain ⟨hline, -, hrest⟩ := h
      have hclosed : withReturns (body ++ '\n' :: rest) =
          body ++ ['\r'] ++ '\n' :: withReturns rest := by
        rw [withReturns_append, withReturns_of_notMem hbody, List.append_assoc]
        rfl
      have hreturn : '\n' ∉ body ++ ['\r'] := by simpa using hbody
      have hdropped : dropReturn (body ++ ['\r']) = dropReturn body := by
        rw [dropReturn_append_return, dropReturn_of_notMem hline]
      rw [hclosed, lines_cons_of_notMem hreturn, lines_cons_of_notMem hbody, hdropped, ih hrest]

end Text

namespace Feed

open Text

variable {text text' line : List Char} {gap xs xs' : List (List Char)} {counts : List Nat}

/-- A line without anything but blanks.  Carriage returns and tabs are blanks too. -/
def IsGapLine (line : List Char) : Prop :=
  '\n' ∉ line ∧ isBlankLine line = true

instance (line : List Char) : Decidable (IsGapLine line) :=
  inferInstanceAs (Decidable (_ ∧ _))

/-- The second text has the lines of the first one in their order and, in front of any of them or
behind a last line that is closed, lines of blanks.  There is a count for each line of the first
text: how many lines of blanks stand right before it. -/
inductive Spaced : List Char → List Char → List Nat → Prop where
  | done {gap : List (List Char)} (hgap : ∀ l ∈ gap, IsGapLine l) : Spaced [] (closed gap) []
  /-- In front of a last line that is not closed. -/
  | last {gap : List (List Char)} {body : List Char} (hgap : ∀ l ∈ gap, IsGapLine l)
      (hbody : '\n' ∉ body) (hne : body ≠ []) : Spaced body (closed gap ++ body) [gap.length]
  | line {gap : List (List Char)} {body rest rest' : List Char} {counts : List Nat}
      (hgap : ∀ l ∈ gap, IsGapLine l) (hbody : '\n' ∉ body) (hrest : Spaced rest rest' counts) :
      Spaced (body ++ '\n' :: rest) (closed gap ++ (body ++ '\n' :: rest'))
        (gap.length :: counts)

/-- A fault with the number that its line has among lines of blanks. -/
def Fault.spaced (counts : List Nat) (e : Fault) : Fault :=
  ⟨e.line + (counts.take e.line).sum, e.cause⟩

theorem isBlankLine_dropReturn (h : isBlankLine line = true) :
    isBlankLine (dropReturn line) = true := by
  rw [isBlankLine, List.all_eq_true] at h ⊢
  exact fun c hc => h c (mem_of_mem_dropReturn hc)

/-- Lines of blanks are passed over and counted. -/
theorem ofLines_closed (h : ∀ l ∈ gap, IsGapLine l) (first : Nat) (text : List Char) :
    ofLines first (lines (closed gap ++ text)) = ofLines (first + gap.length) (lines text) := by
  rw [lines_closed fun l hl => (h l hl).1]
  induction gap generalizing first with
  | nil => rfl
  | cons line rest ih =>
      obtain ⟨hline, hrest⟩ := List.forall_mem_cons.mp h
      have hnumber : first + (line :: rest).length = first + 1 + rest.length := by
        rw [List.length_cons]
        omega
      rw [List.map_cons, List.cons_append, ofLines_blank (isBlankLine_dropReturn hline.2),
        ih hrest, hnumber]

/-- A fault behind a line counts the lines of blanks before that line too. -/
theorem behind_spaced (count : Nat) (counts : List Nat) (e : Fault) :
    (e.spaced counts).behind (count + 1) = (e.behind 1).spaced (count :: counts) := by
  have hsum : ((count :: counts).take (1 + e.line)).sum = count + (counts.take e.line).sum := by
    rw [Nat.add_comm, List.take_succ_cons, List.sum_cons]
  simp only [Fault.spaced, Fault.behind, hsum, Fault.mk.injEq, and_true]
  omega

/-- **One line.**  If what stands behind a line is read alike, so is the line with what stands
behind it, and a fault of the line itself counts the lines of blanks before it. -/
theorem ofLines_cons_spaced (count : Nat) (counts : List Nat) (line : List Char)
    (h : ofLines 1 xs' = (ofLines 1 xs).mapError (Fault.spaced counts)) :
    ofLines (1 + count) (line :: xs') =
      (ofLines 1 (line :: xs)).mapError (Fault.spaced (count :: counts)) := by
  have hbehind : ofLines (1 + count + 1) xs' =
      (ofLines (1 + 1) xs).mapError (Fault.spaced (count :: counts)) := by
    rw [Nat.add_comm 1 count, ofLines_add, h, ofLines_add]
    cases ofLines 1 xs with
    | ok os => rfl
    | error e => exact congrArg Except.error (behind_spaced count counts e)
  cases hblank : isBlankLine line with
  | true => rw [ofLines_blank hblank, ofLines_blank hblank, hbehind]
  | false =>
      cases hline : ofLine line with
      | error cause =>
          rw [ofLines_bad hblank hline, ofLines_bad hblank hline]
          simp [Except.mapError, Fault.spaced]
      | ok o =>
          rw [ofLines_good hblank hline, ofLines_good hblank hline, hbehind]
          cases ofLines (1 + 1) xs <;> rfl

/-- **Line by line.**  Lines of blanks change the number in a fault and nothing else. -/
theorem ofLines_spaced (h : Spaced text text' counts) :
    ofLines 1 (lines text') = (ofLines 1 (lines text)).mapError (Fault.spaced counts) := by
  induction h with
  | done hgap =>
      have hread := ofLines_closed hgap 1 []
      rw [List.append_nil] at hread
      rw [hread]
      rfl
  | last hgap hbody hne =>
      rw [ofLines_closed hgap, lines_of_notMem hbody hne]
      exact ofLines_cons_spaced _ [] _ rfl
  | line hgap hbody hrest ih =>
      rw [ofLines_closed hgap, lines_cons_of_notMem hbody, lines_cons_of_notMem hbody]
      exact ofLines_cons_spaced _ _ _ ih

/-- How a feed is read that has lines of blanks more than another one. -/
structure ReadsSpaced (text text' : String) (counts : List Nat) : Prop where
  observations : ∀ os, parse text = .ok os → parse text' = .ok os
  /-- A fault keeps its cause, and the number of its line grows by that of the lines of blanks in
  front of that line. -/
  fault : ∀ e, parse text = .error e →
    parse text' = .error ⟨e.line + (counts.take e.line).sum, e.cause⟩
  message : ∀ e e', parse text = .error e → parse text' = .error e' →
    e'.message =
      "line " ++ toString (e.line + (counts.take e.line).sum) ++ ": " ++ e.cause.message

/-- **Line ends and blank lines.**  A feed without carriage returns is read alike, with the same
observations or the same fault, if one is put in front of every line feed.  In every feed, lines of
blanks put in front of lines, or behind a last line that is closed, change nothing but the number
of the line that a fault names. -/
theorem parse_reformatted (text : String) :
    ('\r' ∉ text.toList → parse (String.ofList (withReturns text.toList)) = parse text) ∧
      ∀ text' counts, Spaced text.toList text'.toList counts → ReadsSpaced text text' counts := by
  constructor
  · intro hreturn
    rw [parse, String.toList_ofList, lines_withReturns hreturn, parse]
  · intro text' counts hspaced
    have hread : parse text' = (parse text).mapError (Fault.spaced counts) := ofLines_spaced hspaced
    have hfault : ∀ e, parse text = .error e → parse text' = .error (e.spaced counts) := by
      intro e he
      rw [hread, he]
      rfl
    constructor
    case observations =>
      intro os hos
      rw [hread, hos]
      rfl
    case fault => exact hfault
    case message =>
      intro e e' he he'
      obtain rfl := Except.error.inj ((hfault e he).symm.trans he')
      exact Fault.message_of_line rfl

def pricedLine : List Char :=
  "0\t1.0\t2022-06-07T00:00:00Z\ta\tb\tc".toList

/-- A feed whose second line has too few fields. -/
def shortFeed : String :=
  String.ofList (pricedLine ++ '\n' :: ['x', '\t', 'y'])

/-- The short feed with two lines of blanks in front of its first line and one in front of its
second. -/
def airyFeed : String :=
  String.ofList (closed [[' ', '\t', '\r'], ['\u3000']] ++
    (pricedLine ++ '\n' :: (closed [[]] ++ ['x', '\t', 'y'])))

theorem spaced_airyFeed : Spaced shortFeed.toList airyFeed.toList [2, 1] := by
  rw [shortFeed, airyFeed, String.toList_ofList, String.toList_ofList]
  exact .line (by decide +kernel) (by decide) (.last (by decide +kernel) (by decide) (by decide))

/-- The short feed is refused for its second line, which is the fifth of the airy feed. -/
theorem parse_reformatted_shortFeed :
    '\r' ∉ shortFeed.toList ∧ Spaced shortFeed.toList airyFeed.toList [2, 1] ∧
      parse (String.ofList (withReturns shortFeed.toList)) = .error ⟨2, .fewFields 2⟩ ∧
      parse airyFeed = .error ⟨5, .fewFields 2⟩ := by
  have hreturn : '\r' ∉ shortFeed.toList := by decide
  have hshort : parse shortFeed = .error ⟨2, .fewFields 2⟩ := rfl
  obtain ⟨hreturns, hspaced⟩ := parse_reformatted shortFeed
  exact ⟨hreturn, spaced_airyFeed, (hreturns hreturn).trans hshort,
    (hspaced airyFeed [2, 1] spaced_airyFeed).fault _ hshort⟩

end Feed

end SpotForecast
