import SpotForecast.Commands

/-!
# What the commands print

Forecasts are printed as JSON over several lines and faults as JSON on one line.  Everything else
is plain text; columns are filled up by the number of characters.
-/

namespace SpotForecast.Printout

open Commands

/-- A text filled up with blanks on the right. -/
def column (width : Nat) (text : String) : String :=
  text ++ String.ofList (List.replicate (width - text.length) ' ')

/-- The width of the column of resource types. -/
def typeWidth : Nat := 28

/-- The width of the column of descriptions. -/
def descriptionWidth : Nat := 20

/-- The width of the column of zones. -/
def zoneWidth : Nat := 16

/-- A line of the table of categories. -/
def categoryLine (resourceType description zone : String) : String :=
  column typeWidth resourceType ++ " " ++ column descriptionWidth description ++ " " ++
    column zoneWidth zone ++ "\n"

/-- The table of categories. -/
def categories (rows : List (String × Option Category)) : String :=
  let line := fun (name, key) => match key with
    | some (c : Category) => categoryLine c.resourceType c.description c.zone
    | none => column typeWidth name ++ " (malformed key)\n"
  categoryLine "RESOURCE" "DESCRIPTION" "ZONE" ++
    String.ofList (List.replicate (typeWidth + descriptionWidth + zoneWidth + 2) '-') ++ "\n" ++
    String.join (rows.map line) ++ "\n총 " ++ toString rows.length ++ "개 카테고리\n"

/-- The number of digits after the point of the mean. -/
def meanPlaces : Nat := 4

/-- The report on lag features. -/
def lags (numLags : Nat) (report : LagReport) (table : String) : String :=
  table ++ "\n직전 평균 (" ++ toString numLags ++ "행): " ++
    String.ofList (Decimal.fixed meanPlaces report.rollingMean) ++ "\n"

/-- The features that a tree asks for. -/
def features (required : Nat) : String :=
  if required = 0 then "없음" else Lags.name 0 ++ " ~ " ++ Lags.name (required - 1)

/-- The summary of a tree. -/
def tree (numLags : Nat) (t : TreeSummary) : String :=
  "트리: " ++ t.identifier ++ "\n  깊이: " ++ toString t.depth ++ "\n  리프 수: " ++
    toString t.leaves ++ "\n  참조 feature: " ++ features t.requiredFeatures ++ "\n" ++
    (if t.compatible then "  ✅ num_lags=" ++ toString numLags ++ "로 평가 가능\n"
      else "  ❌ num_lags=" ++ toString numLags ++ "보다 많은 feature를 참조합니다\n")

/-- The outcome for a category. -/
def outcome : Outcome → String
  | (_, .ok f) => f.toJson.pretty ++ "\n"
  | (category, .error text) =>
    (Json.object [("category", .string category), ("error", .string text)]).compact ++ "\n"

end SpotForecast.Printout
