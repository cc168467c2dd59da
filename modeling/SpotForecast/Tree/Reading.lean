import SpotForecast.Json.Writer
import SpotForecast.Lags.Name
import SpotForecast.Tree.Basic

/-!
# Reading tree definitions

A definition is a JSON value.  The tree stands at `cells`, `tree`, `init` if that path exists, and
is the whole value otherwise.

* A number is a leaf.
* An object with a `field` is a split: its `operator` is `<=`, its `field` is the name or the index
  of a feature, its `value` is a number or an object whose only member `double` is one, and its
  `pass` and `fail` are nodes.
* An object without a `field` and with exactly one member, under any key, stands for the value of
  that member.

`Tree.ofJson` reads a node.  The fault is that of the first defect: in a split the operator, the
field, the value, the whole `pass` side and then the `fail` side.
-/

namespace SpotForecast

namespace Tree

/-- Why a value is no tree.  Each defect is named for the part of a node that is at fault. -/
inductive Defect where
  | leafValue (n : Json.Number)
  | notUnion
  | unexpected (v : Json)
  | noOperator
  | operator (text : String)
  | featureName (text : String)
  | featureIndex (n : Json.Number)
  | field
  | noValue
  | noBranch (key : String)

/-- The text in which a defect is reported. -/
def Defect.text : Defect → String
  | .leafValue n => "invalid leaf value: " ++ String.ofList n.text
  | .notUnion => "node must have a 'field' key or be a single-key union"
  | .unexpected v => "unexpected node value: " ++ v.compact
  | .noOperator => "missing 'operator'"
  | .operator text => text
  | .featureName text => "invalid feature name: " ++ text
  | .featureIndex n => "invalid feature index: " ++ String.ofList n.text
  | .field => "invalid 'field'"
  | .noValue => "missing numeric 'value'"
  | .noBranch key => "missing '" ++ key ++ "' branch"

/-- A defect as a fault of a forecast. -/
def Defect.toFault (d : Defect) : ForecastFault :=
  match d with
  | .operator text => .unsupportedOperator text
  | _ => .invalidTree d.text

/-- The only operator that a split may have. -/
def lessOrEqual : String := "<="

/-- Checks the operator of a split. -/
def checkOperator (members : List (String × Json)) : Except Defect Unit :=
  match Json.lookup "operator" members with
  | some (.string op) => if op = lessOrEqual then .ok () else .error (.operator op)
  | _ => .error .noOperator

/-- The index of the feature that a split asks for. -/
def readField (field : Json) : Except Defect Nat :=
  match field with
  | .string text =>
    match Lags.index? text with
    | some i => .ok i
    | none => .error (.featureName text)
  | .number n =>
    match n.toIndex? with
    | some i => .ok i
    | none => .error (.featureIndex n)
  | _ => .error .field

/-- A threshold, bare or as the only member `double` of an object. -/
def threshold? : Json → Option Float
  | .number n => n.toFloat?
  | .object [("double", .number n)] => n.toFloat?
  | _ => none

/-- The threshold of a split. -/
def readThreshold (members : List (String × Json)) : Except Defect Float :=
  match (Json.lookup "value" members).bind threshold? with
  | some x => .ok x
  | none => .error .noValue

/-- The tree that a node denotes. -/
def ofJson (v : Json) : Except Defect Tree :=
  match v with
  | .number n =>
    match n.toFloat? with
    | some x => .ok (.leaf x)
    | none => .error (.leafValue n)
  | .object members =>
    match Json.lookup "field" members with
    | some field =>
      match checkOperator members with
      | .error d => .error d
      | .ok () =>
        match readField field with
        | .error d => .error d
        | .ok feature =>
          match readThreshold members with
          | .error d => .error d
          | .ok threshold =>
            match hp : Json.lookup "pass" members with
            | none => .error (.noBranch "pass")
            | some p =>
              have := Json.sizeOf_lt_of_lookup hp
              match ofJson p with
              | .error d => .error d
              | .ok pass =>
                match hf : Json.lookup "fail" members with
                | none => .error (.noBranch "fail")
                | some f =>
                  have := Json.sizeOf_lt_of_lookup hf
                  match ofJson f with
                  | .error d => .error d
                  | .ok fail => .ok (.split feature threshold pass fail)
    | none =>
      match members with
      | [(_, inner)] => ofJson inner
      | _ => .error .notUnion
  | v => .error (.unexpected v)
termination_by sizeOf v
decreasing_by all_goals (simp; omega)

/-- The path to the tree in a whole document. -/
def documentPath : List String := ["cells", "tree", "init"]

/-- The part of a definition at which the tree stands. -/
def start (definition : Json) : Json :=
  (Json.path? documentPath definition).getD definition

end Tree

/-- The tree that a definition denotes, under a name. -/
def DecisionTree.load (identifier : String) (definition : Json) :
    Except ForecastFault DecisionTree :=
  match Tree.ofJson (Tree.start definition) with
  | .ok root => .ok ⟨identifier, root⟩
  | .error d => .error d.toFault

end SpotForecast
