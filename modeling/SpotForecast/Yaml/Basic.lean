import SpotForecast.Decimal.Reading
import SpotForecast.Decimal.Width
import SpotForecast.Text.Radix

/-!
# YAML values

* `Yaml.ofPlain` says what a plain scalar denotes: nothing, a truth value, an integer, a double, or
  else its own text.
* `Yaml.ofTagged` is the value of a plain scalar whose tag names a kind of value; a scalar that is
  not of that kind is void.
* `Yaml.pairs?` makes the members of a mapping out of its nodes, keys and values in turn.
-/

namespace SpotForecast

/-- A YAML value. -/
inductive Yaml where
  | null
  /-- A scalar that is not of the kind that its tag names, or a reference to a node from inside
  it. -/
  | void
  | bool (b : Bool)
  | integer (i : Int)
  /-- A double, as it is written. -/
  | real (text : String)
  | string (s : String)
  | sequence (items : List Yaml)
  | mapping (members : List (Yaml × Yaml))
deriving BEq

namespace Yaml

/-- Whether a value is void. -/
def isVoid : Yaml → Bool
  | void => true
  | _ => false

/-- The digits of an integer in a base, perhaps with a sign, as an integer of 64 bits. -/
def inBase? (base : Nat) (cs : List Char) : Option Int := do
  let i : Int ← match cs with
    | '-' :: digits => (Text.number? base digits).map (fun n => -(n : Int))
    | '+' :: digits => (Text.number? base digits).map (fun n => (n : Int))
    | digits => (Text.number? base digits).map (fun n => (n : Int))
  if Decimal.isSigned64 i then some i else none

/-- A decimal integer of 64 bits. -/
def decimal? (cs : List Char) : Option Int :=
  (Decimal.readInteger cs).bind (fun i => if Decimal.isSigned64 i then some i else none)

/-- The integer that a text denotes. -/
def integer? (cs : List Char) : Option Int :=
  match cs with
  | '0' :: 'x' :: digits => inBase? 16 digits
  | '0' :: 'o' :: digits => inBase? 8 digits
  | '+' :: rest => decimal? rest
  | _ => decimal? cs

/-- The words for doubles without digits. -/
def realWords : List String :=
  [".inf", ".Inf", ".INF", "+.inf", "+.Inf", "+.INF", "-.inf", "-.Inf", "-.INF", ".nan", "NaN",
    ".NAN"]

/-- Whether a text denotes a double. -/
def isReal (text : String) : Bool :=
  text ∈ realWords || (text.toList.any Decimal.isDigit && (Decimal.read text.toList).isOk)

/-- Whether a text stands for nothing. -/
def isNull (text : String) : Bool :=
  text == "~" || text == "null"

/-- The truth value that a text denotes. -/
def bool? (text : String) : Option Bool :=
  if text = "true" then some true else if text = "false" then some false else none

/-- What a plain scalar denotes. -/
def ofPlain (text : String) : Yaml :=
  match integer? text.toList with
  | some i => integer i
  | none =>
    if isNull text then null
    else match bool? text with
      | some b => bool b
      | none => if isReal text then real text else string text

/-- What a plain scalar with a tag for a kind of value denotes. -/
def ofTagged (kind text : String) : Yaml :=
  if kind = "bool" then ((bool? text).map bool).getD void
  else if kind = "int" then ((decimal? text.toList).map integer).getD void
  else if kind = "float" then if isReal text then real text else void
  else if kind = "null" then if isNull text then null else void
  else string text

/-- The members that nodes make up after those before them, and a key whose value is still to come.
A void node is no key: the next node takes its place.  No key may come twice. -/
def pairsFrom (done : List (Yaml × Yaml)) (key : Option Yaml) :
    List Yaml → Option (List (Yaml × Yaml))
  | [] => some done
  | node :: rest =>
    match key with
    | none => pairsFrom done (if node.isVoid then none else some node) rest
    | some k =>
      if done.any (fun m => m.1 == k) then none else pairsFrom (done ++ [(k, node)]) none rest

/-- The members of a mapping with these nodes, keys and values in turn. -/
def pairs? (nodes : List Yaml) : Option (List (Yaml × Yaml)) :=
  pairsFrom [] none nodes

end Yaml

end SpotForecast
