import SpotForecast.Json.Token

/-!
# Reading JSON

`Json.written? text` reads what is written in a text.  Its tokens drive a machine with a stack of
the arrays and objects that are still open.  The machine takes one token per step, so it always
ends, and it accepts only if the text ends where the value does.

`Json.parse depth text` is the value that is denoted, and `Json.document` is the form in which
stored documents are read: at most `documentDepth` levels deep, with members in the order of their
keys.
-/

namespace SpotForecast.Json

/-- An array or object that is still open. -/
inductive Open where
  /-- An array with the items read so far, the last one first. -/
  | items (done : List Written)
  | members (done : List (Option String × Written)) (key : Option String)

/-- What the machine expects. -/
inductive Expect where
  | value
  | firstItem
  | firstKey
  | key (done : List (Option String × Written))
  | colon (done : List (Option String × Written)) (key : Option String)
  | next (w : Written)

/-- What the tokens complete, given what is expected and what is still open. -/
def run : Expect → List Open → List Token → Option Written
  | .next w, stack, [] => if stack.isEmpty then some w else none
  | _, _, [] => none
  | expect, stack, token :: rest =>
    match expect, token with
    | .value, .scalar w | .firstItem, .scalar w => run (.next w) stack rest
    | .value, .text s | .firstItem, .text s => run (.next (.string s)) stack rest
    | .value, .openArray | .firstItem, .openArray => run .firstItem (.items [] :: stack) rest
    | .value, .openObject | .firstItem, .openObject =>
      run .firstKey (.members [] none :: stack) rest
    | .firstItem, .closeArray => run (.next (.array [])) stack.tail rest
    | .firstKey, .text k => run (.colon [] k) stack.tail rest
    | .firstKey, .closeObject => run (.next (.object [])) stack.tail rest
    | .key done, .text k => run (.colon done k) stack rest
    | .colon done k, .colon => run .value (.members done k :: stack) rest
    | .next w, .comma =>
      match stack with
      | .items done :: outer => run .value (.items (w :: done) :: outer) rest
      | .members done k :: outer => run (.key ((k, w) :: done)) outer rest
      | [] => none
    | .next w, .closeArray =>
      match stack with
      | .items done :: outer => run (.next (.array (w :: done).reverse)) outer rest
      | _ => none
    | .next w, .closeObject =>
      match stack with
      | .members done k :: outer => run (.next (.object ((k, w) :: done).reverse)) outer rest
      | _ => none
    | _, _ => none

/-- What is written in a text. -/
def written? (text : String) : Option Written :=
  (tokens text.toList).bind (run .value [])

/-- The value that a text denotes, with the members of its objects as they are written and at most
`depth` arrays and objects inside each other. -/
def parse (depth : Nat) (text : String) : Option Json :=
  (written? text).bind (Written.value? depth)

/-- The value of a stored document. -/
def document (text : String) : Option Json :=
  (parse documentDepth text).map sorted

end SpotForecast.Json
