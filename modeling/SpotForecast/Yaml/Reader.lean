import SpotForecast.Yaml.Basic
import SpotForecast.Yaml.Token

/-!
# Reading YAML

`Yaml.document?` reads a text that holds at most one document: its value, or nothing if there is
none.

A node may have a tag and an anchor before it; a reference stands for the node of its anchor, which
has to come first in the text.  Where a node may stand and none does, there is nothing.
-/

namespace SpotForecast.Yaml

/-- The anchors that have been read. -/
structure Anchors where
  names : List (String × Nat)
  /-- The nodes of the numbers, those that have been read completely. -/
  nodes : List (Nat × Yaml)

namespace Anchors

/-- No anchors. -/
def empty : Anchors := ⟨[], []⟩

/-- The anchors with a new one, if a node has one. -/
def declare (name : Option String) (a : Anchors) : Anchors :=
  match name with
  | some name => { a with names := (name, a.names.length) :: a.names }
  | none => a

/-- The anchors after the node of the one with a number has been read. -/
def complete (number : Option Nat) (node : Yaml) (a : Anchors) : Anchors :=
  match number with
  | some n => { a with nodes := (n, node) :: a.nodes }
  | none => a

/-- The node that a reference stands for; it is void inside the node itself. -/
def node? (name : String) (a : Anchors) : Option Yaml :=
  (a.names.lookup name).map (fun n => (a.nodes.lookup n).getD void)

end Anchors

/-- What the handle of the tags for kinds of values stands for. -/
def standardLead : String := "tag:yaml.org,2002:"

/-- What handles stand for. -/
abbrev Handles := List (String × String)

/-- The kind of value that a tag names, if it names one; nothing at all if its handle is unknown. -/
def Handles.kind? (handles : Handles) (t : Tag) : Option (Option String) :=
  let standard (lead : String) := if lead = standardLead then some t.suffix else none
  match handles.lookup t.handle with
  | some lead => some (standard lead)
  | none =>
    if t.handle = "!!" then some (some t.suffix)
    else if 2 ≤ t.handle.length then none
    else some none

/-- The properties of a node: the kind of value that its tag names, if it has a tag, and the name of
its anchor. -/
structure Properties where
  /-- The kind of value that the tag names, if there is a tag and it names one. -/
  tag : Option (Option String)
  anchor : Option String
deriving DecidableEq, Repr

/-- The properties of a node, and the tokens after them. -/
def properties (handles : Handles) : List Token → Option (Properties × List Token)
  | .anchor name :: .tag t :: rest => do pure (⟨some (← handles.kind? t), some name⟩, rest)
  | .tag t :: .anchor name :: rest => do pure (⟨some (← handles.kind? t), some name⟩, rest)
  | .anchor name :: rest => some (⟨none, some name⟩, rest)
  | .tag t :: rest => do pure (⟨some (← handles.kind? t), none⟩, rest)
  | rest => some (⟨none, none⟩, rest)

/-- Whether a node has properties. -/
def Properties.isSome (p : Properties) : Bool :=
  p.tag.isSome || p.anchor.isSome

/-- What a scalar with properties denotes. -/
def Properties.scalar (plain : Bool) (text : String) (p : Properties) : Yaml :=
  if !plain then string text
  else match p.tag with
    | none => ofPlain text
    | some (some kind) => ofTagged kind text
    | some none => string text

/-- What follows a part of a text: the anchors after it, and the tokens behind it. -/
abbrev Rest := Anchors × List Token

/-- Whether a token is one of some that end a node. -/
def isNext (tokens : List Token) (ends : List Token) : Bool :=
  tokens.head?.any (fun t => decide (t ∈ ends))

mutual

/-- A node, and what follows; `block` says that it may be a block, and `bare` that it may be a
sequence without indentation.  Every second step takes a token, so fuel for three steps per token is
never used up. -/
def node (handles : Handles) (block bare : Bool) :
    Nat → Anchors → List Token → Option (Yaml × Rest)
  | 0, _, _ => none
  | fuel + 1, a, ts =>
    match ts with
    | .reference name :: rest => (a.node? name).map (fun v => (v, a, rest))
    | _ => do
      let (p, ts) ← properties handles ts
      let number := p.anchor.map (fun _ => a.names.length)
      let (v, a, rest) ← content handles block bare p fuel (a.declare p.anchor) ts
      pure (v, a.complete number v, rest)

/-- What stands behind the properties of a node, and what follows. -/
def content (handles : Handles) (block bare : Bool) (p : Properties) :
    Nat → Anchors → List Token → Option (Yaml × Rest)
  | 0, _, _ => none
  | fuel + 1, a, ts =>
    let sequenceOf (found : Option (List Yaml × Rest)) : Option (Yaml × Rest) :=
      found.map (fun (vs, a, rest) => (sequence vs, a, rest))
    let mappingOf (found : Option (List Yaml × Rest)) : Option (Yaml × Rest) := do
      let (vs, a, rest) ← found
      pure (mapping (← pairs? vs), a, rest)
    match ts with
    | .scalar plain text :: rest => some (p.scalar plain text, a, rest)
    | .openSequence :: rest => sequenceOf (flowItems handles true fuel a [] rest)
    | .openMapping :: rest => mappingOf (flowMembers handles true fuel a [] rest)
    | .entry :: _ =>
      if bare then sequenceOf (bareItems handles fuel a [] ts)
      else if p.isSome then some (p.scalar true "", a, ts)
      else none
    | .blockSequence :: rest =>
      if block then sequenceOf (blockItems handles fuel a [] rest)
      else if p.isSome then some (p.scalar true "", a, ts)
      else none
    | .blockMapping :: rest =>
      if block then mappingOf (blockMembers handles fuel a [] rest)
      else if p.isSome then some (p.scalar true "", a, ts)
      else none
    | _ => if p.isSome then some (p.scalar true "", a, ts) else none

/-- The items of a sequence by indentation after those that were read, the last one first, and what
follows. -/
def blockItems (handles : Handles) :
    Nat → Anchors → List Yaml → List Token → Option (List Yaml × Rest)
  | 0, _, _, _ => none
  | fuel + 1, a, done, ts => do
    match ts with
    | .blockEnd :: rest => pure (done.reverse, a, rest)
    | .entry :: rest =>
      let (v, a, rest) ←
        if isNext rest [.entry, .blockEnd] then some (null, a, rest)
        else node handles true false fuel a rest
      blockItems handles fuel a (v :: done) rest
    | _ => none

/-- The items of a sequence without indentation after those that were read, the last one first, and
what follows. -/
def bareItems (handles : Handles) :
    Nat → Anchors → List Yaml → List Token → Option (List Yaml × Rest)
  | 0, _, _, _ => none
  | fuel + 1, a, done, ts => do
    match ts with
    | .entry :: rest =>
      let (v, a, rest) ←
        if isNext rest [.entry, .key, .value, .blockEnd] then some (null, a, rest)
        else node handles true false fuel a rest
      bareItems handles fuel a (v :: done) rest
    | _ => pure (done.reverse, a, ts)

/-- The keys and values of a mapping by indentation after those that were read, the last one first,
and what follows. -/
def blockMembers (handles : Handles) :
    Nat → Anchors → List Yaml → List Token → Option (List Yaml × Rest)
  | 0, _, _, _ => none
  | fuel + 1, a, done, ts => do
    let ends : List Token := [.key, .value, .blockEnd]
    let (k, a, ts) ← match ts with
      | .key :: rest =>
        if isNext rest ends then some (some null, a, rest)
        else (node handles true true fuel a rest).map (fun (k, found) => (some k, found))
      | .value :: _ => some (some null, a, ts)
      | .blockEnd :: rest => some (none, a, rest)
      | _ => none
    match k with
    | none => pure (done.reverse, a, ts)
    | some k =>
      let (v, a, ts) ← match ts with
        | .value :: rest =>
          if isNext rest ends then some (null, a, rest) else node handles true true fuel a rest
        | _ => some (null, a, ts)
      blockMembers handles fuel a (v :: k :: done) ts

/-- The items between brackets after those that were read, the last one first, and what follows;
`first` says that there were none. -/
def flowItems (handles : Handles) (first : Bool) :
    Nat → Anchors → List Yaml → List Token → Option (List Yaml × Rest)
  | 0, _, _, _ => none
  | fuel + 1, a, done, ts => do
    let ts ← match ts with
      | .closeSequence :: _ => some ts
      | .comma :: rest => if first then some ts else some rest
      | _ => if first then some ts else none
    match ts with
    | .closeSequence :: rest => pure (done.reverse, a, rest)
    | .key :: rest =>
      let (v, a, rest) ← flowPair handles fuel a rest
      flowItems handles false fuel a (v :: done) rest
    | _ =>
      let (v, a, rest) ← node handles false false fuel a ts
      flowItems handles false fuel a (v :: done) rest

/-- A pair between brackets, which is a mapping by itself, and what follows. -/
def flowPair (handles : Handles) : Nat → Anchors → List Token → Option (Yaml × Rest)
  | 0, _, _ => none
  | fuel + 1, a, ts => do
    let (k, a, ts) ←
      if isNext ts [.value, .comma, .closeSequence] then some (null, a, ts.tail)
      else node handles false false fuel a ts
    let (v, a, ts) ← match ts with
      | .value :: rest =>
        if isNext rest [.comma, .closeSequence] then some (null, a, rest)
        else node handles false false fuel a rest
      | _ => some (null, a, ts)
    pure (mapping (← pairs? [k, v]), a, ts)

/-- The keys and values between braces after those that were read, the last one first, and what
follows; `first` says that there were none. -/
def flowMembers (handles : Handles) (first : Bool) :
    Nat → Anchors → List Yaml → List Token → Option (List Yaml × Rest)
  | 0, _, _, _ => none
  | fuel + 1, a, done, ts => do
    let ts ← match ts with
      | .closeMapping :: _ => some ts
      | .comma :: rest => if first then some ts else some rest
      | _ => if first then some ts else none
    match ts with
    | .closeMapping :: rest => pure (done.reverse, a, rest)
    | .key :: rest =>
      let (k, a, ts) ←
        if isNext rest [.value, .comma, .closeMapping] then some (null, a, rest)
        else node handles false false fuel a rest
      let (v, a, ts) ← flowMemberValue handles fuel a ts
      flowMembers handles false fuel a (v :: k :: done) ts
    | .value :: _ =>
      let (v, a, ts) ← flowMemberValue handles fuel a ts
      flowMembers handles false fuel a (v :: null :: done) ts
    | _ =>
      let (k, a, ts) ← node handles false false fuel a ts
      flowMembers handles false fuel a (null :: k :: done) ts

/-- The value of a key between braces, and what follows. -/
def flowMemberValue (handles : Handles) : Nat → Anchors → List Token → Option (Yaml × Rest)
  | 0, _, _ => none
  | fuel + 1, a, ts =>
    match ts with
    | .value :: rest =>
      if isNext rest [.comma, .closeMapping] then some (null, a, rest)
      else node handles false false fuel a rest
    | _ => some (null, a, ts)

end

/-- What the last of some directives declares, and the tokens after them; the version may be stated
once. -/
def directives (versioned : Bool) (handles : Handles) :
    List Token → Option (Handles × List Token)
  | .directive .version :: rest => if versioned then none else directives true [] rest
  | .directive (.handle name lead) :: rest => directives versioned [(name, lead)] rest
  | rest => some (handles, rest)

/-- Whether a token ends a document without content. -/
def endsDocument : Token → Bool
  | .directive _ => true
  | .documentStart => true
  | .documentEnd => true
  | .textEnd => true
  | _ => false

/-- The tokens after some marks of the end of a document. -/
def afterEnds : List Token → List Token
  | .documentEnd :: rest => afterEnds rest
  | rest => rest

/-- The value of a document, and the tokens after it. -/
def content? (handles : Handles) (ts : List Token) : Option (Yaml × List Token) :=
  if ts.head?.all endsDocument then some (null, ts)
  else (node handles true false (3 * ts.length + 3) Anchors.empty ts).map (fun (v, _, rest) =>
    (v, rest))

/-- The value of the only document of a text, if there is one; nothing at all if the text is no YAML
or has several documents. -/
def document? (text : String) : Option (Option Yaml) := do
  let ts := afterEnds (← tokens text)
  match ts with
  | [.textEnd] => pure none
  | _ => do
    let (v, rest) ←
      if ts.head?.any endsDocument then do
        let (handles, rest) ← directives false [] ts
        match rest with
        | .documentStart :: rest => content? handles rest
        | _ => none
      else content? [] ts
    match afterEnds rest with
    | [.textEnd] => pure (some v)
    | _ => none

end SpotForecast.Yaml
