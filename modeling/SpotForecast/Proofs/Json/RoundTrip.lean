import SpotForecast.Proofs.Json.Tokens

/-!
# Values that are written and read

What is written for a value is what is read from its text, in one line or in several
(`written?_compact`, `written?_pretty`).

The machine that reads tokens takes those of a value in one go: from where a value is expected to
where that value is complete, with the stack as it was before (`run_tokensOf`).  In between, the
stack has one more array or object on top, which holds what was read of it so far (`run_itemTokens`,
`run_memberTokens`).
-/

namespace SpotForecast.Json

namespace Written

mutual

/-- What is written for a value. -/
def ofJson : Json → Written
  | .null => null
  | .bool b => bool b
  | .number n => n.written
  | .string s => string (some s)
  | .array items => array (ofItems items)
  | .object members => object (ofMembers members)

/-- What is written for the items of an array. -/
def ofItems : List Json → List Written
  | [] => []
  | v :: rest => ofJson v :: ofItems rest

/-- What is written for the members of an object. -/
def ofMembers : List (String × Json) → List (Option String × Written)
  | [] => []
  | (k, v) :: rest => (some k, ofJson v) :: ofMembers rest

end

end Written

variable {stack : List Open} {ts : List Token}

/-- The first item of an array is read like every other value. -/
theorem run_firstItem (v : Json) :
    run .firstItem stack (tokensOf v ++ ts) = run .value stack (tokensOf v ++ ts) := by
  cases v <;> rfl

mutual

/-- **Values.**  The tokens of a value complete it. -/
theorem run_tokensOf : ∀ (v : Json) (stack : List Open) (ts : List Token),
    run .value stack (tokensOf v ++ ts) = run (.next (Written.ofJson v)) stack ts
  | .null, _, _ | .bool _, _, _ | .number _, _, _ | .string _, _, _ => rfl
  | .array [], _, _ | .object [], _, _ => rfl
  | .array (v :: rest), stack, ts => by
      have hopen : run .value stack (tokensOf (.array (v :: rest)) ++ ts) =
          run .firstItem (.items [] :: stack)
            (tokensOf v ++ (itemTokens false rest ++ .closeArray :: ts)) := by
        simp [tokensOf, itemTokens, run]
      rw [hopen, run_firstItem, run_tokensOf v, run_itemTokens rest]
      rfl
  | .object ((k, v) :: rest), stack, ts => by
      have hopen : run .value stack (tokensOf (.object ((k, v) :: rest)) ++ ts) =
          run .value (.members [] (some k) :: stack)
            (tokensOf v ++ (memberTokens false rest ++ .closeObject :: ts)) := by
        simp [tokensOf, memberTokens, run]
      rw [hopen, run_tokensOf v, run_memberTokens rest]
      rfl

/-- **Items.**  The rest of an array completes it, behind the items that were read. -/
theorem run_itemTokens : ∀ (items : List Json) (done : List Written) (w : Written)
    (stack : List Open) (ts : List Token),
    run (.next w) (.items done :: stack) (itemTokens false items ++ .closeArray :: ts) =
      run (.next (.array ((w :: done).reverse ++ Written.ofItems items))) stack ts
  | [], done, w, stack, ts => by
      rw [Written.ofItems, List.append_nil]
      rfl
  | v :: rest, done, w, stack, ts => by
      have hcomma : run (.next w) (.items done :: stack)
          (itemTokens false (v :: rest) ++ .closeArray :: ts) =
            run .value (.items (w :: done) :: stack)
              (tokensOf v ++ (itemTokens false rest ++ .closeArray :: ts)) := by
        simp [itemTokens, run]
      have hitems : (Written.ofJson v :: w :: done).reverse ++ Written.ofItems rest =
          (w :: done).reverse ++ Written.ofItems (v :: rest) := by
        rw [Written.ofItems, List.reverse_cons, List.append_assoc, List.singleton_append]
      rw [hcomma, run_tokensOf v, run_itemTokens rest, hitems]

/-- **Members.**  The rest of an object completes it, behind the members that were read. -/
theorem run_memberTokens : ∀ (members : List (String × Json))
    (done : List (Option String × Written)) (key : Option String) (w : Written)
    (stack : List Open) (ts : List Token),
    run (.next w) (.members done key :: stack) (memberTokens false members ++ .closeObject :: ts) =
      run (.next (.object (((key, w) :: done).reverse ++ Written.ofMembers members))) stack ts
  | [], done, key, w, stack, ts => by
      rw [Written.ofMembers, List.append_nil]
      rfl
  | (k, v) :: rest, done, key, w, stack, ts => by
      have hcomma : run (.next w) (.members done key :: stack)
          (memberTokens false ((k, v) :: rest) ++ .closeObject :: ts) =
            run .value (.members ((key, w) :: done) (some k) :: stack)
              (tokensOf v ++ (memberTokens false rest ++ .closeObject :: ts)) := by
        simp [memberTokens, run]
      have hmembers : ((some k, Written.ofJson v) :: (key, w) :: done).reverse ++
          Written.ofMembers rest =
            ((key, w) :: done).reverse ++ Written.ofMembers ((k, v) :: rest) := by
        rw [Written.ofMembers, List.reverse_cons, List.append_assoc, List.singleton_append]
      rw [hcomma, run_tokensOf v, run_memberTokens rest, hmembers]

end

/-- A text with the tokens of a value is read as that value. -/
theorem written?_of_readAs {cs : List Char} {v : Json} (h : ReadAs cs (tokensOf v)) :
    written? (String.ofList cs) = some (Written.ofJson v) := by
  have hrun := run_tokensOf v [] []
  rw [List.append_nil] at hrun
  rw [written?, String.toList_ofList, h.tokens_eq, Option.bind_some, hrun]
  rfl

/-- **One line.**  A value is read back from its text. -/
theorem written?_compact {v : Json} (h : v.NumbersReadBack) :
    written? v.compact = some (Written.ofJson v) :=
  written?_of_readAs (readAs_compactChars v h)

/-- **Several lines.**  A value is read back from its text. -/
theorem written?_pretty {v : Json} (h : v.NumbersReadBack) :
    written? v.pretty = some (Written.ofJson v) :=
  written?_of_readAs (readAs_prettyChars 0 v h)

end SpotForecast.Json
