/-
# Reading terms from tokens

Recursive descent: one function for each level of the grammar, from the loosest binding to the tightest.
Every call has one step less than its caller, and `Term.ofText?` gives more steps than a text of its
length can need.

| level | operators |
| --- | --- |
| `expression` | `a if b else c`, functions without a name |
| `junction` | `or`, then `and` |
| `inversion` | `not` |
| `comparison` | `==`, `<`, `in`, `is` and their relatives, in chains |
| `binary` | bitwise or, exclusive or, and; shifts; sums; products |
| `factor` | signs and complements |
| `power` | powers, whose right side is a `factor` |
| `primary` | calls, elements, attributes |
| `atom` | names, constants, brackets |
-/

import Walkthrough.Condition.Term
import Walkthrough.Condition.Token.Scan

namespace Walkthrough
namespace Condition

/-- The levels of operators between comparisons and signs. -/
inductive BinaryLevel where
  | bitOr | bitXor | bitAnd | shift | sum | product
deriving DecidableEq

namespace BinaryLevel

/-- The level that binds more tightly, if it is one of these. -/
def next? : BinaryLevel → Option BinaryLevel
  | bitOr => some bitXor
  | bitXor => some bitAnd
  | bitAnd => some shift
  | shift => some sum
  | sum => some product
  | product => none

/-- The operator that a sign stands for on a level. -/
def operator? : BinaryLevel → Sign → Option (Operator BinaryOp)
  | bitOr, .bitOr => some (.forbidden .bitOr)
  | bitXor, .bitXor => some (.forbidden .bitXor)
  | bitAnd, .bitAnd => some (.forbidden .bitAnd)
  | shift, .leftShift => some (.forbidden .leftShift)
  | shift, .rightShift => some (.forbidden .rightShift)
  | sum, .plus => some (.allowed .add)
  | sum, .minus => some (.allowed .subtract)
  | product, .times => some (.allowed .multiply)
  | product, .over => some (.allowed .divide)
  | product, .floorOver => some (.allowed .floorDivide)
  | product, .percent => some (.allowed .modulo)
  | product, .matrixTimes => some (.forbidden .matrixProduct)
  | _, _ => none

end BinaryLevel

/-- The comparison in front of tokens. -/
def compareOp? : List Token → Option (CompareOp × List Token)
  | .sign .equal :: ts => some (.eq, ts)
  | .sign .unequal :: ts => some (.ne, ts)
  | .sign .less :: ts => some (.lt, ts)
  | .sign .atMost :: ts => some (.le, ts)
  | .sign .greater :: ts => some (.gt, ts)
  | .sign .atLeast :: ts => some (.ge, ts)
  | .keyword .not :: .keyword .in_ :: ts => some (.notIn, ts)
  | .keyword .in_ :: ts => some (.in_, ts)
  | .keyword .is :: .keyword .not :: ts => some (.isNot, ts)
  | .keyword .is :: ts => some (.is, ts)
  | _ => none

/-- The sign of one operand in front of tokens. -/
def unarySign? : List Token → Option (Operator UnaryOp × List Token)
  | .sign .plus :: ts => some (.allowed .plus, ts)
  | .sign .minus :: ts => some (.allowed .minus, ts)
  | .sign .complement :: ts => some (.forbidden .complement, ts)
  | _ => none

/-- Drops a sign that has to come next. -/
def expect? (s : Sign) : List Token → Option (List Token)
  | .sign t :: ts => if s = t then some ts else none
  | _ => none

/-- Whether a comprehension goes on here. -/
def startsClause : List Token → Bool
  | .keyword .for_ :: _ => true
  | .keyword .async :: .keyword .for_ :: _ => true
  | _ => false

/-- Texts side by side as one: all of characters or all of bytes, or with fields. -/
def joinTexts? : List Token → Option Term
  | ts =>
    let fields := ts.any fun | .formatted _ => true | _ => false
    let bytes := ts.any fun | .bytes _ => true | _ => false
    let texts := ts.any fun | .text _ => true | _ => false
    if bytes && (texts || fields) then none
    else if fields then some (.forbidden .formattedText)
    else if bytes then
      some (.constant (.bytes (ts.flatMap fun | .bytes bs => bs | _ => [])))
    else some (.constant (.text (ts.foldl (fun s => fun | .text t => s ++ t | _ => s) "")))

/-- Whether a token is a quoted text. -/
def Token.isText : Token → Bool
  | .text _ => true
  | .bytes _ => true
  | .formatted _ => true
  | _ => false

/-- The fields of a quoted text. -/
def Token.fields : Token → List (List Char)
  | .formatted fields => fields
  | _ => []

mutual

/-- Whether a comprehension can put its items into a term. -/
def Term.isTarget : Term → Bool
  | .name _ => true
  | .forbidden .attribute => true
  | .forbidden .subscript => true
  | .forbidden .starred => true
  | .tuple items => areTargets items
  | .list items => areTargets items
  | _ => false

/-- Whether all terms of a list are targets. -/
def areTargets : List Term → Bool
  | [] => true
  | t :: rest => t.isTarget && areTargets rest

end

/-- Whether a term is an item marked to be spread out. -/
def Term.isStarred : Term → Bool
  | .forbidden .starred => true
  | _ => false

/-- What was seen of the parameters of a function without a name. -/
structure Parameters where
  any : Bool := false
  default : Bool := false
  slash : Bool := false
  star : Bool := false

/-- What was seen of the arguments of a call. -/
inductive ArgumentPhase where
  | positional | named | mapping
deriving DecidableEq

mutual

/-- A conditional expression, or anything that binds more tightly. -/
def expression? : Nat → List Token → Option (Term × List Token)
  | 0, _ => none
  | n + 1, .keyword .lambda :: ts => do
    let ts ← parameters? n {} ts
    let (_, ts) ← expression? n ts
    return (.forbidden .lambda, ts)
  | n + 1, ts => do
    let (body, ts) ← junction? n true ts
    match ts with
    | .keyword .if_ :: ts =>
      let (test, ts) ← junction? n true ts
      match ts with
      | .keyword .else_ :: ts =>
        let (orElse, ts) ← expression? n ts
        return (.conditional test body orElse, ts)
      | _ => none
    | ts => return (body, ts)

/-- The parameters of a function without a name, and the colon after them. -/
def parameters? : Nat → Parameters → List Token → Option (List Token)
  | 0, _, _ => none
  | _ + 1, _, .sign .colon :: ts => some ts
  | n + 1, seen, .sign .over :: ts =>
    if seen.any && !seen.slash && !seen.star then moreParameters? n { seen with slash := true } ts
    else none
  | n + 1, seen, .sign .times :: ts =>
    if seen.star then none
    else match ts with
      | .name _ :: ts => moreParameters? n { seen with any := true, star := true } ts
      | .sign .comma :: .name s :: ts =>
        parameters? n { seen with any := true, star := true } (.name s :: ts)
      | _ => none
  | _ + 1, _, .sign .power :: .name _ :: ts =>
    match ts with
    | .sign .comma :: ts => expect? .colon ts
    | ts => expect? .colon ts
  | n + 1, seen, .name _ :: .sign .assign :: ts => do
    let (_, ts) ← expression? n ts
    moreParameters? n { seen with any := true, default := true } ts
  | n + 1, seen, .name _ :: ts =>
    if seen.default && !seen.star then none else moreParameters? n { seen with any := true } ts
  | _, _, _ => none

/-- The parameters after a comma, or the colon. -/
def moreParameters? : Nat → Parameters → List Token → Option (List Token)
  | 0, _, _ => none
  | n + 1, seen, .sign .comma :: ts => parameters? n seen ts
  | _ + 1, _, ts => expect? .colon ts

/-- Operands joined by `or`, or by `and`. -/
def junction? : Nat → Bool → List Token → Option (Term × List Token)
  | 0, _, _ => none
  | n + 1, isOr, ts => do
    let (first, ts) ← if isOr then junction? n false ts else inversion? n ts
    let (rest, ts) ← junctionRest? n isOr ts
    return (if rest.isEmpty then first else .junction isOr (first :: rest), ts)

/-- The further operands of a junction. -/
def junctionRest? : Nat → Bool → List Token → Option (List Term × List Token)
  | 0, _, _ => none
  | n + 1, isOr, ts =>
    let after := match ts with
      | .keyword .or :: ts => if isOr then some ts else none
      | .keyword .and :: ts => if isOr then none else some ts
      | _ => none
    match after with
    | none => some ([], ts)
    | some ts => do
      let (t, ts) ← if isOr then junction? n false ts else inversion? n ts
      let (rest, ts) ← junctionRest? n isOr ts
      return (t :: rest, ts)

/-- A negation, or anything that binds more tightly. -/
def inversion? : Nat → List Token → Option (Term × List Token)
  | 0, _ => none
  | n + 1, .keyword .not :: ts => do
    let (t, ts) ← inversion? n ts
    return (.unary (.allowed .not) t, ts)
  | n + 1, ts => do
    let (first, ts) ← binary? n .bitOr ts
    let (rest, ts) ← comparisonRest? n ts
    return (if rest.isEmpty then first else .comparison first rest, ts)

/-- The further operands of a chain of comparisons. -/
def comparisonRest? : Nat → List Token → Option ((List (CompareOp × Term)) × List Token)
  | 0, _ => none
  | n + 1, ts =>
    match compareOp? ts with
    | none => some ([], ts)
    | some (op, ts) => do
      let (t, ts) ← binary? n .bitOr ts
      let (rest, ts) ← comparisonRest? n ts
      return ((op, t) :: rest, ts)

/-- Operands joined by the operators of a level. -/
def binary? : Nat → BinaryLevel → List Token → Option (Term × List Token)
  | 0, _, _ => none
  | n + 1, level, ts => do
    let (first, ts) ← match level.next? with
      | some level => binary? n level ts
      | none => factor? n ts
    binaryRest? n level first ts

/-- What follows the operand `left` on a level. -/
def binaryRest? : Nat → BinaryLevel → Term → List Token → Option (Term × List Token)
  | 0, _, _, _ => none
  | n + 1, level, left, .sign s :: ts =>
    match level.operator? s with
    | none => some (left, .sign s :: ts)
    | some op => do
      let (right, ts) ← match level.next? with
        | some level => binary? n level ts
        | none => factor? n ts
      binaryRest? n level (.binary op left right) ts
  | _ + 1, _, left, ts => some (left, ts)

/-- A sign before an operand, or a power. -/
def factor? : Nat → List Token → Option (Term × List Token)
  | 0, _ => none
  | n + 1, ts =>
    match unarySign? ts with
    | some (op, ts) => do
      let (t, ts) ← factor? n ts
      return (.unary op t, ts)
    | none => do
      let (base, ts) ← awaited? n ts
      match ts with
      | .sign .power :: ts =>
        let (exponent, ts) ← factor? n ts
        return (.binary (.forbidden .power) base exponent, ts)
      | ts => return (base, ts)

/-- An operand that is waited for, or one that is not. -/
def awaited? : Nat → List Token → Option (Term × List Token)
  | 0, _ => none
  | n + 1, .keyword .await :: ts => do
    let (_, ts) ← primary? n ts
    return (.forbidden .await, ts)
  | n + 1, ts => primary? n ts

/-- An atom with calls, elements and attributes. -/
def primary? : Nat → List Token → Option (Term × List Token)
  | 0, _ => none
  | n + 1, ts => do
    let (t, ts) ← atom? n ts
    trailers? n t ts

/-- What follows an atom. -/
def trailers? : Nat → Term → List Token → Option (Term × List Token)
  | 0, _, _ => none
  | n + 1, _, .sign .dot :: .name _ :: ts => trailers? n (.forbidden .attribute) ts
  | n + 1, t, .sign .openRound :: ts => do
    let ((items, keywords), ts) ← arguments? n .positional ts
    trailers? n (.call t items keywords) ts
  | n + 1, _, .sign .openSquare :: ts => do
    let ts ← slices? n ts
    trailers? n (.forbidden .subscript) ts
  | _ + 1, _, .sign .dot :: _ => none
  | _ + 1, t, ts => some (t, ts)

/-- The arguments of a call up to its closing bracket: those by position, and whether there are
others. -/
def arguments? : Nat → ArgumentPhase → List Token → Option ((List Term × Bool) × List Token)
  | 0, _, _ => none
  | _ + 1, phase, .sign .closeRound :: ts => some (([], phase != .positional), ts)
  | n + 1, phase, .sign .times :: ts => do
    if phase == .mapping then none else
    let (_, ts) ← expression? n ts
    let ((rest, keywords), ts) ← moreArguments? n phase ts
    return ((.forbidden .starred :: rest, keywords), ts)
  | n + 1, _, .sign .power :: ts => do
    let (_, ts) ← expression? n ts
    moreArguments? n .mapping ts
  | n + 1, phase, .name _ :: .sign .assign :: ts => do
    let (_, ts) ← expression? n ts
    moreArguments? n (if phase == .mapping then .mapping else .named) ts
  | n + 1, phase, ts => do
    if phase != .positional then none else
    let (t, ts) ← element? n ts
    if startsClause ts then
      let ts ← clauses? n ts
      let ts ← expect? .closeRound ts
      return (([.forbidden .generator], false), ts)
    else
      let ((rest, keywords), ts) ← moreArguments? n phase ts
      return ((t :: rest, keywords), ts)

/-- The arguments after a comma, or the closing bracket. -/
def moreArguments? : Nat → ArgumentPhase → List Token → Option ((List Term × Bool) × List Token)
  | 0, _, _ => none
  | n + 1, phase, .sign .comma :: ts => arguments? n phase ts
  | _ + 1, phase, .sign .closeRound :: ts => some (([], phase != .positional), ts)
  | _ + 1, _, _ => none

/-- What stands between square brackets after an operand, and the closing bracket. -/
def slices? : Nat → List Token → Option (List Token)
  | 0, _ => none
  | n + 1, ts => do
    let ts ← match ts with
      | .sign .colon :: ts => sliceRest? n ts
      | ts =>
        match element? n ts with
        | some (t, .sign .colon :: ts) => if t.isStarred then none else sliceRest? n ts
        | some (_, ts) => some ts
        | none => none
    match ts with
    | .sign .comma :: .sign .closeSquare :: ts => some ts
    | .sign .comma :: ts => slices? n ts
    | ts => expect? .closeSquare ts

/-- What may follow the first colon of a slice. -/
def sliceRest? : Nat → List Token → Option (List Token)
  | 0, _ => none
  | n + 1, ts => do
    let ts ← sliceBound? n ts
    match ts with
    | .sign .colon :: ts => sliceBound? n ts
    | ts => some ts

/-- An expression that may be left out. -/
def sliceBound? : Nat → List Token → Option (List Token)
  | 0, _ => none
  | _ + 1, .sign .colon :: ts => some (.sign .colon :: ts)
  | _ + 1, .sign .comma :: ts => some (.sign .comma :: ts)
  | _ + 1, .sign .closeSquare :: ts => some (.sign .closeSquare :: ts)
  | n + 1, ts => (expression? n ts).map Prod.snd

/-- An item between brackets: one that is spread out, one that is given a name, or any expression. -/
def element? : Nat → List Token → Option (Term × List Token)
  | 0, _ => none
  | n + 1, .sign .times :: ts => do
    let (_, ts) ← binary? n .bitOr ts
    return (.forbidden .starred, ts)
  | n + 1, .name _ :: .sign .define :: ts => do
    let (_, ts) ← expression? n ts
    return (.forbidden .namedExpression, ts)
  | n + 1, ts => expression? n ts

/-- Items divided by commas up to a closing bracket, which is dropped. -/
def elements? : Nat → Sign → List Token → Option (List Term × List Token)
  | 0, _, _ => none
  | n + 1, close, ts =>
    match expect? close ts with
    | some ts => some ([], ts)
    | none => do
      let (t, ts) ← element? n ts
      match ts with
      | .sign .comma :: ts =>
        let (rest, ts) ← elements? n close ts
        return (t :: rest, ts)
      | ts =>
        let ts ← expect? close ts
        return ([t], ts)

/-- The clauses of a comprehension. -/
def clauses? : Nat → List Token → Option (List Token)
  | 0, _ => none
  | n + 1, ts => do
    let ts ← match ts with
      | .keyword .async :: .keyword .for_ :: ts => some ts
      | .keyword .for_ :: ts => some ts
      | _ => none
    let ts ← targets? n ts
    match ts with
    | .keyword .in_ :: ts =>
      let (_, ts) ← junction? n true ts
      let ts ← filters? n ts
      if startsClause ts then clauses? n ts else some ts
    | _ => none

/-- The filters of a clause. -/
def filters? : Nat → List Token → Option (List Token)
  | 0, _ => none
  | n + 1, .keyword .if_ :: ts => do
    let (_, ts) ← junction? n true ts
    filters? n ts
  | _ + 1, ts => some ts

/-- The targets of a clause, divided by commas. -/
def targets? : Nat → List Token → Option (List Token)
  | 0, _ => none
  | n + 1, ts => do
    let ts := match ts with
      | .sign .times :: ts => ts
      | ts => ts
    let (t, ts) ← primary? n ts
    if !t.isTarget then none else
    match ts with
    | .sign .comma :: .keyword .in_ :: ts => some (.keyword .in_ :: ts)
    | .sign .comma :: ts => targets? n ts
    | ts => some ts

/-- A name, a constant, or something between brackets. -/
def atom? : Nat → List Token → Option (Term × List Token)
  | 0, _ => none
  | _ + 1, .name s :: ts => some (.name s, ts)
  | _ + 1, .number c :: ts => some (.constant c, ts)
  | _ + 1, .keyword .true :: ts => some (.constant (.bool true), ts)
  | _ + 1, .keyword .false :: ts => some (.constant (.bool false), ts)
  | _ + 1, .keyword .none :: ts => some (.constant .unset, ts)
  | _ + 1, .sign .ellipsis :: ts => some (.constant .ellipsis, ts)
  | n + 1, .sign .openRound :: ts => round? n ts
  | n + 1, .sign .openSquare :: ts => square? n ts
  | n + 1, .sign .openCurly :: ts => curly? n ts
  | n + 1, t :: ts =>
    if t.isText then do
      let texts := (t :: ts).takeWhile Token.isText
      if fieldsFit n (texts.flatMap Token.fields) then
        (joinTexts? texts).map fun joined => (joined, (t :: ts).dropWhile Token.isText)
      else none
    else none
  | _ + 1, [] => none

/-- Whether the fields of texts are well formed. -/
def fieldsFit : Nat → List (List Char) → Bool
  | 0, _ => false
  | _ + 1, [] => true
  | n + 1, field :: fields =>
    (match tokens? ('(' :: field ++ [')']) with
      | some ts =>
        match primary? n ts with
        | some (_, []) => true
        | _ => false
      | none => false) && fieldsFit n fields

/-- What stands between round brackets: nothing, items, one item, a comprehension. -/
def round? : Nat → List Token → Option (Term × List Token)
  | 0, _ => none
  | _ + 1, .sign .closeRound :: ts => some (.tuple [], ts)
  | n + 1, .keyword .yield :: .keyword .from_ :: ts => do
    let (_, ts) ← expression? n ts
    let ts ← expect? .closeRound ts
    return (.forbidden .yieldFrom, ts)
  | n + 1, .keyword .yield :: ts => do
    let (_, ts) ← elements? n .closeRound ts
    return (.forbidden .yield, ts)
  | n + 1, ts => do
    let (t, ts) ← element? n ts
    if startsClause ts then
      if t.isStarred then none else
      let ts ← clauses? n ts
      let ts ← expect? .closeRound ts
      return (.forbidden .generator, ts)
    else match ts with
      | .sign .comma :: ts =>
        let (rest, ts) ← elements? n .closeRound ts
        return (.tuple (t :: rest), ts)
      | ts =>
        let ts ← expect? .closeRound ts
        if t.isStarred then none else return (t, ts)

/-- What stands between square brackets: items or a comprehension. -/
def square? : Nat → List Token → Option (Term × List Token)
  | 0, _ => none
  | _ + 1, .sign .closeSquare :: ts => some (.list [], ts)
  | n + 1, ts => do
    let (t, ts) ← element? n ts
    if startsClause ts then
      if t.isStarred then none else
      let ts ← clauses? n ts
      let ts ← expect? .closeSquare ts
      return (.forbidden .listComprehension, ts)
    else match ts with
      | .sign .comma :: ts =>
        let (rest, ts) ← elements? n .closeSquare ts
        return (.list (t :: rest), ts)
      | ts =>
        let ts ← expect? .closeSquare ts
        return (.list [t], ts)

/-- What stands between braces: entries, items or a comprehension. -/
def curly? : Nat → List Token → Option (Term × List Token)
  | 0, _ => none
  | _ + 1, .sign .closeCurly :: ts => some (.forbidden .dict, ts)
  | n + 1, .sign .power :: ts => do
    let (_, ts) ← binary? n .bitOr ts
    let ts ← moreEntries? n ts
    return (.forbidden .dict, ts)
  | n + 1, ts => do
    let (t, ts) ← element? n ts
    match ts with
    | .sign .colon :: ts =>
      if t.isStarred then none else
      let (_, ts) ← expression? n ts
      if startsClause ts then
        let ts ← clauses? n ts
        let ts ← expect? .closeCurly ts
        return (.forbidden .dictComprehension, ts)
      else
        let ts ← moreEntries? n ts
        return (.forbidden .dict, ts)
    | .sign .comma :: ts =>
      let (_, ts) ← elements? n .closeCurly ts
      return (.forbidden .set, ts)
    | ts =>
      if startsClause ts then
        if t.isStarred then none else
        let ts ← clauses? n ts
        let ts ← expect? .closeCurly ts
        return (.forbidden .setComprehension, ts)
      else
        let ts ← expect? .closeCurly ts
        return (.forbidden .set, ts)

/-- The entries after a comma, and the closing brace. -/
def moreEntries? : Nat → List Token → Option (List Token)
  | 0, _ => none
  | _ + 1, .sign .closeCurly :: ts => some ts
  | _ + 1, .sign .comma :: .sign .closeCurly :: ts => some ts
  | n + 1, .sign .comma :: .sign .power :: ts => do
    let (_, ts) ← binary? n .bitOr ts
    moreEntries? n ts
  | n + 1, .sign .comma :: ts => do
    let (_, ts) ← expression? n ts
    let ts ← expect? .colon ts
    let (_, ts) ← expression? n ts
    moreEntries? n ts
  | _ + 1, _ => none

end

/-- Expressions divided by commas: one alone, or as a tuple. -/
def topLevel? : Nat → List Token → Option ((List Term × Bool) × List Token)
  | 0, _ => none
  | n + 1, ts => do
    let (t, ts) ← expression? n ts
    match ts with
    | .sign .comma :: rest =>
      match topLevel? n rest with
      | some ((more, _), rest) => return ((t :: more, true), rest)
      | none => return (([t], true), rest)
    | ts => return (([t], false), ts)

/-- Whether only ends of lines are left. -/
def isFinished (ts : List Token) : Bool := ts.all (· == .lineEnd)

/-- The term that a text is. -/
def Term.ofText? (cs : List Char) : Option Term := do
  let ts ← tokens? cs
  match ← topLevel? (40 * (cs.length + 2)) ts with
  | ((items, isTuple), rest) =>
    if !isFinished rest then none
    else match items, isTuple with
      | [t], false => some t
      | items, _ => some (.tuple items)

end Condition
end Walkthrough
