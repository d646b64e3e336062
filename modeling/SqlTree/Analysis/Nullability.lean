import SqlTree.Json.Basic

/-!
# Nullability

The answers of the nullability analysis. A node with a rule of its own is `known` to be nullable or
not. Any other node has the answers for its children, in their order and not reduced, so that the
place a null comes from stays visible; such an answer holds when one of its entries does.

A query has two properties: whether the values that it produces may be null, and whether the rows
that it reads may be missing or hold nulls.
-/

namespace SqlTree

/-- Whether a node may produce null. -/
inductive Nullability where
  /-- The answer of a rule. -/
  | known (nullable : Bool)
  /-- The answers for the children of a node. -/
  | nested (entries : List Nullability)

namespace Nullability

mutual

/-- Whether the answer comes down to yes. -/
def holds : Nullability → Bool
  | known nullable => nullable
  | nested entries => anyHolds entries

/-- Whether one of several answers comes down to yes. -/
def anyHolds : List Nullability → Bool
  | [] => false
  | entry :: rest => entry.holds || anyHolds rest

end

mutual

/-- An answer written as a JSON value: an object with exactly one key, `Known` with a truth value or
`Nested` with an array of answers. -/
def ofJson? : Json → Option Nullability
  | .object [("Known", .bool nullable)] => some (known nullable)
  | .object [("Nested", .array entries)] => nested <$> listOfJson? entries
  | _ => none

/-- Answers written as JSON values. -/
def listOfJson? : List Json → Option (List Nullability)
  | [] => some []
  | raw :: rest => do return (← ofJson? raw) :: (← listOfJson? rest)

end

end Nullability

/-- The properties of a query. -/
structure QueryNullability where
  /-- Whether a value that the query produces may be null. -/
  nullableResults : Bool
  /-- Whether the rows that the query reads may be missing or hold nulls. -/
  nullableContents : Bool
  deriving BEq, DecidableEq, Repr

namespace QueryNullability

/-- Neither property holds. -/
def neither : QueryNullability := ⟨false, false⟩

/-- Whether one of the properties holds. -/
def holds (q : QueryNullability) : Bool := q.nullableResults || q.nullableContents

/-- The properties that one of two queries has. -/
def union (q r : QueryNullability) : QueryNullability :=
  ⟨q.nullableResults || r.nullableResults, q.nullableContents || r.nullableContents⟩

/-- The properties that both of two queries have. -/
def intersect (q r : QueryNullability) : QueryNullability :=
  ⟨q.nullableResults && r.nullableResults, q.nullableContents && r.nullableContents⟩

/-- The properties of a query written as a JSON value: an object with both truth values, whose other
keys are ignored, or an array of the two. -/
def ofJson? : Json → Option QueryNullability
  | .object fields =>
    match fields.lookup "nullable_results", fields.lookup "nullable_contents" with
    | some (.bool results), some (.bool contents) => some ⟨results, contents⟩
    | _, _ => none
  | .array [.bool results, .bool contents] => some ⟨results, contents⟩
  | _ => none

end QueryNullability

end SqlTree
