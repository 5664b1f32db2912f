/-
**Statements: their text, their parameters, and how they are shown.**

Main definitions:

* `Statement` — a query or a command with its parameters;
* `countRows`, `selectPage`, `selectById`, `updateById`, `insertRow` — the statements there are;
* `Statement.display` — the text with every placeholder replaced by its value and every date
  wrapped, for people to read.
-/

import Circulation.Calendar.SqlLiteral
import Circulation.Page
import Circulation.Sql.Condition
import Circulation.Sql.Param

set_option relaxedAutoImplicit false
set_option autoImplicit false

namespace Circulation

/-! ### Statements -/

/-- A query gives rows back; a command tells how many rows it changed. -/
inductive StatementKind where
  | query
  | command
deriving DecidableEq

/-- A statement with the values of its placeholders. -/
structure Statement where
  kind : StatementKind
  sql : String
  params : List Param
deriving DecidableEq

/-- The placeholder with a number. -/
def placeholder (index : Nat) : String := "$" ++ index.repr

/-- The parts of a text that are not empty, with a blank between each two. -/
def joinParts (parts : List String) : String := Text.joinWith " " (parts.filter (· ≠ ""))

/-- The rows of a page, as SQL asks for them with two placeholders from `index` on. -/
def pagingSql (index : Nat) : String :=
  "OFFSET " ++ placeholder index ++ " ROWS FETCH NEXT " ++ placeholder (index + 1) ++ " ROWS ONLY"

/-! ### Reading rows -/

/-- How many rows satisfy conditions. -/
def countRows (s : Schema) (conds : List Condition) (params : List Param) : Statement where
  kind := .query
  sql := joinParts ["SELECT COUNT(*) AS total FROM " ++ s.table, whereSql conds]
  params := params

/-- The rows of a page that satisfy conditions, in the order of their keys. -/
def selectPage (s : Schema) (conds : List Condition) (params : List Param) (page : Page) :
    Statement where
  kind := .query
  sql := joinParts ["SELECT * FROM " ++ s.table, whereSql conds, "ORDER BY " ++ s.primaryKey,
    pagingSql (nextPlaceholder conds)]
  params := params ++ [.int page.offset.toInt64, .int (Int64.ofNat page.limit.toNat)]

/-- The row with a key. -/
def selectById (s : Schema) (key : Param) : Statement where
  kind := .query
  sql := "SELECT * FROM " ++ s.table ++ " WHERE " ++ s.primaryKey ++ " = $1"
  params := [key]

/-! ### Writing rows -/

/-- Assignments with placeholders numbered from `index` on. -/
def assignmentTexts (index : Nat) : List String → List String
  | [] => []
  | c :: cs => (c ++ " = " ++ placeholder index) :: assignmentTexts (index + 1) cs

/-- Change columns of the row with a key; there must be something to change. -/
def updateById (s : Schema) (key : Param) (values : List (String × Param)) :
    Except Refusal Statement :=
  if values.isEmpty then .error (.nothingToUpdate s.resource)
  else
    .ok
      { kind := .command
        sql := "UPDATE " ++ s.table ++ " SET " ++
          Text.joinWith ", " (assignmentTexts 1 (values.map (·.1))) ++
          " WHERE " ++ s.primaryKey ++ " = " ++ placeholder (values.length + 1)
        params := values.map (·.2) ++ [key] }

/-- Insert a row and give it back; there must be something to insert. -/
def insertRow (s : Schema) (values : List (String × Param)) : Except Refusal Statement :=
  if values.isEmpty then .error (.nothingToInsert s.resource)
  else
    .ok
      { kind := .query
        sql := "INSERT INTO " ++ s.table ++ " (" ++ Text.joinWith ", " (values.map (·.1)) ++
          ") VALUES (" ++
          Text.joinWith ", " ((List.range' 1 values.length).map placeholder) ++ ") RETURNING *"
        params := values.map (·.2) }

/-! ### Showing statements -/

/-- The value that the digits of a placeholder stand for. -/
def paramOf? (params : List Param) (digits : List Char) : Option Param :=
  match Text.readUInt64? digits with
  | none => none
  | some 0 => none
  | some n => params[n.toNat - 1]?

/-- The text with every placeholder that has a value replaced by it.  What was put in is not looked
at again. -/
def inlineChars (params : List Param) : List Char → List Char
  | [] => []
  | c :: cs =>
      if c = '$' then
        let digits := cs.takeWhile Text.isDecimalDigit
        match paramOf? params digits with
        | some p => p.literalChars ++ inlineChars params (cs.dropWhile Text.isDecimalDigit)
        | none => c :: inlineChars params cs
      else c :: inlineChars params cs
termination_by cs => cs.length
decreasing_by
  · have := (List.dropWhile_sublist Text.isDecimalDigit (l := cs)).length_le
    simp only [List.length_cons]
    omega
  · simp
  · simp

/-- The text of a statement with values in place of placeholders, and dates wrapped. -/
def Statement.display (s : Statement) : String :=
  String.ofList (wrapDateChars (inlineChars s.params s.sql.toList))

end Circulation
