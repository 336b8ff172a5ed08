/-
# Syntax of the script language

The trees that a script is parsed into.  A node remembers the line to which a failure of its own is
attributed: the line on which the expression begins, for an attribute the line of its name, for a
statement the line on which it begins.  Nodes that cannot fail by themselves have no line.
-/
import ViewEngine.Text.Basic

namespace ViewEngine.Script

/-- A value that the script itself says. -/
inductive Constant where
  | none
  | bool (value : Bool)
  | int (value : Int)
  | float (value : Float)
  | text (value : Text)
  | tuple (items : List Constant)
deriving Repr

/-- An operator in front of its operand. -/
inductive UnaryOp where
  | plus | minus
deriving DecidableEq, Repr

/-- An operator between two operands. -/
inductive BinaryOp where
  | add | subtract | multiply | divide | floorDivide | remainder | power
deriving DecidableEq, Repr

/-- A comparison. -/
inductive Comparison where
  | eq | ne | lt | le | gt | ge | same | notSame | memberOf | notMemberOf
deriving DecidableEq, Repr

/-- How a value becomes a part of a formatted string. -/
inductive Conversion where
  /-- By its plain text. -/
  | plain
  /-- By its quoted text. -/
  | quoted
  /-- By its quoted text without characters that are not ASCII. -/
  | ascii
deriving DecidableEq, Repr

/-- The room that a text takes. -/
structure Fit where
  /-- Is a short text put to the left? -/
  left : Bool := false
  /-- How long the text is at least. -/
  width : Nat := 0
  /-- How much of it is shown at most. -/
  precision : Option Nat := none
deriving DecidableEq, Repr

/-- The text in its room. -/
def Fit.apply (f : Fit) (t : Text) : Text :=
  let t := match f.precision with
    | some n => t.take n
    | none => t
  let gap := List.replicate (f.width - t.length) ' '
  if f.left then t ++ gap else gap ++ t

mutual

/-- An expression. -/
inductive Expr where
  | constant (value : Constant)
  | name (line : Nat) (id : Text)
  /-- A string with values in it. -/
  | formatted (parts : List FormatPart)
  | unary (line : Nat) (op : UnaryOp) (operand : Expr)
  | binary (line : Nat) (op : BinaryOp) (left right : Expr)
  | compare (line : Nat) (first : Expr) (links : List Link)
  | negation (operand : Expr)
  | conjunction (left right : Expr)
  | disjunction (left right : Expr)
  /-- `yes if condition else no` -/
  | choice (condition yes no : Expr)
  | tuple (line : Nat) (items : List Item)
  | list (line : Nat) (items : List Item)
  | dict (line : Nat) (entries : List Entry)
  /-- `[body for … in … if …]` -/
  | comprehension (line : Nat) (body : Expr) (clauses : List Clause)
  | field (line : Nat) (owner : Expr) (id : Text)
  | subscript (line : Nat) (owner index : Expr)
  /-- `owner[low:high:step]`; an absent part is the constant `None`. -/
  | slice (line : Nat) (owner low high step : Expr)
  | call (line : Nat) (callee : Expr) (arguments : List Item)
  /-- `*value` where a single value is wanted; a script with it is refused. -/
  | starred (line : Nat) (value : Expr)

/-- An element of a display or an argument of a call. -/
inductive Item where
  | plain (value : Expr)
  /-- `*value` -/
  | spread (value : Expr)
  /-- `id=value` -/
  | keyword (line : Nat) (id : Text) (value : Expr)

/-- A part of a formatted string. -/
inductive FormatPart where
  /-- Text that stands as it is. -/
  | text (value : Text)
  /-- A value; the line is that of its conversion. -/
  | value (line : Nat) (content : Expr) (conversion : Conversion) (fit : Fit)

/-- One link of a chain of comparisons. -/
inductive Link where
  | mk (op : Comparison) (operand : Expr)

/-- A key and its value. -/
inductive Entry where
  | mk (key value : Expr)

/-- A part of a comprehension behind its body. -/
inductive Clause where
  | each (line : Nat) (target : Target) (source : Expr)
  | test (condition : Expr)

/-- What can be assigned to. -/
inductive Target where
  | name (id : Text)
  | items (line : Nat) (targets : List Target)
  | subscript (line : Nat) (owner index : Expr)
  | slice (line : Nat) (owner low high step : Expr)
  | field (line : Nat) (owner : Expr) (id : Text)

end

/-- A parameter of a function. -/
structure Parameter where
  /-- Its line. -/
  line : Nat
  /-- Its name. -/
  id : Text
  /-- Its value if the call gives none. -/
  fallback : Option Expr := none

mutual

/-- A statement. -/
inductive Statement where
  | expression (value : Expr)
  /-- `t₁ = t₂ = … = value` -/
  | assign (targets : List Target) (value : Expr)
  /-- `target += value` and the like; the target has one part. -/
  | augment (line : Nat) (target : Target) (op : BinaryOp) (value : Expr)
  | pass
  | leaveLoop (line : Nat)
  | nextRound (line : Nat)
  | giveBack (line : Nat) (value : Expr)
  | throwing (line : Nat) (value : Expr)
  | throwAgain (line : Nat)
  | branch (condition : Expr) (yes no : List Statement)
  | repeatWhile (line : Nat) (condition : Expr) (body otherwise : List Statement)
  | forEach (line : Nat) (target : Target) (source : Expr) (body otherwise : List Statement)
  | define (line : Nat) (id : Text) (parameters : List Parameter) (body : List Statement)
  | attempt (line : Nat) (body : List Statement) (handlers : List Handler)
      (otherwise final : List Statement)

/-- What is done about a failure. -/
inductive Handler where
  /-- `except:` -/
  | all (line : Nat) (body : List Statement)
  /-- `except kinds:` -/
  | only (line : Nat) (kinds : Expr) (body : List Statement)
  /-- `except kinds as id:` -/
  | bound (line : Nat) (kinds : Expr) (id : Text) (body : List Statement)

end

/-- A script: its statements in order. -/
abbrev Program := List Statement

end ViewEngine.Script
