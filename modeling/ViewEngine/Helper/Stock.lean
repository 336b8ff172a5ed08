/-
# The stock of helpers

Helpers that a host can register under names of its choice: for markup, for texts, for amounts and
numbers, and some that fail, with which the reports of failures can be tried out.
-/
import ViewEngine.Decimal.Fixed
import ViewEngine.Html.Escape
import ViewEngine.Script.Eval

namespace ViewEngine.Helper

open Script

/-- Helpers with one value. -/
def unary (id parameter : String) (body : Value → Run Value) : Script.Helper :=
  .ofSignature id id [(parameter, none)] fun
    | v :: _ => body v
    | [] => body .none

/-- Helpers without values. -/
def constant (id : String) (v : Value) : Script.Helper := .ofSignature id id [] fun _ => return v

/-- The name of the helper that escapes for markup. -/
def escapeId : Text := "escape"

/-- The text of a value, escaped for markup; nothing has the empty text. -/
def escapeValue (v : Value) : Run Value :=
  match v with
  | .none => Run.newText []
  | _ => do Run.pieceOf (Html.escape (← v.plain))

/-- Escapes for markup. -/
def escape : Script.Helper :=
  .ofSignature escapeId "html_escape" [("value", none)] fun
    | v :: _ => escapeValue v
    | [] => escapeValue .none

/-- The text of a value between two others. -/
def enclose (opening closing : Text) (v : Value) : Run Value := do
  Run.newText (opening ++ (← v.plain) ++ closing)

/-- The texts of values with commas between them; a single one stays itself. -/
def joined (vs : List Value) : Run Value := do
  let ws ← vs.mapM Value.asText
  match ws with
  | [w] => return w
  | _ => Run.newText (Text.joinWith [','] (← ws.mapM Value.plain))

/-! ### Amounts and numbers -/

/-- The text of an amount. -/
def amountText (v : Value) : Run Text :=
  match v.number? with
  | some n => do return Decimal.amount (← n.toFloat)
  | none =>
    match v with
    | .text .. => Run.fail .value "Unknown format code 'f' for object of type 'str'"
    | _ => do
      Run.fail .type ("unsupported format string passed to " ++ (← v.typeName) ++ ".__format__")

/-- An amount with its currency in front. -/
def money : Script.Helper :=
  .ofSignature "money" "money" [("amount", none), ("currency", some (.text .common "$"))] fun
    | [amount, currency] => do
      let c ← currency.plain
      Run.newText (c ++ (← amountText amount))
    | _ => return .none

/-- The singular for one, else the plural. -/
def pluralize : Script.Helper :=
  .ofSignature "pluralize" "pluralize" [("n", none), ("singular", none), ("plural", none)] fun
    | [n, singular, plural] => do
      if ← equal n (.int .common 1) then return singular else return plural
    | _ => return .none

/-- Is no number among the next `count` ones from `i` on a divisor? -/
def noDivisor (v : Value) : Nat → Nat → Run Bool
  | _, 0 => return true
  | i, count + 1 => do
    let r ← operate .remainder false v (← Run.newInt i)
    if ← isTrue r then noDivisor v (i + 1) count else return false

/-- Is the number prime?  Divisors are tried up to the square root. -/
def primality (v : Value) : Run Value := do
  if ← ordered .lt v (.int .common 2) then return .bool false
  else
    let root ← operate .power false v (.float .common 0.5)
    match ← toInt root with
    | .int _ k => return .bool (← noDivisor v 2 (k - 1).toNat)
    | _ => return .none

/-! ### The stock -/

/-- All helpers. -/
def stock : List Script.Helper :=
  [ escape,
    unary "upper" "s" fun v => do Run.newText (Text.upper (← v.plain)),
    unary "shout" "s" fun v => do Run.newText (Text.upper (← v.plain) ++ ['!']),
    unary "double" "n" fun v => operate .multiply false v (.int .common 2),
    unary "wrap" "v" (enclose ['('] [')']),
    unary "bracket" "v" (enclose ['['] [']']),
    constant "one" (.int .common 1),
    constant "two" (.int .common 2),
    constant "v1" (.text .common "v1"),
    constant "v2" (.text .common "v2"),
    .variadic "none" fun _ => return .none,
    unary "same" "v" fun v => return v,
    .variadic "join" joined,
    .failing "fail" .value (some "bad helper"),
    .failing "fail_empty" .runtime none,
    .failing "fail_padded" .runtime (some "  padded text \n"),
    .failing "fail_key" .key (some "lost"),
    .failing "fail_name" .name (some "name 'ghost' is not defined"),
    .failing "fail_template" (.engine (.notFound "View 'inner' not found")) none,
    .failing "fail_runtime"
      (.engine (.runtime { message := "inner failure", name := some "inner", line := some 7 })) none,
    money, pluralize, unary "is_prime" "n" primality ]

end ViewEngine.Helper
