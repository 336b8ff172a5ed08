/-
# The grammar of expressions

The rules go from the loosest binding to the tightest.  A rule may begin with itself; it then reads
as much as it can.
-/
import ViewEngine.Script.Grammar.Form

namespace ViewEngine.Script.Grammar

open ExpressionRule TargetRule

/-- The parameters of an expression that is a function. -/
def lambdaParameters : Item := .rule (.parameter .lambda .parameters)

/-- An expression that nothing binds a name to. -/
def unboundExpression : List Item := [expression, .notAhead [[":="]]]

/-- The forms of operators of one strength: an operation, or a stronger one. -/
def operation (self : Item) (signs : List String) (stronger : Item) : List Form :=
  signs.map (fun s => form [self, .sign s, stronger]) ++ [form [stronger]]

/-- The forms of a rule. -/
def ExpressionRule.forms : ExpressionRule → List Form
  | expressions =>
    [ form [expression, .some [",", expression], .opt [","]],
      form [expression, ","],
      form [expression] ]
  | expression =>
    [ wrong wrongExpression,
      wrong wrongLegacy,
      form [disjunction, "if", disjunction, "else", expression],
      form [disjunction],
      form [lambda] ]
  | trustedExpression =>
    [ form [disjunction, "if", disjunction, "else", expression],
      form [disjunction],
      form [lambda] ]
  | yieldExpression =>
    [form ["yield", "from", expression], form ["yield", .opt [starExpressions]]]
  | starExpressions =>
    [ form [starExpression, .some [",", starExpression], .opt [","]] (.items [0, 1]),
      form [starExpression, ","] (.items [0]),
      form [starExpression] ]
  | starExpression => [form ["*", bitwiseOr] (.star 1), form [expression]]
  | starNamedExpressions => [form [.separated "," [starNamedExpression], .opt [","]] (.pick 0)]
  | starNamedExpression => [form ["*", bitwiseOr] (.star 1), form [namedExpression]]
  | assignmentExpression => [form [.name, ":=", .cut, expression]]
  | namedExpression =>
    [form [assignmentExpression], wrong wrongNamed, form unboundExpression]
  | disjunction => [form [conjunction, .some ["or", conjunction]], form [conjunction]]
  | conjunction => [form [inversion, .some ["and", inversion]], form [inversion]]
  | inversion => [form ["not", inversion], form [comparison]]
  | comparison => [form [bitwiseOr, .some [comparisonLink]] .chain, form [bitwiseOr]]
  | comparisonLink =>
    [ form [oneOf ["==", "!=", "<=", "<", ">=", ">"], bitwiseOr],
      form ["not", "in", bitwiseOr],
      form ["in", bitwiseOr] .membership,
      form ["is", "not", bitwiseOr],
      form ["is", bitwiseOr] ]
  | bitwiseOr => operation bitwiseOr ["|"] bitwiseXor
  | bitwiseXor => operation bitwiseXor ["^"] bitwiseAnd
  | bitwiseAnd => operation bitwiseAnd ["&"] shift
  | shift => operation shift ["<<", ">>"] sum
  | sum => operation sum ["+", "-"] term
  | term => operation term ["*", "/", "//", "%", "@"] factor
  | factor => [form ["+", factor], form ["-", factor], form ["~", factor], form [power]]
  | power => [form [awaited, "**", factor], form [awaited]]
  | awaited => [form ["await", primary], form [primary]]
  | primary =>
    [ form [primary, ".", .name] .place,
      form [primary, generator],
      form [primary, "(", .opt [arguments], ")"],
      form [primary, "[", slices, "]"] .place,
      form [atom] ]
  | slices =>
    [ form [slice, .notAhead [[","]]],
      form [.separated "," [.either [[slice], [starred]]], .opt [","]] ]
  | slice =>
    [ form [.opt [expression], ":", .opt [expression], .opt [":", .opt [expression]]],
      form [namedExpression] ]
  | atom =>
    [ form [.name],
      form ["True"],
      form ["False"],
      form ["None"],
      form [.ahead [[.string]], strings],
      form [.number],
      form [.ahead [["("]], .either [[tuple], [group], [generator]]],
      form [.ahead [["["]], .either [[list], [listComprehension]]],
      form [.ahead [["\x7b"]],
        .either [[dict], [set], [dictComprehension], [setComprehension]]],
      form ["..."] ]
  | group =>
    [form ["(", .either [[yieldExpression], [namedExpression]], ")"] (.pick 1), wrong wrongGroup]
  | lambda => [form ["lambda", .opt [lambdaParameters], ":", expression]]
  | strings => [form [.some [.string]] .strings]
  | list => [form ["[", .opt [starNamedExpressions], "]"] (.items [1])]
  | tuple =>
    [ form ["(", starNamedExpression, ",", .opt [starNamedExpressions], ")"] (.items [1, 3]),
      form ["(", ")"] (.items []) ]
  | set => [form ["\x7b", starNamedExpressions, "\x7d"]]
  | dict => [form ["\x7b", .opt [pairs], "\x7d"], form ["\x7b", wrongPairs, "\x7d"]]
  | pairs => [form [.separated "," [pair], .opt [","]]]
  | pair => [form ["**", bitwiseOr], form [keyAndValue]]
  | keyAndValue => [form [expression, ":", expression]]
  | forIfClauses => [form [.some [forIfClause]]]
  | forIfClause =>
    let clause : List Item :=
      ["for", starTargets, "in", .cut, disjunction, .many ["if", disjunction]]
    [form ("async" :: clause), form clause, wrong StatementRule.wrongForTarget]
  | listComprehension =>
    [form ["[", namedExpression, forIfClauses, "]"], wrong wrongComprehension]
  | setComprehension =>
    [form ["\x7b", namedExpression, forIfClauses, "\x7d"], wrong wrongComprehension]
  | generator =>
    [ form ["(", .either [[assignmentExpression], unboundExpression], forIfClauses, ")"],
      wrong wrongComprehension ]
  | dictComprehension =>
    [form ["\x7b", keyAndValue, forIfClauses, "\x7d"], wrong wrongDictComprehension]
  | arguments => [form [positional, .opt [","], .ahead [[")"]]] (.pick 0), wrong wrongArguments]
  | positional =>
    [ form [.separated ","
        [.either [[starred],
          [.either [[assignmentExpression], unboundExpression], .notAhead [["="]]]]],
        .opt [",", keywords]] (.join [0, 1]),
      form [keywords] ]
  | keywords =>
    [ form [.separated "," [keywordOrStarred], ",", .separated "," [keywordOrDoubleStarred]]
        (.join [0, 2]),
      form [.separated "," [keywordOrStarred]],
      form [.separated "," [keywordOrDoubleStarred]] ]
  | starred => [form ["*", expression] (.star 1), form ["*"] .blameLast]
  | keywordOrStarred =>
    [wrong wrongKeyword, form [.name, "=", expression] .forget, form [starred]]
  | keywordOrDoubleStarred =>
    [wrong wrongKeyword, form [.name, "=", expression] .forget, form ["**", expression] .forget]
  | wrongExpression =>
    [ form [.notAhead [[.name, .string], [.softStart]], disjunction, trustedExpression] .blameGap,
      form [disjunction, "if", disjunction, .notAhead [["else"], [":"]]] (.blame 0) ]
  | wrongLegacy => [form [.name, .notAhead [["("]], starExpressions] .blameLegacy]
  | wrongNamed =>
    [ form [expression, ":=", expression] (.blame 0),
      form [.name, "=", bitwiseOr, .notAhead [["="], [":="]]] (.blame 0),
      form [.notAhead [[list], [tuple], [generator], ["True"], ["None"], ["False"]], bitwiseOr, "=",
        bitwiseOr, .notAhead [["="], [":="]]] (.blame 0) ]
  | wrongComprehension =>
    [ form [oneOf ["[", "(", "\x7b"], starred, forIfClauses] (.blame 1),
      form [oneOf ["[", "\x7b"], starNamedExpression, ",", starNamedExpressions, forIfClauses]
        (.blame 1),
      form [oneOf ["[", "\x7b"], starNamedExpression, ",", forIfClauses] (.blame 1) ]
  | wrongDictComprehension => [form ["\x7b", "**", bitwiseOr, forIfClauses, "\x7d"] (.blame 1)]
  | wrongGroup =>
    [form ["(", starred, ")"] (.blame 1), form ["(", "**", expression, ")"] (.blame 1)]
  | wrongPairs =>
    [ form [.separated "," [pair], ",", wrongPair],
      form [expression, ":", "*", bitwiseOr] (.blame 2),
      form [expression, ":", .ahead [["\x7d"], [","]]] (.blame 1) ]
  | wrongPair =>
    [ form [expression, .notAhead [[":"]]] (.blame 0),
      form [expression, ":", "*", bitwiseOr] (.blame 2),
      form [expression, ":", .ahead [["\x7d"], [","]]] (.blame 1) ]
  | wrongArguments =>
    [ form [positional, ",", "*"] (.blame 0),
      form [expression, forIfClauses, ",", .opt [.either [[positional], [expression, forIfClauses]]]]
        (.blame 0),
      form [.name, "=", expression, forIfClauses] (.blame 0),
      form [positional, forIfClauses] .blameArgument,
      form [positional, ",", expression, forIfClauses] (.blame 2),
      form [positional, ",", positional] .blameLast ]
  | wrongKeyword =>
    [ form [oneOf ["True", "False", "None"], "="] (.blame 0),
      form [.name, "=", expression, forIfClauses] (.blame 0),
      form [.notAhead [[.name, "="]], expression, "="] (.blame 0) ]

end ViewEngine.Script.Grammar
