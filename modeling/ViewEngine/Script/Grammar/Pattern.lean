/-
# The grammar of patterns

A statement that chooses between patterns begins with words that may be identifiers elsewhere.
-/
import ViewEngine.Script.Grammar.Form

namespace ViewEngine.Script.Grammar

open StatementRule ExpressionRule PatternRule

/-- The forms of a rule. -/
def PatternRule.forms : PatternRule → List Form
  | matchStatement =>
    [ form [.soft "match", subject, ":", .newline, .indent, .some [caseBlock], .dedent],
      wrong wrongMatch ]
  | subject =>
    [form [starNamedExpression, ",", .opt [starNamedExpressions]], form [namedExpression]]
  | caseBlock =>
    [wrong wrongCase, form [.soft "case", patterns, .opt [guard], ":", block]]
  | guard => [form ["if", namedExpression]]
  | patterns => [form [openSequence], form [pattern]]
  | pattern => [form [asPattern], form [orPattern]]
  | asPattern => [form [orPattern, "as", captureTarget], wrong wrongAsPattern]
  | orPattern => [form [.separated "|" [closedPattern]]]
  | closedPattern =>
    [ form [literalPattern],
      form [captureTarget],
      form [wildcard],
      form [valuePattern],
      form [groupPattern],
      form [sequencePattern],
      form [mappingPattern],
      form [classPattern] ]
  | literalPattern | literal =>
    [ form [signedNumber, .notAhead [["+"], ["-"]]],
      form [complexNumber],
      form [strings],
      form ["None"],
      form ["True"],
      form ["False"] ]
  | complexNumber =>
    [form [signedNumber, "+", imaginaryNumber], form [signedNumber, "-", imaginaryNumber]]
  | signedNumber => [form [.number], form ["-", .number]]
  | imaginaryNumber => [form [.number] (.blame 0)]
  | captureTarget =>
    [form [.notAhead [[.soft "_"]], .name, .notAhead [["."], ["("], ["="]]]]
  | wildcard => [form [.soft "_"]]
  | valuePattern => [form [dotted, .notAhead [["."], ["("], ["="]]]]
  | dotted => [form [nameOrDotted, ".", .name]]
  | nameOrDotted => [form [dotted], form [.name]]
  | groupPattern => [form ["(", pattern, ")"] (.pick 1)]
  | sequencePattern =>
    [form ["[", .opt [someSequence], "]"], form ["(", .opt [openSequence], ")"]]
  | openSequence => [form [starablePattern, ",", .opt [someSequence]]]
  | someSequence => [form [.separated "," [starablePattern], .opt [","]]]
  | starablePattern => [form [starPattern], form [pattern]]
  | starPattern => [form ["*", captureTarget], form ["*", wildcard]]
  | mappingPattern =>
    [ form ["\x7b", "\x7d"],
      form ["\x7b", doubleStarPattern, .opt [","], "\x7d"],
      form ["\x7b", itemPatterns, ",", doubleStarPattern, .opt [","], "\x7d"],
      form ["\x7b", itemPatterns, .opt [","], "\x7d"] ]
  | itemPatterns => [form [.separated "," [itemPattern]]]
  | itemPattern => [form [.either [[literal], [dotted]], ":", pattern]]
  | doubleStarPattern => [form ["**", captureTarget]]
  | classPattern =>
    [ form [nameOrDotted, "(", ")"],
      form [nameOrDotted, "(", positionalPatterns, .opt [","], ")"],
      form [nameOrDotted, "(", keywordPatterns, .opt [","], ")"],
      form [nameOrDotted, "(", positionalPatterns, ",", keywordPatterns, .opt [","], ")"],
      wrong wrongClassPattern ]
  | positionalPatterns => [form [.separated "," [pattern]]]
  | keywordPatterns => [form [.separated "," [keywordPattern]]]
  | keywordPattern => [form [.name, "=", pattern]]
  | wrongMatch =>
    [headWithoutColon [.soft "match", subject], headWithoutBlock [.soft "match", subject]]
  | wrongCase =>
    let head : List Item := [.soft "case", patterns, .opt [guard]]
    [headWithoutColon head, headWithoutBlock head]
  | wrongAsPattern =>
    [ form [orPattern, "as", .soft "_"] (.blame 2),
      form [orPattern, "as", .notAhead [[.name]], expression] (.blame 2) ]
  | wrongClassPattern => [form [nameOrDotted, "(", wrongClassArguments] (.blame 2)]
  | wrongClassArguments =>
    [form [.opt [positionalPatterns, ","], keywordPatterns, ",", positionalPatterns] (.pick 3)]

end ViewEngine.Script.Grammar
