/-
# The grammar of statements

The heads of blocks have two wrong forms each: one that lacks its colon at the end of the line, and
one behind which no block stands.
-/
import ViewEngine.Script.Grammar.Form

namespace ViewEngine.Script.Grammar

open StatementRule ExpressionRule TargetRule PatternRule

/-- The parameters of a definition. -/
def definitionParameters : Item := .rule (.parameter .definition .parameters)

/-- A head of a block whose items stand alone, or behind a word that makes it asynchronous. -/
def maybeAsync (head : List Item) : List Item := .opt ["async"] :: head

/-- The values with which a block can be begun. -/
def withValues : List Item :=
  ["with", .separated "," [expression, .opt ["as", starTarget]]]

/-- The values with which a block can be begun, in brackets. -/
def withValuesInBrackets : List Item :=
  ["with", "(", .separated "," [expressions, .opt ["as", starTarget]], .opt [","], ")"]

/-- The head of a class. -/
def classHead : List Item := ["class", .name, .opt ["(", .opt [arguments], ")"]]

/-- The head of a loop over values. -/
def forHead : List Item := ["for", starTargets, "in", starExpressions]

/-- The forms of a rule. -/
def StatementRule.forms : StatementRule → List Form
  | file => [form [.opt [statements], .finish]]
  | statements => [form [.some [statement]]]
  | statement => [form [compoundStatement], form [simpleStatements]]
  | simpleStatements =>
    [ form [simpleStatement, .notAhead [[";"]], .newline],
      form [.separated ";" [simpleStatement], .opt [";"], .newline] ]
  | simpleStatement =>
    [ form [assignment],
      form [starExpressions],
      upon ["return"] returnStatement,
      upon ["import", "from"] importStatement,
      upon ["raise"] raiseStatement,
      form ["pass"],
      upon ["del"] delStatement,
      upon ["yield"] yieldExpression,
      upon ["assert"] assertStatement,
      form ["break"],
      form ["continue"],
      upon ["global"] globalStatement,
      upon ["nonlocal"] nonlocalStatement ]
  | compoundStatement =>
    [ upon ["def", "@", "async"] functionDefinition,
      upon ["if"] ifStatement,
      upon ["class", "@"] classDefinition,
      upon ["with", "async"] withStatement,
      upon ["for", "async"] forStatement,
      upon ["try"] tryStatement,
      upon ["while"] whileStatement,
      form [matchStatement] ]
  | assignment =>
    [ form [.name, ":", expression, .opt ["=", assigned]],
      form [.either [["(", singleTarget, ")"], [part]], ":", expression,
        .opt ["=", assigned]],
      form [.some [starTargets, "="], assigned, .notAhead [["="]]],
      form [singleTarget, augment, .cut, assigned],
      wrong wrongAssignment ]
  | assigned => [form [yieldExpression], form [starExpressions]]
  | augment =>
    [form [oneOf
      ["+=", "-=", "*=", "@=", "/=", "%=", "&=", "|=", "^=", "<<=", ">>=", "**=", "//="]]]
  | returnStatement => [form ["return", .opt [starExpressions]]]
  | raiseStatement => [form ["raise", expression, .opt ["from", expression]], form ["raise"]]
  | globalStatement => [form ["global", .separated "," [.name]]]
  | nonlocalStatement => [form ["nonlocal", .separated "," [.name]]]
  | delStatement =>
    [form ["del", delTargets, .ahead [[";"], [.newline]]], wrong wrongDel]
  | assertStatement => [form ["assert", expression, .opt [",", expression]]]
  | importStatement => [form [importName], form [importFrom]]
  | importName => [form ["import", dottedAsNames]]
  | importFrom =>
    [ form ["from", .many [oneOf [".", "..."]], dottedName, "import", importTargets],
      form ["from", .some [oneOf [".", "..."]], "import", importTargets] ]
  | importTargets =>
    [ form ["(", importAsNames, .opt [","], ")"],
      form [importAsNames, .notAhead [[","]]],
      form ["*"],
      wrong wrongImportTargets ]
  | importAsNames => [form [.separated "," [importAsName]]]
  | importAsName => [form [.name, .opt ["as", .name]]]
  | dottedAsNames => [form [.separated "," [dottedAsName]]]
  | dottedAsName => [form [dottedName, .opt ["as", .name]]]
  | dottedName => [form [dottedName, ".", .name], form [.name]]
  | block =>
    [ form [.newline, .indent, statements, .dedent],
      form [simpleStatements],
      wrong wrongBlock ]
  | decorators => [form [.some ["@", namedExpression, .newline]]]
  | classDefinition => [form [decorators, classBody], form [classBody]]
  | classBody => [wrong wrongClass, form (classHead ++ [Item.sign ":", block])]
  | functionDefinition => [form [decorators, functionBody], form [functionBody]]
  | functionBody =>
    let body : List Item :=
      ["def", .name, .forced "(", .opt [definitionParameters], ")", .opt ["->", expression],
        .forced ":", block]
    [wrong wrongFunction, form body, form ("async" :: body)]
  | ifStatement =>
    [ wrong wrongIf,
      form ["if", namedExpression, ":", block, elifStatement],
      form ["if", namedExpression, ":", block, .opt [elseBlock]] ]
  | elifStatement =>
    [ wrong wrongElif,
      form ["elif", namedExpression, ":", block, elifStatement],
      form ["elif", namedExpression, ":", block, .opt [elseBlock]] ]
  | elseBlock => [wrong wrongElse, form ["else", .forced ":", block]]
  | whileStatement =>
    [wrong wrongWhile, form ["while", namedExpression, ":", block, .opt [elseBlock]]]
  | forStatement =>
    let body : List Item :=
      ["for", starTargets, "in", .cut, starExpressions, ":", block, .opt [elseBlock]]
    [wrong wrongFor, form body, form ("async" :: body), wrong wrongForTarget]
  | withStatement =>
    let inBrackets : List Item :=
      ["with", "(", .separated "," [withItem], .opt [","], ")", ":", block]
    let plain : List Item := ["with", .separated "," [withItem], ":", block]
    [ wrong wrongWithBlock,
      form inBrackets,
      form plain,
      form ("async" :: inBrackets),
      form ("async" :: plain),
      wrong wrongWith ]
  | withItem =>
    [ form [expression, "as", starTarget, .ahead [[","], [")"], [":"]]],
      wrong wrongWithItem,
      form [expression] ]
  | tryStatement =>
    [ wrong wrongTry,
      form ["try", .forced ":", block, finallyBlock],
      form ["try", .forced ":", block, .some [exceptBlock], .opt [elseBlock], .opt [finallyBlock]],
      form ["try", .forced ":", block, .some [exceptStarBlock], .opt [elseBlock],
        .opt [finallyBlock]] ]
  | exceptBlock =>
    [ wrong wrongExceptBlock,
      form ["except", expression, .opt ["as", .name], ":", block],
      form ["except", ":", block],
      wrong wrongExcept ]
  | exceptStarBlock =>
    [ wrong wrongExceptStarBlock,
      form ["except", "*", expression, .opt ["as", .name], ":", block],
      wrong wrongExcept ]
  | finallyBlock => [wrong wrongFinally, form ["finally", .forced ":", block]]
  | wrongAssignment =>
    [ form [wrongAnnotated, ":", expression] (.blame 0),
      form [starNamedExpression, ",", .many [starNamedExpressions], ":", expression] (.blame 0),
      form [expression, ":", expression] (.blame 0),
      form [.many [starTargets, "="], starExpressions, "="] (.blameTarget .assign 1),
      form [.many [starTargets, "="], yieldExpression, "="] (.blame 1),
      form [starExpressions, augment, assigned] (.blame 0) ]
  | wrongAnnotated => [form [list], form [tuple], form ["(", wrongAnnotated, ")"] (.pick 1)]
  | wrongDel => [form ["del", starExpressions] (.blameTarget .delete 1)]
  | wrongBlock => [form [.newline, .notAhead [[.indent]]] .blameLast]
  | wrongImportTargets => [form [importAsNames, ",", .newline] .blameLast]
  | wrongClass => [headWithoutColon classHead, headWithoutBlock classHead]
  | wrongFunction =>
    [headWithoutBlock (maybeAsync
      ["def", .name, "(", .opt [definitionParameters], ")", .opt ["->", expression]])]
  | wrongIf =>
    [headWithoutColon ["if", namedExpression], headWithoutBlock ["if", namedExpression]]
  | wrongElif =>
    [headWithoutColon ["elif", namedExpression], headWithoutBlock ["elif", namedExpression]]
  | wrongElse => [headWithoutBlock ["else"]]
  | wrongWhile =>
    [headWithoutColon ["while", namedExpression], headWithoutBlock ["while", namedExpression]]
  | wrongFor => [headWithoutColon (maybeAsync forHead), headWithoutBlock (maybeAsync forHead)]
  | wrongForTarget => [form (maybeAsync ["for", starExpressions]) (.blameTarget .loop 2)]
  | wrongWithBlock =>
    [headWithoutBlock (maybeAsync withValues), headWithoutBlock (maybeAsync withValuesInBrackets)]
  | wrongWith =>
    [headWithoutColon (maybeAsync withValues), headWithoutColon (maybeAsync withValuesInBrackets)]
  | wrongWithItem =>
    [form [expression, "as", expression, .ahead [[","], [")"], [":"]]] (.blameTarget .assign 2)]
  | wrongTry =>
    [ headWithoutBlock ["try"],
      form ["try", ":", block, .notAhead [["except"], ["finally"]]] .blameLast,
      form ["try", ":", .many [block],
        .either [[.some [exceptBlock], exceptStarBlock], [.some [exceptStarBlock], exceptBlock]],
        .many [block]] .blameLast ]
  | wrongExceptBlock =>
    [ headWithoutBlock ["except", expression, .opt ["as", .name]],
      headWithoutBlock ["except"] ]
  | wrongExceptStarBlock => [headWithoutBlock ["except", "*", expression, .opt ["as", .name]]]
  | wrongExcept =>
    [ form ["except", .opt ["*"], expression, ",", expressions, .opt ["as", .name], ":"] (.blame 2),
      headWithoutColon ["except", .opt ["*"], expression, .opt ["as", .name]],
      headWithoutColon ["except"],
      form ["except", "*", .either [[.newline], [":"]]] .blameLast ]
  | wrongFinally => [headWithoutBlock ["finally"]]

end ViewEngine.Script.Grammar
