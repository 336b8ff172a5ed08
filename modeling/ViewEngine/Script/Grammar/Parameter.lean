/-
# The grammar of parameters

Parameters stand in the brackets of a definition, where they may be annotated, or in front of the
colon of an expression that is a function.
-/
import ViewEngine.Script.Grammar.Form

namespace ViewEngine.Script.Grammar

open ExpressionRule ParameterRule

/-- The sign behind all parameters. -/
def Place.closing : Place → String
  | .definition => ")"
  | .lambda => ":"

/-- The forms of a rule at a place. -/
def ParameterRule.forms (p : Place) (r : ParameterRule) : List Form :=
  let at' (r : ParameterRule) : Item := .rule (.parameter p r)
  let closing : Item := p.closing
  let inDefinition (f : Form) : List Form := if p = .definition then [f] else []
  let closed (items : List Item) (action : Action) : List Form :=
    [form (items ++ [.sign ","]) action, form (items ++ [.ahead [[closing]]]) action]
  let anySlash : List (List Item) := [[at' slashPlain], [at' slashDefault]]
  let plainOrComma : Item := .either [[at' plain], [","]]
  match r with
  | parameters => [wrong (at' wrongParameters), form [at' allParameters]]
  | allParameters =>
    let rest : List Item := [.many [at' withDefault], .opt [at' starRest]]
    [ form ([at' slashPlain, .many [at' plain]] ++ rest),
      form (at' slashDefault :: rest),
      form (.some [at' plain] :: rest),
      form [.some [at' withDefault], .opt [at' starRest]],
      form [at' starRest] ]
  | slashPlain => closed [.some [at' plain], "/"] .keep
  | slashDefault => closed [.many [at' plain], .some [at' withDefault], "/"] .keep
  | starRest =>
    [ wrong (at' wrongStarRest),
      form ["*", at' plain, .many [at' maybeDefault], .opt [at' doubleStar]] ] ++
    inDefinition
      (form ["*", at' plainStar, .many [at' maybeDefault], .opt [at' doubleStar]]) ++
    [ form ["*", ",", .some [at' maybeDefault], .opt [at' doubleStar]],
      form [at' doubleStar] ]
  | doubleStar => [wrong (at' wrongDoubleStar), form ["**", at' plain]]
  | plain => closed [at' parameter] (.pick 0)
  | plainStar => closed [at' starParameter] (.pick 0)
  | withDefault => closed [at' parameter, at' fallback] (.pick 0)
  | maybeDefault => closed [at' parameter, .opt [at' fallback]] (.pick 0)
  | parameter =>
    if p = .definition then [form [.name, .opt [at' annotation]] (.pick 0)] else [form [.name]]
  | starParameter => [form [.name, at' starAnnotation] (.pick 0)]
  | annotation => [form [":", expression]]
  | starAnnotation => [form [":", starExpression]]
  | fallback => [form ["=", expression], wrong (at' wrongFallback)]
  | wrongParameters =>
    [ form [.many [at' plain], at' someDefaults, at' plain] (.blame 2),
      form [.many [at' plain], "(",
        if p = .definition then .some [at' plain] else .separated "," [at' parameter],
        .opt [","], ")"] (.blame 1),
      form ["/", ","] (.blame 0),
      form [.either anySlash, .many [at' maybeDefault], "/"] (.blame 2),
      form [.opt [.either anySlash], .many [at' maybeDefault], "*", .either [[","], [at' plain]],
        .many [at' maybeDefault], "/"] (.blame 5),
      form [.some [at' maybeDefault], "/", "*"] (.blame 2) ]
  | someDefaults => [form [at' slashDefault], form [.some [at' withDefault]]]
  | wrongFallback => [form ["=", .ahead [[")"], [","]]] (.blame 0)]
  | wrongStarRest =>
    [ form ["*", .either [[closing], [",", .either [[closing], ["**"]]]]]
        (if p = .definition then .blame 0 else .blameLast),
      form ["*", at' parameter, "="] (.blame 2),
      form ["*", plainOrComma, .many [at' maybeDefault], "*", plainOrComma] (.blame 3) ]
  | wrongDoubleStar =>
    [ form ["**", at' parameter, "="] (.blame 2),
      form ["**", at' parameter, ",", at' parameter] (.blame 3),
      form ["**", at' parameter, ",", oneOf ["*", "**", "/"]] (.blame 3) ]

end ViewEngine.Script.Grammar
