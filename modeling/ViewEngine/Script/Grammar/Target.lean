/-
# The grammar of targets

A target is an identifier, an attribute, a part of a container, or a list or a tuple of targets.
-/
import ViewEngine.Script.Grammar.Form

namespace ViewEngine.Script.Grammar

open ExpressionRule TargetRule

/-- What continues the container of a part. -/
def partSigns : List (List Item) := [["("], ["["], ["."]]

/-- The forms of a rule. -/
def TargetRule.forms : TargetRule → List Form
  | starTargets =>
    [ form [starTarget, .notAhead [[","]]],
      form [starTarget, .many [",", starTarget], .opt [","]] ]
  | starTargetList => [form [.separated "," [starTarget], .opt [","]]]
  | starTargetTuple =>
    [form [starTarget, .some [",", starTarget], .opt [","]], form [starTarget, ","]]
  | starTarget => [form ["*", .notAhead [["*"]], starTarget], form [starAtomTarget]]
  | starAtomTarget => [form [part], form [starAtom]]
  | starAtom =>
    [ form [.name],
      form ["(", starAtomTarget, ")"],
      form ["(", .opt [starTargetTuple], ")"],
      form ["[", .opt [starTargetList], "]"] ]
  | singleTarget => [form [part], form [.name], form ["(", singleTarget, ")"]]
  | part =>
    [ form [partAhead, ".", .name, .notAhead partSigns],
      form [partAhead, "[", slices, "]", .notAhead partSigns] ]
  | partAhead =>
    [ form [partAhead, ".", .name, .ahead partSigns],
      form [partAhead, "[", slices, "]", .ahead partSigns],
      form [partAhead, generator, .ahead partSigns],
      form [partAhead, "(", .opt [arguments], ")", .ahead partSigns],
      form [atom, .ahead partSigns] ]
  | delTargets => [form [.separated "," [delTarget], .opt [","]]]
  | delTarget => [form [part], form [delAtom]]
  | delAtom =>
    [ form [.name],
      form ["(", delTarget, ")"],
      form ["(", .opt [delTargets], ")"],
      form ["[", .opt [delTargets], "]"] ]

end ViewEngine.Script.Grammar
