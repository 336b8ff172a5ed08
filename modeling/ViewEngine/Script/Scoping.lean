/-
# Names that a script binds and mentions

A function has names of its own: its parameters and all names that its statements bind.  The names
that it mentions without binding them come from the scopes around it; the same holds of a
comprehension, which binds the targets of its clauses.
-/
import ViewEngine.Script.Syntax

namespace ViewEngine.Script

/-! ### Binding -/

mutual

/-- The names that a target binds. -/
def Target.names : Target → List Text
  | .name id => [id]
  | .items _ ts => targetNames ts
  | .subscript .. | .slice .. | .field .. => []

/-- The names that targets bind. -/
def targetNames : List Target → List Text
  | [] => []
  | t :: ts => t.names ++ targetNames ts

end

mutual

/-- The names that a statement binds. -/
def Statement.names : Statement → List Text
  | .assign ts _ => targetNames ts
  | .augment _ t _ _ => t.names
  | .branch _ yes no => statementNames yes ++ statementNames no
  | .repeatWhile _ _ body otherwise => statementNames body ++ statementNames otherwise
  | .forEach _ t _ body otherwise => t.names ++ statementNames body ++ statementNames otherwise
  | .define _ id _ _ => [id]
  | .attempt _ body handlers otherwise final =>
    statementNames body ++ handlerNames handlers ++ statementNames otherwise ++
      statementNames final
  | .expression _ | .pass | .leaveLoop _ | .nextRound _ | .giveBack .. | .throwing ..
  | .throwAgain _ => []

/-- The names that statements bind. -/
def statementNames : List Statement → List Text
  | [] => []
  | s :: ss => s.names ++ statementNames ss

/-- The names that handlers bind. -/
def handlerNames : List Handler → List Text
  | [] => []
  | .all _ body :: hs => statementNames body ++ handlerNames hs
  | .only _ _ body :: hs => statementNames body ++ handlerNames hs
  | .bound _ _ id body :: hs => id :: statementNames body ++ handlerNames hs

end

/-- The names that the clauses of a comprehension bind. -/
def clauseNames : List Clause → List Text
  | [] => []
  | .each _ t _ :: cs => t.names ++ clauseNames cs
  | .test _ :: cs => clauseNames cs

/-! ### Mentioning -/

/-- Names without those of a scope. -/
def outside (own names : List Text) : List Text := names.filter fun n => !own.contains n

mutual

/-- The names that an expression mentions. -/
def Expr.mentions : Expr → List Text
  | .constant _ => []
  | .name _ id => [id]
  | .formatted ps => partMentions ps
  | .unary _ _ a | .negation a | .field _ a _ | .starred _ a => a.mentions
  | .binary _ _ a b | .conjunction a b | .disjunction a b | .subscript _ a b =>
    a.mentions ++ b.mentions
  | .compare _ a links => a.mentions ++ linkMentions links
  | .choice k a b => k.mentions ++ a.mentions ++ b.mentions
  | .tuple _ items | .list _ items => itemMentions items
  | .dict _ entries => entryMentions entries
  | .comprehension _ body clauses =>
    match clauses with
    | .each _ t source :: rest =>
      source.mentions ++
        outside (t.names ++ clauseNames rest) (body.mentions ++ t.mentions ++ clauseMentions rest)
    | _ => []
  | .slice _ a b c d => a.mentions ++ b.mentions ++ c.mentions ++ d.mentions
  | .call _ f items => f.mentions ++ itemMentions items

/-- The names that parts of a formatted string mention. -/
def partMentions : List FormatPart → List Text
  | [] => []
  | .text _ :: ps => partMentions ps
  | .value _ e _ _ :: ps => e.mentions ++ partMentions ps

/-- The names that links of a chain of comparisons mention. -/
def linkMentions : List Link → List Text
  | [] => []
  | .mk _ e :: ls => e.mentions ++ linkMentions ls

/-- The names that items mention. -/
def itemMentions : List Item → List Text
  | [] => []
  | .plain e :: is => e.mentions ++ itemMentions is
  | .spread e :: is => e.mentions ++ itemMentions is
  | .keyword _ _ e :: is => e.mentions ++ itemMentions is

/-- The names that entries mention. -/
def entryMentions : List Entry → List Text
  | [] => []
  | .mk k v :: es => k.mentions ++ v.mentions ++ entryMentions es

/-- The names that clauses mention. -/
def clauseMentions : List Clause → List Text
  | [] => []
  | .each _ t e :: cs => t.mentions ++ e.mentions ++ clauseMentions cs
  | .test e :: cs => e.mentions ++ clauseMentions cs

/-- The names that a target mentions, those that it binds among them. -/
def Target.mentions : Target → List Text
  | .name id => [id]
  | .items _ ts => targetMentions ts
  | .subscript _ a b => a.mentions ++ b.mentions
  | .slice _ a b c d => a.mentions ++ b.mentions ++ c.mentions ++ d.mentions
  | .field _ a _ => a.mentions

/-- The names that targets mention. -/
def targetMentions : List Target → List Text
  | [] => []
  | t :: ts => t.mentions ++ targetMentions ts

end

/-- The names that the values of parameters mention. -/
def parameterMentions (ps : List Parameter) : List Text :=
  ps.flatMap fun p => match p.fallback with
    | some e => e.mentions
    | none => []

mutual

/-- The names that a statement mentions. -/
def Statement.mentions : Statement → List Text
  | .expression e | .giveBack _ e | .throwing _ e => e.mentions
  | .assign ts e => targetMentions ts ++ e.mentions
  | .augment _ t _ e => t.mentions ++ e.mentions
  | .pass | .leaveLoop _ | .nextRound _ | .throwAgain _ => []
  | .branch k yes no => k.mentions ++ statementMentions yes ++ statementMentions no
  | .repeatWhile _ k body otherwise =>
    k.mentions ++ statementMentions body ++ statementMentions otherwise
  | .forEach _ t e body otherwise =>
    t.mentions ++ e.mentions ++ statementMentions body ++ statementMentions otherwise
  | .define _ id ps body =>
    id :: parameterMentions ps ++
      outside (ps.map (·.id) ++ statementNames body) (statementMentions body)
  | .attempt _ body handlers otherwise final =>
    statementMentions body ++ handlerMentions handlers ++ statementMentions otherwise ++
      statementMentions final

/-- The names that statements mention. -/
def statementMentions : List Statement → List Text
  | [] => []
  | s :: ss => s.mentions ++ statementMentions ss

/-- The names that handlers mention. -/
def handlerMentions : List Handler → List Text
  | [] => []
  | .all _ body :: hs => statementMentions body ++ handlerMentions hs
  | .only _ e body :: hs => e.mentions ++ statementMentions body ++ handlerMentions hs
  | .bound _ e id body :: hs => id :: e.mentions ++ statementMentions body ++ handlerMentions hs

end

end ViewEngine.Script
