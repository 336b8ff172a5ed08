/-
# Data as a mapping

Where data under names are expected, a dictionary serves, and so does a sequence of pairs.
-/
import ViewEngine.Engine.Failure

namespace ViewEngine

open Script (Datum DatumEntry)

/-- Keys with their values. -/
abbrev Entries := List (Datum × Datum)

namespace Entries

/-- Are two keys the same text? -/
def sameKey : Datum → Datum → Bool
  | .text s, .text t => s = t
  | .int m, .int n => m = n
  | .bool a, .bool b => a = b
  | .none, .none => true
  | _, _ => false

/-- Gives a key a value: a key that is there keeps its place, a new one comes last. -/
def put (k v : Datum) : Entries → Entries
  | [] => [(k, v)]
  | e :: es => if sameKey e.1 k then (e.1, v) :: es else e :: put k v es

/-- One set of entries over another. -/
def putAll (es new : Entries) : Entries := new.foldl (fun es e => put e.1 e.2 es) es

/-- The entries whose keys are names. -/
def names (es : Entries) : Names Datum :=
  es.filterMap fun
    | (.text id, v) => some (id, v)
    | _ => none

/-- Values under names as entries. -/
def ofNames (ns : Names Datum) : Entries := ns.map fun n => (.text n.1, n.2)

end Entries

namespace Mapping

/-- The elements of a value, if it has any. -/
def elements? : Datum → Option (List Datum)
  | .list ds | .tuple ds => some ds
  | .text t => some (t.map fun c => .text [c])
  | .dict es => some (es.map fun | .mk k _ => k)
  | _ => none

/-- Refuses a value that cannot be a key. -/
def demandKey (k : Datum) : Except Failure Unit :=
  Failure.attempt do Script.demandKey (← k.load)

/-- The key and the value of the pair at a place of a sequence. -/
def pairAt (place : Nat) (d : Datum) : Except Failure (Datum × Datum) :=
  match elements? d with
  | some [k, v] => do
    demandKey k
    .ok (k, v)
  | some ds => .error (.complaint .value ("dictionary update sequence element #" ++
      Text.ofNat place ++ " has length " ++ Text.ofNat ds.length ++ "; 2 is required"))
  | none => .error (.complaint .type ("cannot convert dictionary update sequence element #" ++
      Text.ofNat place ++ " to a sequence"))

/-- The keys and values of a sequence of pairs. -/
def pairsFrom (place : Nat) : List Datum → Except Failure Entries
  | [] => .ok []
  | d :: ds => do
    let e ← pairAt place d
    let rest ← pairsFrom (place + 1) ds
    .ok (e :: rest)

/-- The entries that a value stands for. -/
def entries (d : Datum) : Except Failure Entries :=
  match d with
  | .dict es => .ok (Entries.putAll [] (es.map fun | .mk k v => (k, v)))
  | _ =>
    match elements? d with
    | some ds => (pairsFrom 0 ds).map fun es => Entries.putAll [] es
    | none => .error (.complaint .type ("'" ++ d.typeName ++ "' object is not iterable"))

/-- The entries of a value that may be absent; what counts as false has none. -/
def entriesOrNone (d : Option Datum) : Except Failure Entries :=
  match d with
  | none => .ok []
  | some d => if d.isTrue then entries d else .ok []

/-- The data that a view sees of a mapping: those under names. -/
def context (d : Datum) : Except Failure (Names Datum) := (entries d).map Entries.names

end Mapping
end ViewEngine
