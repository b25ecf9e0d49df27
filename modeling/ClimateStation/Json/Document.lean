import ClimateStation.Json.Token

/-! Reading a JSON text. The tokens are read one by one by a machine that keeps the arrays and
objects that are still open, so the depth of a text costs nothing but that list, and reading a
text in two parts is reading it at once. -/
namespace ClimateStation.Json

/-- An array or object that is still open, with what it holds so far. -/
inductive Open
  | array (items : List Value)
  /-- The value read next belongs to the key. -/
  | object (members : List (Points × Value)) (key : Points)
  deriving Repr

/-- What the machine has read, and with it what may come next. -/
inductive Stage
  /-- A value must come. -/
  | value (outer : List Open)
  /-- An array was opened: a value or its end. -/
  | firstItem (outer : List Open)
  /-- An object was opened: a key or its end. -/
  | firstKey (outer : List Open)
  /-- A comma in an object: a key must come. -/
  | key (members : List (Points × Value)) (outer : List Open)
  /-- A key: a colon must come. -/
  | colon (members : List (Points × Value)) (key : Points) (outer : List Open)
  /-- A value is complete. -/
  | complete (v : Value) (outer : List Open)
  deriving Repr

namespace Stage

def start : Stage := .value []

def beginValue (outer : List Open) : Token → Option Stage
  | .null => some (.complete .null outer)
  | .bool b => some (.complete (.bool b) outer)
  | .number n => some (.complete (.number n) outer)
  | .string ps => some (.complete (.string ps) outer)
  | .openBracket => some (.firstItem outer)
  | .openBrace => some (.firstKey outer)
  | _ => none

def step (stage : Stage) (t : Token) : Option Stage :=
  match stage, t with
  | .value outer, t => beginValue outer t
  | .firstItem outer, .closeBracket => some (.complete (.array []) outer)
  | .firstItem outer, t => beginValue (.array [] :: outer) t
  | .firstKey outer, .closeBrace => some (.complete (.object []) outer)
  | .firstKey outer, .string k => some (.colon [] k outer)
  | .key members outer, .string k => some (.colon members k outer)
  | .colon members k outer, .colon => some (.value (.object members k :: outer))
  | .complete v (.array items :: outer), .comma => some (.value (.array (items ++ [v]) :: outer))
  | .complete v (.array items :: outer), .closeBracket =>
    some (.complete (.array (items ++ [v])) outer)
  | .complete v (.object members k :: outer), .comma => some (.key (members ++ [(k, v)]) outer)
  | .complete v (.object members k :: outer), .closeBrace =>
    some (.complete (.object (members ++ [(k, v)])) outer)
  | _, _ => none

def run (stage : Stage) : List Token → Option Stage
  | [] => some stage
  | t :: ts => (stage.step t).bind (run · ts)

theorem run_append (stage : Stage) (ts us : List Token) :
    stage.run (ts ++ us) = (stage.run ts).bind (run · us) := by
  induction ts generalizing stage with
  | nil => rfl
  | cons t ts ih =>
    simp only [List.cons_append, run]
    cases stage.step t with
    | none => rfl
    | some next => exact ih next

/-- A value with nothing open around it. -/
def result? : Stage → Option Value
  | .complete v [] => some v
  | _ => none

end Stage

def Value.ofTokens? (ts : List Token) : Option Value := (Stage.start.run ts).bind Stage.result?

def Value.ofText? (s : List Char) : Option Value := (Token.list? s).bind Value.ofTokens?

end ClimateStation.Json
