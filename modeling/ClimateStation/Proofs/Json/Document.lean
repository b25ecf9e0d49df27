import ClimateStation.Json.Document
import ClimateStation.Proofs.Json.Token
import Mathlib.Tactic.Choose

/-! Texts that write values. What the machine makes of the tokens of a value does not depend on what
is open around it, so a text that writes an array or an object is put together from texts that write
its items or members. In the end every text that the grammar has for a value is read as the value. -/
namespace ClimateStation.Json

/-! ## Tokens of values -/

/-- Where a value must come, the machine reads the tokens as the value. -/
def Completes (ts : List Token) (v : Value) : Prop :=
  ∀ outer, (Stage.value outer).run ts = some (.complete v outer)

/-- The tokens are a key, a colon and those of a value. -/
def CompletesMember (ts : List Token) (m : Points × Value) : Prop :=
  ∃ rest, ts = .string m.1 :: .colon :: rest ∧ Completes rest m.2

lemma completes_bool (b : Bool) : Completes [.bool b] (.bool b) := fun _ => rfl
lemma completes_number (n : Number) : Completes [.number n] (.number n) := fun _ => rfl
lemma completes_string (ps : Points) : Completes [.string ps] (.string ps) := fun _ => rfl

namespace Stage

/-- Where the first item of an array may come, so may its end; but no value starts with that. -/
lemma run_firstItem {ts : List Token} {v : Value} (completes : Completes ts v) (more : List Token)
    (outer : List Open) :
    (firstItem outer).run (ts ++ more) = (value (.array [] :: outer)).run (ts ++ more) := by
  have alone := completes []
  cases ts with
  | nil => cases alone
  | cons t ts =>
    cases t with
    | closeBracket => cases alone
    | _ => rfl

lemma run_member {ts : List Token} {m : Points × Value} (completes : CompletesMember ts m)
    (done : List (Points × Value)) (outer : List Open) :
    (key done outer).run ts = some (.complete m.2 (.object done m.1 :: outer)) := by
  obtain ⟨rest,rfl,value⟩ := completes
  exact value _

lemma run_firstKey {ts : List Token} {m : Points × Value} (completes : CompletesMember ts m)
    (more : List Token) (outer : List Open) :
    (firstKey outer).run (ts ++ more) = (key [] outer).run (ts ++ more) := by
  obtain ⟨rest,rfl,-⟩ := completes
  rfl

/-- Parts with commas between them and an end are read one after the other. `before` is the stage in
which a part must come behind those that are done, and `behind` the stage in which it is complete. -/
lemma run_separated {α β : Type} (before : List β → Stage) (behind : List β → β → Stage)
    (whole : List β → Stage) (finish : Token) {tokens : α → List Token} {part : α → β}
    (comma : ∀ done b, (behind done b).step .comma = some (before (done ++ [b])))
    (last : ∀ done b, (behind done b).step finish = some (whole (done ++ [b])))
    (x : α) (xs : List α)
    (each : ∀ y ∈ x :: xs, ∀ done, (before done).run (tokens y) = some (behind done (part y)))
    (done : List β) :
    (before done).run ([Token.comma].intercalate ((x :: xs).map tokens) ++ [finish]) =
      some (whole (done ++ (x :: xs).map part)) := by
  induction xs generalizing x done with
  | nil =>
    rw [List.map_singleton,List.map_singleton,List.intercalate_singleton,run_append,
      each x (List.mem_singleton_self x),Option.bind_some,run,last]
    rfl
  | cons y ys ih =>
    obtain ⟨first,rest⟩ := List.forall_mem_cons.mp each
    have split : [Token.comma].intercalate ((x :: y :: ys).map tokens) ++ [finish] =
        tokens x ++ .comma :: ([Token.comma].intercalate ((y :: ys).map tokens) ++ [finish]) := by
      simp
    rw [split,run_append,first,Option.bind_some,run,comma,Option.bind_some,ih y rest]
    simp

end Stage

lemma intercalate_cons (t : List Token) (ts : List (List Token)) :
    ∃ more, [Token.comma].intercalate (t :: ts) = t ++ more := by
  cases ts with
  | nil => exact ⟨[],by simp⟩
  | cons u us => exact ⟨.comma :: [Token.comma].intercalate (u :: us),by simp⟩

section
variable {α : Type} {xs : List α} {tokens : α → List Token}

lemma completes_array {item : α → Value} (each : ∀ x ∈ xs, Completes (tokens x) (item x)) :
    Completes (.openBracket :: ([Token.comma].intercalate (xs.map tokens) ++ [.closeBracket]))
      (.array (xs.map item)) := by
  intro outer
  cases xs with
  | nil => rfl
  | cons x xs =>
    have items := Stage.run_separated (fun done => .value (.array done :: outer))
      (fun done v => .complete v (.array done :: outer)) (fun all => .complete (.array all) outer)
      .closeBracket (fun _ _ => rfl) (fun _ _ => rfl) x xs (fun y member done => each y member _) []
    obtain ⟨more,split⟩ := intercalate_cons (tokens x) (xs.map tokens)
    have first := Stage.run_firstItem (each x List.mem_cons_self) (more ++ [.closeBracket]) outer
    rw [List.map_cons,split,List.append_assoc] at items ⊢
    exact first.trans items

lemma completes_object {member : α → Points × Value}
    (each : ∀ x ∈ xs, CompletesMember (tokens x) (member x)) :
    Completes (.openBrace :: ([Token.comma].intercalate (xs.map tokens) ++ [.closeBrace]))
      (.object (xs.map member)) := by
  intro outer
  cases xs with
  | nil => rfl
  | cons x xs =>
    have members := Stage.run_separated (fun done => .key done outer)
      (fun done m => .complete m.2 (.object done m.1 :: outer))
      (fun all => .complete (.object all) outer) .closeBrace (fun _ _ => rfl) (fun _ _ => rfl) x xs
      (fun y within done => Stage.run_member (each y within) done outer) []
    obtain ⟨more,split⟩ := intercalate_cons (tokens x) (xs.map tokens)
    have first := Stage.run_firstKey (each x List.mem_cons_self) (more ++ [.closeBrace]) outer
    rw [List.map_cons,split,List.append_assoc] at members ⊢
    exact first.trans members

end

/-! ## Texts of values -/

/-- The text writes the value, unless something follows that its last number goes on with. -/
def Writes (s : List Char) (v : Value) : Prop := ∃ ts, Token.Reads s ts ∧ Completes ts v

/-- The text writes a key and its value. -/
def WritesMember (s : List Char) (m : Points × Value) : Prop :=
  ∃ ts, Token.Reads s ts ∧ CompletesMember ts m

lemma reads_intercalate {α : Type} {xs : List α} {text : α → List Char} {tokens : α → List Token}
    (reads : ∀ x ∈ xs, Token.Reads (text x) (tokens x)) :
    Token.Reads ([','].intercalate (xs.map text)) ([Token.comma].intercalate (xs.map tokens)) := by
  induction xs with
  | nil => exact Token.Reads.nil
  | cons x xs ih =>
    obtain ⟨first,rest⟩ := List.forall_mem_cons.mp reads
    cases xs with
    | nil => simpa using first
    | cons y ys =>
      have apart : Token.Apart (',' :: [','].intercalate ((y :: ys).map text)) := by
        simp [Token.Apart]
      have later := (ih rest).cons Token.readsAs_comma
      simpa using first.append later apart

namespace Writes

/-- The text of a value is read as the value. -/
theorem ofText?_eq {s : List Char} {v : Value} (writes : Writes s v) : Value.ofText? s = some v := by
  obtain ⟨ts,reads,completes⟩ := writes
  have run : Stage.start.run ts = some (.complete v []) := completes []
  simp only [Value.ofText?, reads.list?_eq, Option.bind_some, Value.ofTokens?, run, Stage.result?]

lemma null : Writes "null".toList .null := ⟨_,.single Token.readsAs_null,fun _ => rfl⟩

lemma bool (b : Bool) : Writes (if b then "true" else "false").toList (.bool b) :=
  ⟨_,.single (Token.readsAs_bool b),completes_bool b⟩

lemma numeral {s : List Char} {n : Number} (numeral : Token.Numeral s n) : Writes s (.number n) :=
  ⟨_,.numeral numeral,completes_number _⟩

lemma integer (i : Int) : Writes (Text.integer i).toList (.number (.ofInt i)) :=
  numeral (Token.numeral_integer i)

lemma string {s : List Char} {ps : Points} (spells : Spells s ps) :
    Writes ('"' :: (s ++ ['"'])) (.string ps) :=
  ⟨_,.single (Token.readsAs_of_spells spells),completes_string _⟩

lemma quoted (cs : List Char) : Writes (Json.quoted cs) (.string (cs.map Char.toNat)) :=
  string (Token.spells_flatMap_escaped cs)

/-- Blanks may stand in front of a value and behind it. -/
lemma padded {s before after : List Char} {v : Value} (writes : Writes s v)
    (front : Token.Blank before) (back : Token.Blank after) : Writes (before ++ (s ++ after)) v := by
  obtain ⟨ts,reads,completes⟩ := writes
  have behind := reads.append (.blank back) back.apart
  rw [List.append_nil] at behind
  exact ⟨ts,behind.blanks front,completes⟩

/-- Blanks may stand in front of a key and behind it. -/
lemma member {before key between s : List Char} {ps : Points} {v : Value}
    (front : Token.Blank before) (spells : Spells key ps) (back : Token.Blank between)
    (writes : Writes s v) :
    WritesMember (before ++ ('"' :: (key ++ ['"']) ++ (between ++ ':' :: s))) (ps, v) := by
  obtain ⟨ts,reads,completes⟩ := writes
  have colon := (reads.cons Token.readsAs_colon).blanks back
  exact ⟨_,(colon.cons (Token.readsAs_of_spells spells)).blanks front,ts,rfl,completes⟩

lemma quotedMember {s : List Char} {v : Value} (writes : Writes s v) (key : List Char) :
    WritesMember (Json.quoted key ++ ':' :: s) (key.map Char.toNat, v) :=
  member Token.blank_nil (Token.spells_flatMap_escaped key) Token.blank_nil writes

variable {α : Type} {xs : List α} {text : α → List Char} {gap : List Char}

lemma array {item : α → Value} (each : ∀ x ∈ xs, Writes (text x) (item x))
    (blank : Token.Blank gap) :
    Writes ('[' :: ([','].intercalate (xs.map text) ++ (gap ++ [']']))) (.array (xs.map item)) := by
  choose! tokens reads completes using each
  have closing := (Token.Reads.single Token.readsAs_closeBracket).blanks blank
  have inner := (reads_intercalate reads).append closing (blank.apart.append (by simp [Token.Apart]))
  exact ⟨_,inner.cons Token.readsAs_openBracket,completes_array completes⟩

lemma object {member : α → Points × Value} (each : ∀ x ∈ xs, WritesMember (text x) (member x))
    (blank : Token.Blank gap) :
    Writes ('{' :: ([','].intercalate (xs.map text) ++ (gap ++ ['}']))) (.object (xs.map member)) := by
  choose! tokens reads completes using each
  have closing := (Token.Reads.single Token.readsAs_closeBrace).blanks blank
  have inner := (reads_intercalate reads).append closing (blank.apart.append (by simp [Token.Apart]))
  exact ⟨_,inner.cons Token.readsAs_openBrace,completes_object completes⟩

end Writes

/-! ## The grammar -/

/-- How a member is written, blanks around the key included. -/
structure MemberText where
  before : List Char
  /-- What stands between the quotes. -/
  key : List Char
  between : List Char
  value : List Char

def MemberText.toList (m : MemberText) : List Char :=
  m.before ++ ('"' :: (m.key ++ ['"']) ++ (m.between ++ ':' :: m.value))

/-- The texts of a value, with blanks wherever two tokens meet and at both ends. -/
inductive Spelled : List Char → Value → Prop
  | null : Spelled "null".toList .null
  | bool (b : Bool) : Spelled (if b then "true" else "false").toList (.bool b)
  | number {s n} (numeral : Token.Numeral s n) : Spelled s (.number n)
  | string {s ps} (spells : Spells s ps) : Spelled ('"' :: (s ++ ['"'])) (.string ps)
  | array {gap} (items : List (List Char × Value)) (each : ∀ x ∈ items, Spelled x.1 x.2)
      (blank : Token.Blank gap) :
      Spelled ('[' :: ([','].intercalate (items.map Prod.fst) ++ (gap ++ [']'])))
        (.array (items.map Prod.snd))
  | object {gap} (members : List (MemberText × Points × Value))
      (keys : ∀ x ∈ members, Spells x.1.key x.2.1)
      (blanks : ∀ x ∈ members, Token.Blank x.1.before ∧ Token.Blank x.1.between)
      (values : ∀ x ∈ members, Spelled x.1.value x.2.2) (blank : Token.Blank gap) :
      Spelled ('{' :: ([','].intercalate (members.map fun x => x.1.toList) ++ (gap ++ ['}'])))
        (.object (members.map Prod.snd))
  | padded {before s after v} (spelled : Spelled s v) (front : Token.Blank before)
      (back : Token.Blank after) : Spelled (before ++ (s ++ after)) v

lemma Spelled.writes {s : List Char} {v : Value} (spelled : Spelled s v) : Writes s v := by
  induction spelled with
  | null => exact .null
  | bool b => exact .bool b
  | number numeral => exact .numeral numeral
  | string spells => exact .string spells
  | array items _ blank ih => exact .array ih blank
  | object members keys blanks _ blank ih =>
    refine .object (fun x within => ?_) blank
    obtain ⟨front,back⟩ := blanks x within
    exact Writes.member front (keys x within) back (ih x within)
  | padded _ front back ih => exact ih.padded front back

/-- Whatever text of a value is given, it is read as the value. -/
theorem Spelled.ofText?_eq {s : List Char} {v : Value} (spelled : Spelled s v) :
    Value.ofText? s = some v :=
  spelled.writes.ofText?_eq

end ClimateStation.Json
