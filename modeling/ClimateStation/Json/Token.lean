import ClimateStation.Json.Value

/-! The tokens of a JSON text: brackets, marks, names, numbers and strings, with blanks anywhere
between them. -/
namespace ClimateStation.Json

inductive Token
  | openBrace | closeBrace
  | openBracket | closeBracket
  | comma | colon
  | null
  | bool (b : Bool)
  | number (n : Number)
  | string (points : Points)
  deriving DecidableEq, Repr

namespace Token

/-- Space, tab, line feed and carriage return. -/
def isSpace (c : Char) : Bool := c == ' ' || c == '\t' || c == '\n' || c == '\r'

def hexDigit? (c : Char) : Option Nat :=
  if c.isDigit then some (c.toNat - 48)
  else if 'a' ≤ c ∧ c ≤ 'f' then some (c.toNat - 87)
  else if 'A' ≤ c ∧ c ≤ 'F' then some (c.toNat - 55)
  else none

/-- The number that four hexadecimal digits write. -/
def hex4? (a b c d : Char) : Option Nat := do
  let a ← hexDigit? a
  let b ← hexDigit? b
  let c ← hexDigit? c
  let d ← hexDigit? d
  some (((a * 16 + b) * 16 + c) * 16 + d)

/-- The character that a backslash and this one stand for. -/
def escape? : Char → Option Nat
  | '"' => some 34
  | '\\' => some 92
  | '/' => some 47
  | 'b' => some 8
  | 'f' => some 12
  | 'n' => some 10
  | 'r' => some 13
  | 't' => some 9
  | _ => none

/-- The rest of a string after its opening quote, and what follows the closing one. Control
characters must be escaped. -/
def string? : List Char → Option (Points × List Char)
  | [] => none
  | '"' :: rest => some ([], rest)
  | '\\' :: 'u' :: a :: b :: c :: d :: rest =>
    match hex4? a b c d, string? rest with
    | some p, some (ps, rest) => some (p :: ps, rest)
    | _, _ => none
  | '\\' :: c :: rest =>
    match escape? c, string? rest with
    | some p, some (ps, rest) => some (p :: ps, rest)
    | _, _ => none
  | c :: rest =>
    if c.toNat < 32 then none
    else match string? rest with
      | some (ps, rest) => some (c.toNat :: ps, rest)
      | none => none

/-- At least one digit. Returns what follows the last. -/
def digits? (s : List Char) : Option (List Char × List Char) :=
  match s.takeWhile Char.isDigit with
  | [] => none
  | ds => some (ds, s.dropWhile Char.isDigit)

/-- A point and digits, or nothing. Returns whether they are there. -/
def fraction? : List Char → Option (Bool × List Char)
  | '.' :: s => (digits? s).map fun (_, rest) => (true, rest)
  | s => some (false, s)

/-- The letter E, an optional sign and digits, or nothing. Returns whether they are there. -/
def exponent? : List Char → Option (Bool × List Char)
  | [] => some (false, [])
  | c :: s =>
    if c = 'e' ∨ c = 'E' then
      let s := match s with
        | '+' :: t => t
        | '-' :: t => t
        | t => t
      (digits? s).map fun (_, rest) => (true, rest)
    else some (false, c :: s)

/-- A number. Its whole part has no leading zero. -/
def number? (s : List Char) : Option (Number × List Char) := do
  let (negative, s) := match s with
    | '-' :: t => (true, t)
    | t => (false, t)
  let (ds, s) ← digits? s
  if ds.head? = some '0' ∧ ds.length ≠ 1 then none
  else
    let (hasFraction, s) ← fraction? s
    let (hasExponent, s) ← exponent? s
    some (⟨negative, ds.foldl (fun n c => n * 10 + (c.toNat - 48)) 0,
      !hasFraction && !hasExponent⟩, s)

/-- The rest of a text that starts with the given name. -/
def name? (name : List Char) (t : Token) (s : List Char) : Option (Token × List Char) :=
  if name.isPrefixOf s then some (t, s.drop name.length) else none

/-- The token at the front of a text that starts with no blank. -/
def next? (s : List Char) : Option (Token × List Char) :=
  match s with
  | [] => none
  | '{' :: rest => some (openBrace, rest)
  | '}' :: rest => some (closeBrace, rest)
  | '[' :: rest => some (openBracket, rest)
  | ']' :: rest => some (closeBracket, rest)
  | ',' :: rest => some (comma, rest)
  | ':' :: rest => some (colon, rest)
  | '"' :: rest => (string? rest).map fun (ps, rest) => (string ps, rest)
  | 'n' :: rest => name? ['u', 'l', 'l'] null rest
  | 't' :: rest => name? ['r', 'u', 'e'] (bool true) rest
  | 'f' :: rest => name? ['a', 'l', 's', 'e'] (bool false) rest
  | _ => (number? s).map fun (n, rest) => (number n, rest)

theorem length_string?_lt {s : List Char} {ps : Points} {rest : List Char}
    (h : string? s = some (ps, rest)) : rest.length < s.length := by
  fun_induction string? s generalizing ps rest with
  | case1 | case4 | case6 | case7 | case9 => simp at h
  | case2 => simp_all
  | case3 a b c d s p ps' rest' hs hp ih =>
    have := ih hs
    simp only [Option.some.injEq, Prod.mk.injEq] at h
    simp only [← h.2, List.length_cons]
    omega
  | case5 c s _ p ps' rest' hs hp ih =>
    have := ih hs
    simp only [Option.some.injEq, Prod.mk.injEq] at h
    simp only [← h.2, List.length_cons]
    omega
  | case8 c s _ _ _ _ ps' rest' hs ih =>
    have := ih hs
    simp only [Option.some.injEq, Prod.mk.injEq] at h
    simp only [← h.2, List.length_cons]
    omega

theorem length_digits?_lt {s ds rest : List Char} (h : digits? s = some (ds, rest)) :
    rest.length < s.length := by
  have hsplit : (s.takeWhile Char.isDigit).length + (s.dropWhile Char.isDigit).length = s.length := by
    rw [← List.length_append, List.takeWhile_append_dropWhile]
  unfold digits? at h
  split at h
  · simp at h
  · next hne =>
    simp only [Option.some.injEq, Prod.mk.injEq] at h
    obtain ⟨rfl, rfl⟩ := h
    have : 0 < (s.takeWhile Char.isDigit).length := List.length_pos_iff.mpr fun he => hne he
    omega

theorem length_fraction?_le {s rest : List Char} {b : Bool} (h : fraction? s = some (b, rest)) :
    rest.length ≤ s.length := by
  unfold fraction? at h
  split at h
  · next t =>
    obtain ⟨⟨ds, r⟩, hd, he⟩ := Option.map_eq_some_iff.mp h
    have := length_digits?_lt hd
    simp only [Prod.mk.injEq] at he
    simp only [← he.2, List.length_cons]
    omega
  · simp_all

theorem length_exponent?_le {s rest : List Char} {b : Bool} (h : exponent? s = some (b, rest)) :
    rest.length ≤ s.length := by
  unfold exponent? at h
  split at h
  · simp_all
  · split at h
    · obtain ⟨⟨ds, r⟩, hd, he⟩ := Option.map_eq_some_iff.mp h
      have := length_digits?_lt hd
      simp only [Prod.mk.injEq] at he
      simp only [← he.2, List.length_cons]
      split at this <;> simp_all <;> omega
    · simp_all

theorem length_number?_lt {s rest : List Char} {n : Number} (h : number? s = some (n, rest)) :
    rest.length < s.length := by
  simp only [number?, Option.bind_eq_bind, Option.bind_eq_some_iff] at h
  obtain ⟨⟨ds, s1⟩, hd, h⟩ := h
  have h1 := length_digits?_lt hd
  split at h
  · simp at h
  · obtain ⟨⟨hf, s2⟩, hs2, ⟨he, s3⟩, hs3, h⟩ := by
      simpa only [Option.bind_eq_some_iff] using h
    have h2 := length_fraction?_le hs2
    have h3 := length_exponent?_le hs3
    simp only [Option.some.injEq, Prod.mk.injEq] at h
    have : s3.length < s.length := by
      split at h1 <;> simp_all <;> omega
    simpa [← h.2] using this

theorem length_name?_le {name s rest : List Char} {t u : Token}
    (h : name? name t s = some (u, rest)) : rest.length ≤ s.length := by
  unfold name? at h
  split at h
  · simp only [Option.some.injEq, Prod.mk.injEq] at h
    simp [← h.2]
  · simp at h

/-- Every token takes up at least one character. -/
theorem length_next?_lt {s rest : List Char} {t : Token} (h : next? s = some (t, rest)) :
    rest.length < s.length := by
  unfold next? at h
  split at h
  case h_1 => simp at h
  case h_8 =>
    obtain ⟨⟨ps, r⟩, hs, he⟩ := Option.map_eq_some_iff.mp h
    have := length_string?_lt hs
    simp only [Prod.mk.injEq] at he
    simp only [← he.2, List.length_cons]
    omega
  case h_9 | h_10 | h_11 =>
    have := length_name?_le h
    simp only [List.length_cons]
    omega
  case h_12 =>
    obtain ⟨⟨n, r⟩, hn, he⟩ := Option.map_eq_some_iff.mp h
    have := length_number?_lt hn
    simp only [Prod.mk.injEq] at he
    simpa only [← he.2] using this
  all_goals
    simp only [Option.some.injEq, Prod.mk.injEq] at h
    simp [← h.2]

/-- The tokens of a text, if it consists of tokens and blanks. -/
def list? (s : List Char) : Option (List Token) :=
  match s with
  | [] => some []
  | c :: rest =>
    if isSpace c then list? rest
    else match _next : next? (c :: rest) with
      | some (t, rest) => (list? rest).map (t :: ·)
      | none => none
termination_by s.length
decreasing_by
  · simp
  · exact length_next?_lt _next

end Token

end ClimateStation.Json
