/-
JSON texts. A reader that is strict about the grammar and lazy about values: numbers are kept only
where they are plain unsigned integers, strings only where their escapes spell characters.
-/

namespace AmqpSession.Text

/-- A value of JSON, with no more of it than is looked at here. -/
inductive Json where
  | null
  | bool (value : Bool)
  /-- The value of a plain unsigned integer; any other number has none here. -/
  | number (value : Option Nat)
  /-- The characters, unless an escape is half of a surrogate pair. -/
  | string (value : Option String)
  | array (items : List Json)
  | object (fields : List (Option String × Json))
deriving Repr

namespace Json

/-- The text behind any blanks. -/
def skipBlank (cs : List Char) : List Char :=
  cs.dropWhile fun c => c == ' ' || c == '\n' || c == '\t' || c == '\r'

/-! ## Numbers -/

/-- At least one digit, and what follows the digits. -/
def digits (cs : List Char) : Option (List Char × List Char) :=
  let ds := cs.takeWhile Char.isDigit
  if ds.isEmpty then none else some (ds, cs.dropWhile Char.isDigit)

/-- What follows an exponent, if there is one. An exponent without digits is an error. -/
def skipExponent (cs : List Char) : Option (List Char) :=
  match cs with
  | 'e' :: rest | 'E' :: rest =>
    match rest with
    | '+' :: rest | '-' :: rest => (digits rest).map (·.2)
    | rest => (digits rest).map (·.2)
  | cs => some cs

/-- What follows a fraction, if there is one. A fraction without digits is an error. -/
def skipFraction (cs : List Char) : Option (List Char) :=
  match cs with
  | '.' :: rest => (digits rest).map (·.2)
  | cs => some cs

/-- A number and what follows it. Only zero itself may start with a zero. -/
def readNumber (cs : List Char) : Option (Json × List Char) := do
  let unsigned := match cs with
    | '-' :: rest => rest
    | cs => cs
  let (ds, rest) ← digits unsigned
  if ds.length > 1 ∧ ds.head? = some '0' then none
  let after ← skipExponent (← skipFraction rest)
  let plain := unsigned.length == cs.length && after.length == rest.length
  return (.number (if plain then (String.ofList ds).toNat? else none), after)

/-! ## Strings -/

/-- The value of a hexadecimal digit. -/
def hexValue? (c : Char) : Option Nat :=
  if c.isDigit then some (c.toNat - '0'.toNat)
  else if 'a' ≤ c ∧ c ≤ 'f' then some (c.toNat - 'a'.toNat + 10)
  else if 'A' ≤ c ∧ c ≤ 'F' then some (c.toNat - 'A'.toNat + 10)
  else none

/-- The number of an escape with four digits. -/
def hex4? (a b c d : Char) : Option Nat :=
  return (((← hexValue? a) * 16 + (← hexValue? b)) * 16 + (← hexValue? c)) * 16 + (← hexValue? d)

/-- The character of a one-letter escape. -/
def shortEscape? (c : Char) : Option Char :=
  match c with
  | '"' | '\\' | '/' => some c
  | 'b' => some '\x08'
  | 'f' => some '\x0c'
  | 'n' => some '\n'
  | 'r' => some '\r'
  | 't' => some '\t'
  | _ => none

/-- The units of a string after its opening quote: characters, and surrogates by their number. -/
def readUnits : List Char → Option (List (Char ⊕ Nat) × List Char)
  | '"' :: rest => some ([], rest)
  | '\\' :: 'u' :: a :: b :: c :: d :: rest => do
    let n ← hex4? a b c d
    let (units, after) ← readUnits rest
    return ((if 0xd800 ≤ n ∧ n ≤ 0xdfff then .inr n else .inl (Char.ofNat n)) :: units, after)
  | '\\' :: c :: rest => do
    let c ← shortEscape? c
    let (units, after) ← readUnits rest
    return (.inl c :: units, after)
  | c :: rest =>
    if c.toNat < 0x20 ∨ c = '\\' then none
    else do
      let (units, after) ← readUnits rest
      return (.inl c :: units, after)
  | [] => none

/-- Two surrogates in their order make one character; one alone makes none. -/
def joinUnits : List (Char ⊕ Nat) → Option (List Char)
  | [] => some []
  | .inl c :: rest => (joinUnits rest).map (c :: ·)
  | .inr high :: .inr low :: rest =>
    if high < 0xdc00 ∧ 0xdc00 ≤ low then
      (joinUnits rest).map (Char.ofNat (0x10000 + (high - 0xd800) * 0x400 + (low - 0xdc00)) :: ·)
    else none
  | .inr _ :: _ => none

/-- A string after its opening quote, and what follows it. -/
def readString (cs : List Char) : Option (Option String × List Char) := do
  let (units, after) ← readUnits cs
  return ((joinUnits units).map String.ofList, after)

/-! ## Values -/

mutual

/-- A value, after any blanks. `budget` bounds the values and lists that may still be begun. -/
def readValue (budget : Nat) (cs : List Char) : Option (Json × List Char) :=
  match budget with
  | 0 => none
  | budget + 1 =>
    match skipBlank cs with
    | 'n' :: 'u' :: 'l' :: 'l' :: rest => some (.null, rest)
    | 't' :: 'r' :: 'u' :: 'e' :: rest => some (.bool true, rest)
    | 'f' :: 'a' :: 'l' :: 's' :: 'e' :: rest => some (.bool false, rest)
    | '"' :: rest => (readString rest).map fun (s, after) => (.string s, after)
    | '[' :: rest =>
      match skipBlank rest with
      | ']' :: after => some (.array [], after)
      | _ => (readItems budget rest).map fun (items, after) => (.array items, after)
    | '\x7b' :: rest =>
      match skipBlank rest with
      | '\x7d' :: after => some (.object [], after)
      | _ => (readFields budget rest).map fun (fields, after) => (.object fields, after)
    | cs => readNumber cs

/-- The items of an array up to its closing bracket. -/
def readItems (budget : Nat) (cs : List Char) : Option (List Json × List Char) :=
  match budget with
  | 0 => none
  | budget + 1 => do
    let (item, rest) ← readValue budget cs
    match skipBlank rest with
    | ',' :: rest =>
      let (items, after) ← readItems budget rest
      return (item :: items, after)
    | ']' :: after => return ([item], after)
    | _ => none

/-- The fields of an object up to its closing brace. -/
def readFields (budget : Nat) (cs : List Char) : Option (List (Option String × Json) × List Char) :=
  match budget with
  | 0 => none
  | budget + 1 =>
    match skipBlank cs with
    | '"' :: rest => do
      let (key, rest) ← readString rest
      match skipBlank rest with
      | ':' :: rest =>
        let (value, rest) ← readValue budget rest
        match skipBlank rest with
        | ',' :: rest =>
          let (fields, after) ← readFields budget rest
          return ((key, value) :: fields, after)
        | '\x7d' :: after => return ([(key, value)], after)
        | _ => none
      | _ => none
    | _ => none

end

/-- The value of a whole text. Each of its characters begins at most a value and a list. -/
def parse? (s : String) : Option Json := do
  let (value, rest) ← readValue (2 * s.length + 2) s.toList
  if (skipBlank rest).isEmpty then some value else none

/-! ## Writing -/

/-- A character as it stands in a string. A control is written by its letter if it has one. -/
def escapeChar (c : Char) : List Char :=
  if c = '"' ∨ c = '\\' then ['\\', c]
  else if c = '\x08' then ['\\', 'b']
  else if c = '\x0c' then ['\\', 'f']
  else if c = '\n' then ['\\', 'n']
  else if c = '\r' then ['\\', 'r']
  else if c = '\t' then ['\\', 't']
  else if c.toNat < 0x20 then
    ['\\', 'u', '0', '0', Nat.digitChar (c.toNat / 16), Nat.digitChar (c.toNat % 16)]
  else [c]

/-- A string as JSON, with only the escapes that it needs. -/
def quote (s : String) : String := String.ofList ('"' :: s.toList.flatMap escapeChar ++ ['"'])

end Json

end AmqpSession.Text
