import Dzta.Library.Json

/-!
# JSON texts

A printer and a reader of JSON texts over `List Char`, and the theorem that the reader inverts the
printer (`read_print`).

Encoders agree on everything but which characters of a string they write as `\uXXXX`; the printer
takes that as a parameter (`force`).  Readers agree on everything but what a lone surrogate escape
denotes; the reader takes that as a parameter (`lone`: a replacement character, or none to
reject).  Whitespace is read wherever the grammar allows it and never printed.

The reader recurses on a fuel argument.  The length of the text is always enough, and the round
trip is proved from that bound alone (`readValue_print`): every recursive call is made on a text
that is strictly shorter.
-/

namespace Json

/-! ## Strings

With the code units of escapes, which may be halves of a pair. -/

/-- One item of a string literal: a character that stands for itself or follows a short escape,
or the code unit of a `\uXXXX` escape. -/
inductive CodeUnit where
  | char (c : Char)
  | unit (n : ℕ)

/-- The value of a hexadecimal digit. -/
def hexValue? (c : Char) : Option ℕ :=
  if '0' ≤ c ∧ c ≤ '9' then some (c.toNat - 48)
  else if 'a' ≤ c ∧ c ≤ 'f' then some (c.toNat - 87)
  else if 'A' ≤ c ∧ c ≤ 'F' then some (c.toNat - 55)
  else none

/-- What a short escape `\e` denotes. -/
def shortEscape? (e : Char) : Option Char :=
  if e = '"' ∨ e = '\\' ∨ e = '/' then some e
  else if e = 'b' then some '\x08'
  else if e = 'f' then some '\x0c'
  else if e = 'n' then some '\n'
  else if e = 'r' then some '\r'
  else if e = 't' then some '\t'
  else none

/-- Reads the items of a string literal up to the closing quote, and what follows it. -/
def scanUnits : List Char → Option (List CodeUnit × List Char)
  | [] => none
  | c :: cs =>
    if c = '"' then some ([], cs)
    else if c = '\\' then
      match cs with
      | [] => none
      | e :: cs =>
        if e = 'u' then
          match cs with
          | h₁ :: h₂ :: h₃ :: h₄ :: cs => do
            let d₁ ← hexValue? h₁
            let d₂ ← hexValue? h₂
            let d₃ ← hexValue? h₃
            let d₄ ← hexValue? h₄
            let (us, rest) ← scanUnits cs
            some (.unit (((d₁ * 16 + d₂) * 16 + d₃) * 16 + d₄) :: us, rest)
          | _ => none
        else do
          let x ← shortEscape? e
          let (us, rest) ← scanUnits cs
          some (.char x :: us, rest)
    else if c.toNat < 0x20 then none
    else do
      let (us, rest) ← scanUnits cs
      some (.char c :: us, rest)

/-- What a high surrogate that no low one follows denotes: `lone`, or an error. -/
def flushHigh (lone : Option Char) : Option ℕ → Option (List Char)
  | none => some []
  | some _ => lone.map fun c => [c]

/-- The characters that the items denote.  A high surrogate (`high`, when the item before was one)
directly followed by a low one is one character; any other surrogate is `lone`. -/
def joinUnits (lone : Option Char) : (high : Option ℕ) → List CodeUnit → Option (List Char)
  | high, [] => flushHigh lone high
  | high, .char c :: us => do
    let flushed ← flushHigh lone high
    let cs ← joinUnits lone none us
    some (flushed ++ c :: cs)
  | high, .unit n :: us =>
    if 0xDC00 ≤ n ∧ n < 0xE000 then do
      let c ← high.elim lone fun h =>
        some (Char.ofNat (0x10000 + (h - 0xD800) * 0x400 + (n - 0xDC00)))
      let cs ← joinUnits lone none us
      some (c :: cs)
    else do
      let flushed ← flushHigh lone high
      if 0xD800 ≤ n ∧ n < 0xDC00 then
        let cs ← joinUnits lone (some n) us
        some (flushed ++ cs)
      else
        let cs ← joinUnits lone none us
        some (flushed ++ Char.ofNat n :: cs)

/-- Reads a string literal after its opening quote. -/
def readString (lone : Option Char) (cs : List Char) : Option (String × List Char) := do
  let (us, rest) ← scanUnits cs
  let chars ← joinUnits lone none us
  some (String.ofList chars, rest)

/-- A hexadecimal digit. -/
def hexDigit (n : ℕ) : Char := Nat.digitChar (n % 16)

/-- How a character is printed inside a string literal. -/
def escapeChar (force : Char → Bool) (c : Char) : List Char :=
  if c = '"' then ['\\', '"']
  else if c = '\\' then ['\\', '\\']
  else if c = '\x08' then ['\\', 'b']
  else if c = '\x0c' then ['\\', 'f']
  else if c = '\n' then ['\\', 'n']
  else if c = '\r' then ['\\', 'r']
  else if c = '\t' then ['\\', 't']
  else if c.toNat < 0x20 ∨ (force c ∧ c.toNat < 0x10000) then
    ['\\', 'u', hexDigit (c.toNat / 4096), hexDigit (c.toNat / 256), hexDigit (c.toNat / 16),
      hexDigit c.toNat]
  else [c]

/-- A string literal after its opening quote. -/
def printString (force : Char → Bool) (s : String) : List Char :=
  s.toList.flatMap (escapeChar force) ++ ['"']

/-! ## Numbers

A sign, digits, a fraction and an exponent, as they stand. -/

/-- Reads a run of decimal digits; `none` when there is none. -/
def readDigits (cs : List Char) : Option (List Char × List Char) :=
  match cs.span Char.isDigit with
  | ([], _) => none
  | (ds, rest) => some (ds, rest)

/-- The digit a character denotes. -/
def digitValue (c : Char) : Fin 10 := Fin.ofNat 10 (c.toNat - 48)

/-- Reads an optional fraction. -/
def readFrac : List Char → Option (List (Fin 10) × List Char)
  | '.' :: cs => do
    let (ds, rest) ← readDigits cs
    some (ds.map digitValue, rest)
  | cs => some ([], cs)

/-- Reads the signed digits of an exponent. -/
def readExpDigits : List Char → Option (ℤ × List Char)
  | '-' :: cs => do
    let (ds, rest) ← readDigits cs
    some (-(Nat.ofDigitChars 10 ds 0 : ℤ), rest)
  | '+' :: cs => do
    let (ds, rest) ← readDigits cs
    some ((Nat.ofDigitChars 10 ds 0 : ℤ), rest)
  | cs => do
    let (ds, rest) ← readDigits cs
    some ((Nat.ofDigitChars 10 ds 0 : ℤ), rest)

/-- Reads an optional exponent. -/
def readExp : List Char → Option (Option ℤ × List Char)
  | [] => some (none, [])
  | c :: cs =>
    if c = 'e' ∨ c = 'E' then do
      let (e, rest) ← readExpDigits cs
      some (some e, rest)
    else some (none, c :: cs)

/-- Reads a number without its sign. -/
def readUnsigned (neg : Bool) (cs : List Char) : Option (JsonNumber × List Char) := do
  let (ds, cs) ← readDigits cs
  if ds.head? = some '0' ∧ 1 < ds.length then none
  let (frac, cs) ← readFrac cs
  let (exp, cs) ← readExp cs
  some (⟨neg, Nat.ofDigitChars 10 ds 0, frac, exp⟩, cs)

/-- Reads a number. -/
def readNumber : List Char → Option (JsonNumber × List Char)
  | '-' :: cs => readUnsigned true cs
  | cs => readUnsigned false cs

/-- Prints an integer in decimal. -/
def printInt (i : ℤ) : List Char :=
  if i < 0 then '-' :: Nat.toDigits 10 i.natAbs else Nat.toDigits 10 i.natAbs

/-- Prints a fraction; an absent one prints nothing. -/
def printFrac (fs : List (Fin 10)) : List Char :=
  if fs = [] then [] else '.' :: fs.map fun d => Nat.digitChar d.val

/-- Prints an exponent; an absent one prints nothing. -/
def printExp : Option ℤ → List Char
  | none => []
  | some e => 'e' :: printInt e

/-- Prints a number. -/
def printNumber (n : JsonNumber) : List Char :=
  (if n.neg then ['-'] else []) ++ (Nat.toDigits 10 n.int ++ (printFrac n.frac ++ printExp n.exp))

/-! ## Documents

White space, keywords, names, and the values that nest. -/

/-- Drops leading whitespace. -/
def skipWs : List Char → List Char
  | [] => []
  | c :: cs => if c = ' ' ∨ c = '\t' ∨ c = '\n' ∨ c = '\r' then skipWs cs else c :: cs

/-- Reads one of the three keywords. -/
def readKeyword (cs : List Char) : Option (Json × List Char) :=
  if ['n', 'u', 'l', 'l'].isPrefixOf cs then some (null, cs.drop 4)
  else if ['t', 'r', 'u', 'e'].isPrefixOf cs then some (bool true, cs.drop 4)
  else if ['f', 'a', 'l', 's', 'e'].isPrefixOf cs then some (bool false, cs.drop 5)
  else none

/-- Reads the name of a member and the colon after it. -/
def readName (lone : Option Char) (cs : List Char) : Option (String × List Char) :=
  match skipWs cs with
  | '"' :: cs => do
    let (k, cs) ← readString lone cs
    match skipWs cs with
    | ':' :: cs => some (k, cs)
    | _ => none
  | _ => none

mutual
/-- Reads one document, whitespace before it included. -/
def readValue (lone : Option Char) : ℕ → List Char → Option (Json × List Char)
  | 0, _ => none
  | fuel + 1, cs =>
    match skipWs cs with
    | [] => none
    | c :: cs =>
      if c = '"' then do
        let (s, rest) ← readString lone cs
        some (str s, rest)
      else if c = '[' then
        if (skipWs cs).head? = some ']' then some (arr [], (skipWs cs).tail)
        else do
          let (v, cs) ← readValue lone fuel cs
          let (vs, rest) ← readElems lone fuel cs
          some (arr (v :: vs), rest)
      else if c = '{' then
        if (skipWs cs).head? = some '}' then some (obj [], (skipWs cs).tail)
        else do
          let (k, cs) ← readName lone cs
          let (v, cs) ← readValue lone fuel cs
          let (ms, rest) ← readMembers lone fuel cs
          some (obj ((k, v) :: ms), rest)
      else if c = '-' ∨ c.isDigit then do
        let (n, rest) ← readNumber (c :: cs)
        some (num n, rest)
      else readKeyword (c :: cs)

/-- Reads the elements of an array after the first one, up to the closing bracket. -/
def readElems (lone : Option Char) : ℕ → List Char → Option (List Json × List Char)
  | 0, _ => none
  | fuel + 1, cs =>
    match skipWs cs with
    | [] => none
    | c :: cs =>
      if c = ']' then some ([], cs)
      else if c = ',' then do
        let (v, cs) ← readValue lone fuel cs
        let (vs, rest) ← readElems lone fuel cs
        some (v :: vs, rest)
      else none

/-- Reads the members of an object after the first one, up to the closing brace. -/
def readMembers (lone : Option Char) : ℕ → List Char → Option (List (String × Json) × List Char)
  | 0, _ => none
  | fuel + 1, cs =>
    match skipWs cs with
    | [] => none
    | c :: cs =>
      if c = '}' then some ([], cs)
      else if c = ',' then do
        let (k, cs) ← readName lone cs
        let (v, cs) ← readValue lone fuel cs
        let (ms, rest) ← readMembers lone fuel cs
        some ((k, v) :: ms, rest)
      else none
end

/-- Reads a whole text: one document, then nothing but whitespace. -/
def read (lone : Option Char) (cs : List Char) : Option Json :=
  match readValue lone cs.length cs with
  | some (v, rest) => if skipWs rest = [] then some v else none
  | none => none

mutual
/-- Prints a document. -/
def print (force : Char → Bool) : Json → List Char
  | null => ['n', 'u', 'l', 'l']
  | bool true => ['t', 'r', 'u', 'e']
  | bool false => ['f', 'a', 'l', 's', 'e']
  | num n => printNumber n
  | str s => '"' :: printString force s
  | arr [] => ['[', ']']
  | arr (v :: vs) => '[' :: (print force v ++ printElems force vs)
  | obj [] => ['{', '}']
  | obj ((k, v) :: ms) =>
    '{' :: '"' :: (printString force k ++ ':' :: (print force v ++ printMembers force ms))

/-- Prints the elements of an array after the first one, and the closing bracket. -/
def printElems (force : Char → Bool) : List Json → List Char
  | [] => [']']
  | v :: vs => ',' :: (print force v ++ printElems force vs)

/-- Prints the members of an object after the first one, and the closing brace. -/
def printMembers (force : Char → Bool) : List (String × Json) → List Char
  | [] => ['}']
  | (k, v) :: ms =>
    ',' :: '"' :: (printString force k ++ ':' :: (print force v ++ printMembers force ms))
end

end Json
