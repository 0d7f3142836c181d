import MeshRegistry.Json.Problem
import MeshRegistry.Text.Digit
import MeshRegistry.Text.Utf8

/-!
# Reading the parts of a message

Blanks, words, strings and numbers.  A reader that takes something says so in its type: what it
leaves is shorter than what it was given.
-/

namespace MeshRegistry.Json

/-- What a reader got, and the rest of the input, which is shorter. -/
structure Read (α : Type) (input : List Char) where
  value : α
  rest : List Char
  shorter : rest.length < input.length

abbrev Rest (input : List Char) := { rest : List Char // rest.length ≤ input.length }

abbrev Decoder (α : Type) := (input : List Char) → Except Problem (Read α input)

namespace Rest

def all (input : List Char) : Rest input :=
  ⟨input, Nat.le_refl _⟩

def tail (c : Char) (rest : List Char) : Rest (c :: rest) :=
  ⟨rest, Nat.le_succ _⟩

/-- The same end, seen from an input that is no shorter. -/
def within {a b : List Char} (h : a.length ≤ b.length) (r : Rest a) : Rest b :=
  ⟨r.1, Nat.le_trans r.2 h⟩

/-- The end that is reached from where `r` ended. -/
def onward {a : List Char} (r : Rest a) (s : Rest r.1) : Rest a :=
  s.within r.2

/-- The same end, seen from one character before. -/
def behind {a : List Char} (c : Char) (r : Rest a) : Rest (c :: a) :=
  ⟨r.1, Nat.le_succ_of_le r.2⟩

end Rest

def Read.toRest {α : Type} {a : List Char} (r : Read α a) : Rest a :=
  ⟨r.rest, Nat.le_of_lt r.shorter⟩

def Read.within {α : Type} {a b : List Char} (h : a.length ≤ b.length) (r : Read α a) : Read α b :=
  ⟨r.value, r.rest, Nat.lt_of_lt_of_le r.shorter h⟩

def Read.map {α β : Type} {a : List Char} (f : α → β) (r : Read α a) : Read β a :=
  ⟨f r.value, r.rest, r.shorter⟩

def Decoder.map {α β : Type} (f : α → β) (d : Decoder α) : Decoder β := fun input =>
  (d input).map (Read.map f)

def isSpace (c : Char) : Bool :=
  c == ' ' || c == '\n' || c == '\t' || c == '\r'

def skipSpace (input : List Char) : Rest input :=
  ⟨input.dropWhile isSpace, (List.dropWhile_suffix isSpace).length_le⟩

/-- The remaining letters of `null`, `true` or `false`. -/
def readWord : List Char → (input : List Char) → Except Problem (Rest input)
  | [], input => .ok (.all input)
  | _ :: _, [] => .error .endOfValue
  | w :: ws, c :: rest =>
    if c = w then (readWord ws rest).map (Rest.behind c)
    else .error .expectedWord

/-! ## Strings -/

def hexDigits? (a b c d : Char) : Option Nat := do
  let a ← Text.hexDigit? a
  let b ← Text.hexDigit? b
  let c ← Text.hexDigit? c
  let d ← Text.hexDigit? d
  return ((a * 16 + b) * 16 + c) * 16 + d

/-- Four hexadecimal digits; a text of less than four bytes has ended early. -/
def readHex : Decoder Nat
  | a :: b :: c :: d :: rest =>
    match hexDigits? a b c d with
    | some n => .ok ⟨n, rest, by simp only [List.length_cons]; omega⟩
    | none => .error .invalidEscape
  | short => .error (if (Text.Utf8.encode short).length < 4 then .endOfString else .invalidEscape)

/-- Halves of a pair that stand for one character. -/
def isHighSurrogate (n : Nat) : Bool := 0xD800 ≤ n && n ≤ 0xDBFF

def isLowSurrogate (n : Nat) : Bool := 0xDC00 ≤ n && n ≤ 0xDFFF

/-- The second half of a pair whose first half is `high`. -/
def readLowSurrogate (high : Nat) : Decoder Char
  | [] => .error .endOfString
  | [c] => .error (if c = '\\' then .endOfString else .endOfEscape)
  | c :: u :: rest =>
    if c = '\\' ∧ u = 'u' then
      match readHex rest with
      | .error e => .error e
      | .ok r =>
        if isLowSurrogate r.value then
          .ok ⟨Char.ofNat (0x10000 + (high - 0xD800) * 0x400 + (r.value - 0xDC00)), r.rest,
            Nat.lt_succ_of_lt (Nat.lt_succ_of_lt r.shorter)⟩
        else .error .loneSurrogate
    else .error .endOfEscape

def readUnicode : Decoder Char := fun input =>
  match readHex input with
  | .error e => .error e
  | .ok r =>
    if isLowSurrogate r.value then .error .loneSurrogate
    else if isHighSurrogate r.value then
      (readLowSurrogate r.value r.rest).map (Read.within (Nat.le_of_lt r.shorter))
    else .ok ⟨Char.ofNat r.value, r.rest, r.shorter⟩

def simpleEscape? (c : Char) : Option Char :=
  if c = '"' then some '"'
  else if c = '\\' then some '\\'
  else if c = '/' then some '/'
  else if c = 'b' then some '\x08'
  else if c = 'f' then some '\x0c'
  else if c = 'n' then some '\n'
  else if c = 'r' then some '\r'
  else if c = 't' then some '\t'
  else none

def readEscape : Decoder Char
  | [] => .error .endOfString
  | c :: rest =>
    match simpleEscape? c with
    | some e => .ok ⟨e, rest, Nat.lt_succ_self _⟩
    | none =>
      if c = 'u' then (readUnicode rest).map (Read.within (Nat.le_succ _))
      else .error .invalidEscape

/-- The characters up to the closing quote, behind those in `before`, last first. -/
def readChars (before : List Char) : (input : List Char) → Except Problem (List Char × List Char)
  | [] => .error .endOfString
  | c :: rest =>
    if c = '"' then .ok (before.reverse, rest)
    else if c = '\\' then
      match readEscape rest with
      | .error e => .error e
      | .ok ⟨e, rest', _⟩ => readChars (e :: before) rest'
    else if c.toNat < 0x20 then .error .controlCharacter
    else readChars (c :: before) rest
termination_by input => input.length

theorem readChars_shorter {before input s rest : List Char}
    (h : readChars before input = .ok (s, rest)) : rest.length < input.length := by
  fun_induction readChars before input <;> simp_all <;> omega

def readString : Decoder String := fun input =>
  match h : readChars [] input with
  | .error e => .error e
  | .ok (s, rest) => .ok ⟨String.ofList s, rest, readChars_shorter h⟩

/-! ## Numbers -/

inductive Numeral where
  | natural (n : Nat)
  | negative (n : Nat)
  | real (isNegative : Bool) (magnitude : Number.Binary64)
deriving DecidableEq, Repr

def Numeral.found : Numeral → Found
  | .natural n => .natural n
  | .negative n => .negative n
  | .real isNegative m => .real isNegative m

/-- The largest whole number that is kept exactly. -/
def wordLimit : Nat := 0xFFFFFFFFFFFFFFFF

/-- Takes digits on while the number stays within the limit: the number and how many were taken. -/
def accumulate (n : Nat) : List Nat → Nat × Nat
  | [] => (n, 0)
  | d :: ds =>
    if n * 10 + d ≤ wordLimit then
      let (m, k) := accumulate (n * 10 + d) ds
      (m, k + 1)
    else (n, 0)

def digitsOf (input : List Char) : List Nat :=
  (input.takeWhile Char.isDigit).map fun c => c.toNat - '0'.toNat

def skipDigits (input : List Char) : Rest input :=
  ⟨input.dropWhile Char.isDigit, (List.dropWhile_suffix Char.isDigit).length_le⟩

/-- Division by a power of ten, in steps that the range allows. -/
def shrink (x : Number.Binary64) (e : Nat) : Number.Binary64 :=
  let by10 (k : Nat) : Number.Binary64 := ((Number.Binary64.powerOfTen? k).bind x.div?).getD ⟨0, 0⟩
  if e ≤ 308 then by10 e
  else
    let y := by10 308
    if y.mantissa = 0 then y else shrink y (e - 308)
termination_by e
decreasing_by omega

/-- The number `n * 10 ^ e` as a magnitude. -/
def magnitude (n : Nat) (e : Int) : Except Problem Number.Binary64 :=
  match Number.Binary64.ofRatio? n 1 with
  | none => .error .numberOutOfRange
  | some x =>
    if e < 0 then .ok (shrink x (-e).toNat)
    else if 308 < e then if n = 0 then .ok ⟨0, 0⟩ else .error .numberOutOfRange
    else
      match (Number.Binary64.powerOfTen? e.toNat).bind x.mul? with
      | some y => .ok y
      | none => .error .numberOutOfRange

/-- The exponent behind its letter, applied to `n * 10 ^ e`. -/
def readExponent (n : Nat) (e : Int) (input : List Char) :
    Except Problem (Number.Binary64 × Rest input) :=
  let (isUp, afterSign) : Bool × Rest input :=
    match input with
    | [] => (true, .all [])
    | c :: rest =>
      if c = '+' then (true, .tail c rest)
      else if c = '-' then (false, .tail c rest)
      else (true, .all (c :: rest))
  match digitsOf afterSign.1 with
  | [] => .error (if afterSign.1.isEmpty then .endOfValue else .invalidNumber)
  | d :: ds =>
    let rest := afterSign.onward (skipDigits afterSign.1)
    let x := (d :: ds).foldl (fun x d => x * 10 + d) 0
    if x ≤ 0x7FFFFFFF then
      (magnitude n (if isUp then e + (x : Nat) else e - (x : Nat))).map (·, rest)
    else if n ≠ 0 ∧ isUp then .error .numberOutOfRange
    else .ok (⟨0, 0⟩, rest)

def readScale (n : Nat) (e : Int) (input : List Char) :
    Except Problem (Number.Binary64 × Rest input) :=
  match input with
  | c :: rest =>
    if c = 'e' ∨ c = 'E' then
      (readExponent n e rest).map fun (m, r) => (m, r.behind c)
    else (magnitude n e).map (·, .all (c :: rest))
  | [] => (magnitude n e).map (·, .all [])

def readFraction (n : Nat) (e : Int) (input : List Char) :
    Except Problem (Number.Binary64 × Rest input) :=
  match digitsOf input with
  | [] => .error (if input.isEmpty then .endOfValue else .invalidNumber)
  | d :: ds =>
    let rest := skipDigits input
    let (m, taken) := accumulate n (d :: ds)
    (readScale m (e - taken) rest.1).map fun (x, r) => (x, rest.onward r)

/-- What may follow the whole part `n * 10 ^ e`: a fraction, an exponent, or nothing. -/
def readReal? (n : Nat) (e : Nat) (input : List Char) :
    Except Problem (Option (Number.Binary64 × Rest input)) :=
  match input with
  | c :: rest =>
    if c = '.' then
      (readFraction n e rest).map fun (m, r) => some (m, r.behind c)
    else if c = 'e' ∨ c = 'E' ∨ e ≠ 0 then (readScale n e (c :: rest)).map some
    else .ok none
  | [] => if e ≠ 0 then (readScale n e []).map some else .ok none

/-- A number without fraction and exponent.  Minus zero and what a word cannot hold are real. -/
def wholeNumeral (isNegative : Bool) (n : Nat) : Numeral :=
  if isNegative then
    if n = 0 ∨ 0x8000000000000000 < n then
      .real true ((Number.Binary64.ofRatio? n 1).getD ⟨0, 0⟩)
    else .negative n
  else .natural n

def readNumeral (isNegative : Bool) : Decoder Numeral
  | [] => .error .endOfValue
  | c :: tail =>
    if !c.isDigit then .error .invalidNumber
    else
      let after := skipDigits tail
      if c = '0' ∧ !(digitsOf tail).isEmpty then .error .invalidNumber
      else
        let digits := digitsOf (c :: tail)
        let (n, taken) := accumulate 0 digits
        match readReal? n (digits.length - taken) after.1 with
        | .error e => .error e
        | .ok none =>
          .ok ⟨wholeNumeral isNegative n, after.1, Nat.lt_succ_of_le after.2⟩
        | .ok (some (m, rest)) =>
          .ok ⟨.real isNegative m, rest.1, Nat.lt_succ_of_le (Nat.le_trans rest.2 after.2)⟩

end MeshRegistry.Json
