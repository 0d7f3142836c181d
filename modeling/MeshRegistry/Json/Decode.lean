import MeshRegistry.Json.Skip
import Std.Data.ExtTreeMap

/-!
# Decoders

A decoder knows what it wants and reads it straight from the text.  A record is an object of its
fields in any order, or a list of them in the order of declaration; a container may be opened only
while the nesting allows it.
-/

namespace MeshRegistry.Json

universe u

/-- The deepest nesting of containers that are decoded. -/
def maxNesting : Nat := 127

/-- What stands inside a container, while `left` further ones may be opened. -/
def within {α : Type u} (left : Nat) (inside : Nat → α) : Option α :=
  match left with
  | 0 => none
  | n + 1 => some (inside n)

def foundWord (letters : List Char) (found : Found) (expected : String) (rest : List Char) :
    Problem :=
  match readWord letters rest with
  | .error e => e
  | .ok _ => .wrongType found expected

/-- The problem with an input that does not start with the kind of value expected. -/
def unexpected (expected : String) (c : Char) (rest : List Char) : Problem :=
  if c = 'n' then foundWord "ull".toList .null expected rest
  else if c = 't' then foundWord "rue".toList (.boolean true) expected rest
  else if c = 'f' then foundWord "alse".toList (.boolean false) expected rest
  else if c = '-' then
    match readNumeral true rest with
    | .error e => e
    | .ok r => .wrongType r.value.found expected
  else if c.isDigit then
    match readNumeral false (c :: rest) with
    | .error e => e
    | .ok r => .wrongType r.value.found expected
  else if c = '"' then
    match readString rest with
    | .error e => e
    | .ok r => .wrongType (.text r.value) expected
  else if c = '[' then .wrongType .sequence expected
  else if c = '\x7b' then .wrongType .map expected
  else .expectedValue

def text : Decoder String := fun input =>
  match skipSpace input with
  | ⟨[], _⟩ => .error .endOfValue
  | ⟨c :: rest, h⟩ =>
    if c = '"' then (readString rest).map (Read.within (Nat.le_trans (Nat.le_succ _) h))
    else .error (unexpected "a string" c rest)

/-- A number that `accept` admits. -/
def number {α : Type} (expected : String) (accept : Numeral → Option α) : Decoder α := fun input =>
  let finish {s : List Char} (h : s.length ≤ input.length) (r : Read Numeral s) :
      Except Problem (Read α input) :=
    match accept r.value, r.value with
    | some a, _ => .ok ((r.map fun _ => a).within h)
    | none, .real isNegative m => .error (.wrongType (.real isNegative m) expected)
    | none, other => .error (.outOfRange other.found expected)
  match skipSpace input with
  | ⟨[], _⟩ => .error .endOfValue
  | ⟨c :: rest, h⟩ =>
    if c = '-' then
      match readNumeral true rest with
      | .error e => .error e
      | .ok r => finish (Nat.le_trans (Nat.le_succ _) h) r
    else if c.isDigit then
      match readNumeral false (c :: rest) with
      | .error e => .error e
      | .ok r => finish h r
    else .error (unexpected expected c rest)

def boolean : Decoder Bool := fun input =>
  match skipSpace input with
  | ⟨[], _⟩ => .error .endOfValue
  | ⟨c :: rest, h⟩ =>
    if c = 't' then
      (readWord "rue".toList rest).map fun r =>
        ⟨true, r.1, Nat.lt_of_lt_of_le (Nat.lt_succ_of_le r.2) h⟩
    else if c = 'f' then
      (readWord "alse".toList rest).map fun r =>
        ⟨false, r.1, Nat.lt_of_lt_of_le (Nat.lt_succ_of_le r.2) h⟩
    else .error (unexpected "a boolean" c rest)

def nothing : Decoder Unit := fun input =>
  match skipSpace input with
  | ⟨[], _⟩ => .error .endOfValue
  | ⟨c :: rest, h⟩ =>
    if c = 'n' then
      (readWord "ull".toList rest).map fun r =>
        ⟨(), r.1, Nat.lt_of_lt_of_le (Nat.lt_succ_of_le r.2) h⟩
    else .error (unexpected "unit" c rest)

def word16 : Decoder UInt16 :=
  number "u16" fun
    | .natural n => if n < 0x10000 then some (UInt16.ofNat n) else none
    | _ => none

def word64 : Decoder UInt64 :=
  number "u64" fun
    | .natural n => if n < 0x10000000000000000 then some (UInt64.ofNat n) else none
    | _ => none

def int32 : Decoder Int32 :=
  number "i32" fun
    | .natural n => if n < 0x80000000 then some (Int32.ofNat n) else none
    | .negative n => if n ≤ 0x80000000 then some (Int32.ofInt (-n)) else none
    | _ => none

def int64 : Decoder Int :=
  number "i64" fun
    | .natural n => if n < 0x8000000000000000 then some n else none
    | .negative n => if n ≤ 0x8000000000000000 then some (-n) else none
    | _ => none

/-- A string that spells one of several things. -/
def word {α : Type} (read : String → Except Problem α) : Decoder α := fun input =>
  match text input with
  | .error e => .error e
  | .ok r => (read r.value).map fun a => r.map fun _ => a

def optional {α : Type} (d : Decoder α) : Decoder (Option α) := fun input =>
  match skipSpace input with
  | ⟨'n' :: rest, h⟩ =>
    (readWord "ull".toList rest).map fun r =>
      ⟨none, r.1, Nat.lt_of_lt_of_le (Nat.lt_succ_of_le r.2) h⟩
  | _ => (d input).map (Read.map some)

/-! ## Lists -/

/-- The place of the next item, or `none` before the closing bracket. -/
def nextItem (isFirst : Bool) (input : List Char) : Except Problem (Option (Rest input)) :=
  match skipSpace input with
  | ⟨[], _⟩ => .error .endOfList
  | ⟨c :: rest, h⟩ =>
    if c = ']' then .ok none
    else if c = ',' ∧ !isFirst then
      match skipSpace rest with
      | ⟨[], _⟩ => .error .endOfValue
      | ⟨d :: rest', h'⟩ =>
        if d = ']' then .error .trailingComma
        else .ok (some ⟨d :: rest', Nat.le_trans h' (Nat.le_trans (Nat.le_succ _) h)⟩)
    else if isFirst then .ok (some ⟨c :: rest, h⟩)
    else .error .expectedCommaOrBracket

def closeList (input : List Char) : Except Problem (Read Unit input) :=
  match skipSpace input with
  | ⟨[], _⟩ => .error .endOfList
  | ⟨c :: rest, h⟩ =>
    if c = ']' then .ok ⟨(), rest, h⟩
    else if c = ',' then
      match skipSpace rest with
      | ⟨']' :: _, _⟩ => .error .trailingComma
      | _ => .error .trailingCharacters
    else .error .trailingCharacters

/-- The items up to the closing bracket, behind those in `before`, last first. -/
def items {α : Type} (d : Decoder α) (isFirst : Bool) (before : List α) (input : List Char) :
    Except Problem (Read (List α) input) :=
  match nextItem isFirst input with
  | .error e => .error e
  | .ok none => (closeList input).map (Read.map fun _ => before.reverse)
  | .ok (some place) =>
    match d place.1 with
    | .error e => .error e
    | .ok r =>
      (items d false (r.value :: before) r.rest).map
        (Read.within (Nat.le_trans (Nat.le_of_lt r.shorter) place.2))
termination_by input.length
decreasing_by exact Nat.lt_of_lt_of_le r.shorter place.2

/-- A list of items, or nothing where no further container may be opened. -/
def list {α : Type} (item : Option (Decoder α)) : Decoder (List α) := fun input =>
  match skipSpace input with
  | ⟨[], _⟩ => .error .endOfValue
  | ⟨c :: rest, h⟩ =>
    if c = '[' then
      match item with
      | none => .error .tooDeep
      | some d => (items d true [] rest).map (Read.within (Nat.le_trans (Nat.le_succ _) h))
    else .error (unexpected "a sequence" c rest)

/-! ## Objects -/

/-- The name of the next member and the input behind it, or `none` before the closing brace. -/
def nextName (isFirst : Bool) (input : List Char) : Except Problem (Option (Read String input)) :=
  match skipSpace input with
  | ⟨[], _⟩ => .error .endOfObject
  | ⟨c :: rest, h⟩ =>
    if c = '\x7d' then .ok none
    else if c = ',' ∧ !isFirst then
      match skipSpace rest with
      | ⟨[], _⟩ => .error .endOfValue
      | ⟨d :: rest', h'⟩ =>
        if d = '"' then
          (readString rest').map fun r =>
            some (r.within (Nat.le_trans (Nat.le_succ _)
              (Nat.le_trans h' (Nat.le_trans (Nat.le_succ _) h))))
        else if d = '\x7d' then .error .trailingComma
        else .error .keyNotString
    else if isFirst then
      if c = '"' then
        (readString rest).map fun r => some (r.within (Nat.le_trans (Nat.le_succ _) h))
      else .error .keyNotString
    else .error .expectedCommaOrBrace

def closeObject (input : List Char) : Except Problem (Read Unit input) :=
  match skipSpace input with
  | ⟨[], _⟩ => .error .endOfObject
  | ⟨c :: rest, h⟩ =>
    if c = '\x7d' then .ok ⟨(), rest, h⟩
    else if c = ',' then .error .trailingComma
    else .error .trailingCharacters

def behindColon (input : List Char) : Except Problem (Rest input) :=
  match skipSpace input with
  | ⟨[], _⟩ => .error .endOfObject
  | ⟨c :: rest, h⟩ =>
    if c = ':' then .ok ⟨rest, Nat.le_trans (Nat.le_succ _) h⟩ else .error .expectedColon

/-- The members up to the closing brace.  `member` says what to do with the value of a name, given
what has been gathered so far; the value stands behind the colon. -/
def members {σ : Type}
    (member : σ → String → (input : List Char) → Except Problem (σ × Rest input))
    (isFirst : Bool) (soFar : σ) (input : List Char) : Except Problem (Read σ input) :=
  match nextName isFirst input with
  | .error e => .error e
  | .ok none => (closeObject input).map (Read.map fun _ => soFar)
  | .ok (some name) =>
    match member soFar name.value name.rest with
    | .error e => .error e
    | .ok (next, r) =>
      (members member false next r.1).map
        (Read.within (Nat.le_trans r.2 (Nat.le_of_lt name.shorter)))
termination_by input.length
decreasing_by exact Nat.lt_of_le_of_lt r.2 name.shorter

def decodeMember {α : Type} (d : Decoder α) (input : List Char) :
    Except Problem (α × Rest input) :=
  match behindColon input with
  | .error e => .error e
  | .ok place =>
    (d place.1).map fun r => (r.value, ⟨r.rest, Nat.le_trans (Nat.le_of_lt r.shorter) place.2⟩)

/-- A member whose value is passed over. -/
def skipMember (input : List Char) : Except Problem (Rest input) :=
  match behindColon input with
  | .error e => .error e
  | .ok place => (skipValue place.1).map place.onward

/-- An object whose members are all of one kind.  The last of several values of a name counts. -/
def entries {α : Type} (value : Option (Decoder α)) : Decoder (Std.ExtTreeMap String α) :=
    fun input =>
  match skipSpace input with
  | ⟨[], _⟩ => .error .endOfValue
  | ⟨c :: rest, h⟩ =>
    if c = '\x7b' then
      match value with
      | none => .error .tooDeep
      | some d =>
        (members (fun soFar name input =>
            (decodeMember d input).map fun (v, r) => (soFar.insert name v, r))
          true ∅ rest).map (Read.within (Nat.le_trans (Nat.le_succ _) h))
    else .error (unexpected "a map" c rest)

/-- One of several things by its name, which stands alone or is a name with the value `null`. -/
def named {α : Type} (read : String → Except Problem α) (left : Nat) : Decoder α := fun input =>
  match skipSpace input with
  | ⟨[], _⟩ => .error .endOfValue
  | ⟨c :: rest, h⟩ =>
    if c = '"' then (word read (c :: rest)).map (Read.within h)
    else if c = '\x7b' then
      match within left fun _ => word read rest with
      | none => .error .tooDeep
      | some (.error e) => .error e
      | some (.ok name) =>
        match behindColon name.rest with
        | .error e => .error e
        | .ok place =>
          match nothing place.1 with
          | .error e => .error e
          | .ok r =>
            match skipSpace r.rest with
            | ⟨[], _⟩ => .error .endOfObject
            | ⟨d :: rest', h'⟩ =>
              if d = '\x7d' then
                .ok ⟨name.value, rest', by
                  have := place.2
                  have := name.shorter
                  have := r.shorter
                  simp only [List.length_cons] at h h'
                  omega⟩
              else .error .expectedValue
    else .error .expectedValue

/-! ## Records -/

/-- Where a field of a record may be left out, and the value that it then has. -/
inductive Absence (α : Type) where
  | nowhere
  | inObject (value : α)
  | anywhere (value : α)

namespace Absence

/-- The value of a field whose name is not in an object. -/
def inObject? {α : Type} : Absence α → Option α
  | nowhere => none
  | inObject v | anywhere v => some v

/-- The value of a field that a list is too short for. -/
def inList? {α : Type} : Absence α → Option α
  | nowhere | inObject _ => none
  | anywhere v => some v

end Absence

/-- The fields of a record in the order of declaration, each with its decoder and the rule for its
absence. -/
inductive Fields : List Type → Type 1 where
  | nil : Fields []
  | cons {α : Type} {αs : List Type} (name : String) (decode : Decoder α) (absence : Absence α)
      (rest : Fields αs) : Fields (α :: αs)

def Values : List Type → Type
  | [] => Unit
  | α :: αs => α × Values αs

def Slots : List Type → Type
  | [] => Unit
  | α :: αs => Option α × Slots αs

namespace Fields

/-- A field that may be null, and may be left out of an object. -/
def nullable {α : Type} {αs : List Type} (name : String) (decode : Decoder α) (rest : Fields αs) :
    Fields (Option α :: αs) :=
  .cons name (optional decode) (.inObject none) rest

def empty : {αs : List Type} → Fields αs → Slots αs
  | _, .nil => ()
  | _, .cons _ _ _ rest => (none, rest.empty)

def count : {αs : List Type} → Fields αs → Nat
  | _, .nil => 0
  | _, .cons _ _ _ rest => rest.count + 1

/-- What to do with the value of a name: fill the field, refuse a second value, or `none` for a name
that is no field. -/
def fill? : {αs : List Type} → Fields αs → Slots αs → String →
    Option ((input : List Char) → Except Problem (Slots αs × Rest input))
  | _, .nil, _, _ => none
  | _, .cons name decode _ rest, (slot, slots), key =>
    if key = name then
      some fun input =>
        if slot.isSome then .error (.duplicateField name)
        else (decodeMember decode input).map fun (v, r) => ((some v, slots), r)
    else
      (rest.fill? slots key).map fun f input =>
        (f input).map fun (filled, r) => ((slot, filled), r)

/-- One member of a record; a name that is no field is passed over. -/
def member {αs : List Type} (fields : Fields αs) (slots : Slots αs) (key : String)
    (input : List Char) : Except Problem (Slots αs × Rest input) :=
  match fields.fill? slots key with
  | some f => f input
  | none => (skipMember input).map (slots, ·)

/-- All values, or the first field that is missing. -/
def complete : {αs : List Type} → Fields αs → Slots αs → Except Problem (Values αs)
  | _, .nil, _ => .ok ()
  | _, .cons name _ absence rest, (slot, slots) =>
    match slot.or absence.inObject? with
    | none => .error (.missingField name)
    | some v => (rest.complete slots).map (v, ·)

/-- The fields in the order of declaration up to the closing bracket. -/
def inOrder (record : String) (total : Nat) : {αs : List Type} → Fields αs → (isFirst : Bool) →
    (input : List Char) → Except Problem (Read (Values αs) input)
  | _, .nil, _, input => (closeList input).map (Read.map fun _ => ())
  | _, .cons _ decode absence rest, isFirst, input =>
    match nextItem isFirst input with
    | .error e => .error e
    | .ok none =>
      match absence.inList? with
      | none => .error (.wrongLength (total - (rest.count + 1)) record total)
      | some v => (rest.inOrder record total isFirst input).map (Read.map fun vs => (v, vs))
    | .ok (some place) =>
      match decode place.1 with
      | .error e => .error e
      | .ok r =>
        (rest.inOrder record total false r.rest).map fun vs =>
          (vs.map fun vs => (r.value, vs)).within
            (Nat.le_trans (Nat.le_of_lt r.shorter) place.2)

end Fields

/-- A record, or nothing where no further container may be opened. -/
def record {αs : List Type} {α : Type} (name : String) (fields : Option (Fields αs))
    (build : Values αs → α) : Decoder α := fun input =>
  match skipSpace input with
  | ⟨[], _⟩ => .error .endOfValue
  | ⟨c :: rest, h⟩ =>
    if c = '[' then
      match fields with
      | none => .error .tooDeep
      | some fs =>
        (fs.inOrder name fs.count true rest).map fun r =>
          (r.map build).within (Nat.le_trans (Nat.le_succ _) h)
    else if c = '\x7b' then
      match fields with
      | none => .error .tooDeep
      | some fs =>
        match members fs.member true fs.empty rest with
        | .error e => .error e
        | .ok r =>
          (fs.complete r.value).map fun vs =>
            (r.map fun _ => build vs).within (Nat.le_trans (Nat.le_succ _) h)
    else .error (unexpected ("struct " ++ name) c rest)

def decodeAll {α : Type} (d : Decoder α) (s : List Char) : Except Problem α :=
  match d s with
  | .error e => .error e
  | .ok r =>
    match skipSpace r.rest with
    | ⟨[], _⟩ => .ok r.value
    | _ => .error .trailingCharacters

end MeshRegistry.Json
