import MeshRegistry.Json.Read

/-!
# Passing over a value

The value of a member that nobody asked for is checked for its form and dropped.  It may nest to
any depth, its numbers may have any size, and an escape in it need not stand for a character.
-/

namespace MeshRegistry.Json

def skipEscape (input : List Char) : Except Problem (Rest input) :=
  match input with
  | [] => .error .endOfString
  | c :: rest =>
    if (simpleEscape? c).isSome then .ok (.tail c rest)
    else if c = 'u' then (readHex rest).map fun r => r.toRest.behind c
    else .error .invalidEscape

def afterString (input : List Char) : Except Problem (List Char) :=
  match input with
  | [] => .error .endOfString
  | c :: rest =>
    if c = '"' then .ok rest
    else if c = '\\' then
      match skipEscape rest with
      | .error e => .error e
      | .ok r => afterString r.1
    else if c.toNat < 0x20 then .error .controlCharacter
    else afterString rest
termination_by input.length
decreasing_by
  · exact Nat.lt_succ_of_le r.2
  · exact Nat.lt_succ_self _

theorem afterString_shorter {input rest : List Char} (h : afterString input = .ok rest) :
    rest.length < input.length := by
  fun_induction afterString input with
  | case1 => cases h
  | case2 => cases h; exact Nat.lt_succ_self _
  | case3 => cases h
  | case4 _ r _ _ ih => exact Nat.lt_succ_of_lt (Nat.lt_of_lt_of_le (ih h) r.2)
  | case5 => cases h
  | case6 _ _ _ _ _ ih => exact Nat.lt_succ_of_lt (ih h)

def skipString (input : List Char) : Except Problem (Rest input) :=
  match h : afterString input with
  | .error e => .error e
  | .ok rest => .ok ⟨rest, Nat.le_of_lt (afterString_shorter h)⟩

/-- Passes over one digit and all that follow it. -/
def skipSomeDigits (input : List Char) : Except Problem (Rest input) :=
  if (digitsOf input).isEmpty then .error .invalidNumber else .ok (skipDigits input)

def skipExponent (input : List Char) : Except Problem (Rest input) :=
  match input with
  | [] => .error .invalidNumber
  | c :: rest =>
    if c = '+' ∨ c = '-' then (skipSomeDigits rest).map (Rest.behind c)
    else skipSomeDigits (c :: rest)

def skipScale (input : List Char) : Except Problem (Rest input) :=
  match input with
  | [] => .ok (.all [])
  | c :: rest =>
    if c = 'e' ∨ c = 'E' then (skipExponent rest).map (Rest.behind c)
    else .ok (.all (c :: rest))

def skipFraction (input : List Char) : Except Problem (Rest input) :=
  match input with
  | [] => .ok (.all [])
  | c :: rest =>
    if c = '.' then
      match skipSomeDigits rest with
      | .error e => .error e
      | .ok r => (skipScale r.1).map fun s => (r.onward s).behind c
    else skipScale (c :: rest)

def skipNumeral (input : List Char) : Except Problem (Rest input) :=
  match input with
  | [] => .error .invalidNumber
  | c :: rest =>
    if !c.isDigit then .error .invalidNumber
    else if c = '0' then
      if (digitsOf rest).isEmpty then (skipFraction rest).map (Rest.behind c)
      else .error .invalidNumber
    else
      let r := skipDigits rest
      (skipFraction r.1).map fun s => (r.onward s).behind c

/-- A container that has been opened. -/
inductive Frame where
  | list
  | object
deriving DecidableEq, Repr

/-- Passes over the word, string or number that starts with `c`. -/
def skipScalar (c : Char) (rest : List Char) : Except Problem (Rest rest) :=
  if c = 'n' then readWord "ull".toList rest
  else if c = 't' then readWord "rue".toList rest
  else if c = 'f' then readWord "alse".toList rest
  else if c = '"' then skipString rest
  else if c = '-' then skipNumeral rest
  else if c.isDigit then
    if c = '0' then
      if (digitsOf rest).isEmpty then skipFraction rest else .error .invalidNumber
    else
      let r := skipDigits rest
      (skipFraction r.1).map r.onward
  else .error .expectedValue

def skipName (input : List Char) : Except Problem (Rest input) :=
  match skipSpace input with
  | ⟨[], _⟩ => .error .endOfObject
  | ⟨c :: rest, h⟩ =>
    if c = '"' then
      match skipString rest with
      | .error e => .error e
      | .ok r =>
        match skipSpace r.1 with
        | ⟨[], _⟩ => .error .endOfObject
        | ⟨d :: rest', h'⟩ =>
          if d = ':' then
            .ok ⟨rest', by have := r.2; simp only [List.length_cons] at h h'; omega⟩
          else .error .expectedColon
    else .error .keyNotString

def Frame.early : Frame → Problem
  | .list => .endOfList
  | .object => .endOfObject

def Frame.separated : Frame → Problem
  | .list => .expectedCommaOrBracket
  | .object => .expectedCommaOrBrace

def Frame.closing : Frame → Char
  | .list => ']'
  | .object => '\x7d'

def Frame.opened? (c : Char) : Option Frame :=
  if c = '[' then some .list else if c = '\x7b' then some .object else none

/-- The place of the next value in a container: behind its name in an object. -/
def Frame.place (frame : Frame) (input : List Char) : Except Problem (Rest input) :=
  match frame with
  | .list => .ok (.all input)
  | .object => skipName input

/-- What is left when all containers in `frames`, innermost first, are closed.  With `isDue` a value
comes next, otherwise one has just ended. -/
def afterValue (isDue : Bool) (frames : List Frame) (input : List Char) :
    Except Problem (List Char) :=
  match isDue, frames, skipSpace input with
  | true, _, ⟨[], _⟩ => .error .endOfValue
  | true, frames, ⟨c :: rest, _h⟩ =>
    match Frame.opened? c with
    | some frame =>
      match skipSpace rest with
      | ⟨[], _⟩ => .error frame.early
      | ⟨d :: rest', _h'⟩ =>
        if d = frame.closing then afterValue false frames rest'
        else
          match frame.place rest with
          | .error e => .error e
          | .ok r => afterValue true (frame :: frames) r.1
    | none =>
      match skipScalar c rest with
      | .error e => .error e
      | .ok r => afterValue false frames r.1
  | false, [], _ => .ok input
  | false, frame :: _, ⟨[], _⟩ => .error frame.early
  | false, frame :: outer, ⟨c :: rest, _h⟩ =>
    if c = ',' then
      match frame.place rest with
      | .error e => .error e
      | .ok r => afterValue true (frame :: outer) r.1
    else if c = frame.closing then afterValue false outer rest
    else .error frame.separated
termination_by input.length
decreasing_by all_goals (try have := r.2); simp_wf; simp at *; omega

theorem afterValue_le {isDue : Bool} {frames : List Frame} {input rest : List Char}
    (h : afterValue isDue frames input = .ok rest) : rest.length ≤ input.length := by
  fun_induction afterValue isDue frames input with
  | case1 | case2 | case4 | case6 | case9 | case10 | case13 => cases h
  | case3 _ _ _ _ hc _ _ _ _ hd _ ih =>
    exact Nat.le_trans (ih h) (Nat.le_of_succ_le (Nat.le_trans hd (Nat.le_of_succ_le hc)))
  | case5 _ _ _ _ hc _ _ _ _ _ _ _ _ r _ ih =>
    exact Nat.le_trans (Nat.le_trans (ih h) r.2) (Nat.le_of_succ_le hc)
  | case7 _ _ _ _ hc _ _ r _ ih =>
    exact Nat.le_trans (Nat.le_trans (ih h) r.2) (Nat.le_of_succ_le hc)
  | case8 => cases h; exact Nat.le_refl _
  | case11 _ _ _ _ r _ hc _ ih =>
    exact Nat.le_trans (Nat.le_trans (ih h) r.2) (Nat.le_of_succ_le hc)
  | case12 _ _ _ _ hc _ _ ih => exact Nat.le_trans (ih h) (Nat.le_of_succ_le hc)

def skipValue (input : List Char) : Except Problem (Rest input) :=
  match h : afterValue true [] input with
  | .error e => .error e
  | .ok rest => .ok ⟨rest, afterValue_le h⟩

end MeshRegistry.Json
