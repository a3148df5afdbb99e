import ClusterMap.Data.Json.Reader

/-!
# Passing over a value

`skipValue` checks that a value is there and moves behind it without building it. It is more lenient
than reading: any depth, any magnitude of a number and unpaired surrogates are let pass. A control
character in a string is reported at its own place, not behind it.
-/

namespace ClusterMap.Json

/-- The cursor behind all digits. -/
def skipDigits (c : Cursor) : Cursor := (takeDigits c).2

/-- Passes over an exponent. -/
def skipExponent : Read Fault Unit := fun c =>
  let (_, c) := exponentSign c.next
  match c.peek?.bind digit? with
  | none => look .invalidNumber c
  | some _ => .ok ((), skipDigits c.next)

/-- Passes over an exponent if there is one. -/
def skipMaybeExponent : Read Fault Unit := fun c =>
  match c.peek? with
  | some 'e' | some 'E' => skipExponent c
  | _ => .ok ((), c)

/-- Passes over what follows the integer digits of a number. -/
def skipFraction : Read Fault Unit := fun c =>
  match c.peek? with
  | some '.' =>
    let c := c.next
    match c.peek?.bind digit? with
    | none => look .invalidNumber c
    | some _ => skipMaybeExponent (skipDigits c)
  | _ => skipMaybeExponent c

/-- Passes over a number whose sign, if any, has been read. -/
def skipNumber : Read Fault Unit := fun c =>
  match c.peek?.bind digit? with
  | none => look .invalidNumber c
  | some 0 =>
    match c.next.peek?.bind digit? with
    | some _ => look .invalidNumber c.next
    | none => skipFraction c.next
  | some _ => skipFraction (skipDigits c)

/-- Passes over what follows a backslash. -/
def skipEscape : Read Fault Unit := fun c =>
  match c.peek? with
  | none => here .eofInString c
  | some 'u' => do
    let (_, c) ← readHex4 c.next
    .ok ((), c)
  | some x =>
    if ['"', '\\', '/', 'b', 'f', 'n', 'r', 't'].contains x then .ok ((), c.next)
    else look .invalidEscape c

/-- Passes over a string whose opening quote has been read; `fuel` bounds its length. -/
def skipChars : Nat → Read Fault Unit
  | 0, c => here .eofInString c
  | fuel + 1, c =>
    match c.peek? with
    | none => here .eofInString c
    | some '"' => .ok ((), c.next)
    | some '\\' => do
      let ((), c) ← skipEscape c.next
      skipChars fuel c
    | some x => if x.toNat < 0x20 then here .controlCharacter c else skipChars fuel c.next

/-- Passes over a string whose opening quote has been read. -/
def skipText : Read Fault Unit := fun c => skipChars (c.rest.length + 1) c

/-- Passes over a key and its colon. -/
def skipKey : Read Fault Unit := fun c =>
  let c := c.skipSpaces
  match c.peek? with
  | none => look .eofInObject c
  | some '"' => do
    let ((), c) ← skipText c.next
    readColon c
  | some _ => look .keyMustBeString c

mutual
/-- Passes over a value; `fuel` bounds the number of its parts. -/
def skipWithin : Nat → Read Fault Unit
  | 0, c => look .eofInValue c
  | fuel + 1, c =>
    let c := c.skipSpaces
    let word (rest : List Char) : Except (Located Fault) (Unit × Cursor) := do
      let (_, c) ← readWord .null rest c.next
      .ok ((), c)
    match c.peek? with
    | none => look .eofInValue c
    | some 'n' => word ['u', 'l', 'l']
    | some 't' => word ['r', 'u', 'e']
    | some 'f' => word ['a', 'l', 's', 'e']
    | some '-' => skipNumber c.next
    | some '"' => skipText c.next
    | some '[' => skipItems fuel true c.next
    | some '\x7b' => skipMembers fuel true c.next
    | some x => if (digit? x).isSome then skipNumber c else look .expectedValue c
/-- Passes over the rest of a list. -/
def skipItems : Nat → Bool → Read Fault Unit
  | 0, _, c => look .eofInList c
  | fuel + 1, first, c =>
    let c := c.skipSpaces
    match c.peek? with
    | none => look .eofInList c
    | some ']' => .ok ((), c.next)
    | some x =>
      if first then do
        let ((), c) ← skipWithin fuel c
        skipItems fuel false c
      else if x = ',' then do
        let ((), c) ← skipWithin fuel c.next
        skipItems fuel false c
      else look .expectedListCommaOrEnd c
/-- Passes over the rest of an object. -/
def skipMembers : Nat → Bool → Read Fault Unit
  | 0, _, c => look .eofInObject c
  | fuel + 1, first, c =>
    let c := c.skipSpaces
    match c.peek? with
    | none => look .eofInObject c
    | some '\x7d' => .ok ((), c.next)
    | some x =>
      if first then do
        let ((), c) ← skipKey c
        let ((), c) ← skipWithin fuel c
        skipMembers fuel false c
      else if x = ',' then do
        let ((), c) ← skipKey c.next
        let ((), c) ← skipWithin fuel c
        skipMembers fuel false c
      else look .expectedObjectCommaOrEnd c
end

/-- Passes over a value. -/
def skipValue : Read Fault Unit := fun c => skipWithin (2 * c.rest.length + 2) c

end ClusterMap.Json
