import ClusterMap.Data.Json.Cursor
import ClusterMap.Text.Hex

/-!
# JSON strings

Reads a string behind its opening quote: plain characters, the eight short escapes, and `\u` with
four hexadecimal digits, where a surrogate must come with its other half.
-/

namespace ClusterMap.Json

/-- The place after the next `n` bytes, which may end inside a character; `none` if the text has
fewer. -/
def afterBytes? : Nat → List Char → Position → Option Position
  | 0, _, p => some p
  | _, [], _ => none
  | n + 1, c :: cs, p =>
    if n + 1 < c.utf8Size then some ⟨p.line, p.column + (n + 1)⟩
    else afterBytes? (n + 1 - c.utf8Size) cs (p.after c)

/-- Reads four hexadecimal digits. -/
def readHex4 : Read Fault Nat := fun c =>
  match c.rest.take 4 |>.mapM Text.hexDigit? with
  | some [a, b, d, e] => .ok (((a * 16 + b) * 16 + d) * 16 + e, c.drop 4)
  | _ =>
    match afterBytes? 4 c.rest c.position with
    | some p => .error ⟨.invalidEscape, p⟩
    | none => here .eofInString (c.drop c.rest.length)

/-- Whether a code unit is the first half of a pair. -/
def isHighSurrogate (n : Nat) : Bool := 0xD800 ≤ n && n ≤ 0xDBFF

/-- Whether a code unit is the second half of a pair. -/
def isLowSurrogate (n : Nat) : Bool := 0xDC00 ≤ n && n ≤ 0xDFFF

/-- Expects one character of the second half of a pair. -/
def expectPairing (x : Char) : Read Fault Unit := fun c =>
  match c.peek? with
  | none => here .eofInString c
  | some y =>
    if x = y then .ok ((), c.next)
    else look .unexpectedEndOfHexEscape c

/-- Reads what follows `\u`. -/
def readUnicodeEscape : Read Fault Char := fun c => do
  let (n, c) ← readHex4 c
  if isLowSurrogate n then here .loneSurrogate c
  else if isHighSurrogate n then
    let ((), c) ← expectPairing '\\' c
    let ((), c) ← expectPairing 'u' c
    let (m, c) ← readHex4 c
    if isLowSurrogate m then
      .ok (Char.ofNat ((n - 0xD800) * 0x400 + (m - 0xDC00) + 0x10000), c)
    else here .loneSurrogate c
  else .ok (Char.ofNat n, c)

/-- Reads what follows a backslash. -/
def readEscape : Read Fault Char := fun c =>
  match c.peek? with
  | none => here .eofInString c
  | some '"' => .ok ('"', c.next)
  | some '\\' => .ok ('\\', c.next)
  | some '/' => .ok ('/', c.next)
  | some 'b' => .ok ('\x08', c.next)
  | some 'f' => .ok ('\x0c', c.next)
  | some 'n' => .ok ('\n', c.next)
  | some 'r' => .ok ('\r', c.next)
  | some 't' => .ok ('\t', c.next)
  | some 'u' => readUnicodeEscape c.next
  | some _ => look .invalidEscape c

/-- Reads the characters of a string up to its closing quote; `fuel` bounds their number. -/
def readChars : Nat → List Char → Read Fault String
  | 0, _, c => here .eofInString c
  | fuel + 1, acc, c =>
    match c.peek? with
    | none => here .eofInString c
    | some '"' => .ok (String.ofList acc.reverse, c.next)
    | some '\\' => do
      let (x, c) ← readEscape c.next
      readChars fuel (x :: acc) c
    | some x =>
      if x.toNat < 0x20 then here .controlCharacter c.next
      else readChars fuel (x :: acc) c.next

/-- Reads a string whose opening quote has been read. -/
def readText : Read Fault String := fun c => readChars (c.rest.length + 1) [] c

end ClusterMap.Json
