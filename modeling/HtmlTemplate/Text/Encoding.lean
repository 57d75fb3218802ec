import HtmlTemplate.Text.Quoted

/-!
# Encodings

How texts are kept as rows of bytes. `Encoding.decode?` gives the text that bytes stand for, and
`Encoding.encode` and `Encoding.decode` treat what has no form in the other shape as a `FaultPolicy`
says. The forms of one to four bytes in UTF-8 are those that Unicode allows: no longer one than
needed, no halves of surrogate pairs, nothing beyond the last code point.
-/

namespace HtmlTemplate.Text

/-- Encodings of texts. -/
inductive Encoding
  | utf8
  | latin1
  | ascii
deriving DecidableEq, Repr

/-- What is done about characters or bytes that an encoding has no form for. -/
inductive FaultPolicy
  | refuse
  | leaveOut
  /-- A mark in their place. -/
  | mark
  /-- An escape in their place. -/
  | escape
  /-- A character reference in their place. -/
  | reference
deriving DecidableEq, Repr

/-- The policy of a name. -/
def FaultPolicy.ofName? : String → Option FaultPolicy
  | "strict" => some refuse
  | "ignore" => some leaveOut
  | "replace" => some mark
  | "backslashreplace" => some escape
  | "xmlcharrefreplace" => some reference
  | _ => none

/-- A fault: where it begins, how long it is and why it is one. -/
structure EncodingFault where
  position : Nat
  size : Nat := 1
  reason : String

namespace Encoding

/-- The encoding of a name. -/
def ofName? (name : String) : Option Encoding :=
  match name.toLower.replace "_" "-" with
  | "utf-8" => some .utf8
  | "utf8" => some .utf8
  | "latin-1" => some .latin1
  | "latin1" => some .latin1
  | "iso-8859-1" => some .latin1
  | "ascii" => some .ascii
  | "us-ascii" => some .ascii
  | _ => none

/-- The name of an encoding in messages. -/
def name : Encoding → String
  | utf8 => "utf-8"
  | latin1 => "latin-1"
  | ascii => "ascii"

/-- The text that bytes stand for. -/
def decode? (e : Encoding) (bytes : List UInt8) : Option String :=
  match e with
  | utf8 => String.fromUTF8? (ByteArray.mk bytes.toArray)
  | latin1 => some (String.ofList (bytes.map fun b => Char.ofNat b.toNat))
  | ascii =>
    if bytes.all (·.toNat < 128) then some (String.ofList (bytes.map fun b => Char.ofNat b.toNat))
    else none

/-! ### From texts to bytes -/

/-- The bytes of a character, or why there are none. -/
def charBytes (e : Encoding) (c : Char) : Except String (List UInt8) :=
  let n := codePoint c
  let byte (k : Nat) : UInt8 := UInt8.ofNat k
  let follow (k : Nat) : UInt8 := byte (0x80 + k % 0x40)
  match e with
  | ascii => if n < 0x80 then .ok [byte n] else .error "ordinal not in range(128)"
  | latin1 => if n < 0x100 then .ok [byte n] else .error "ordinal not in range(256)"
  | utf8 =>
    if n < 0x80 then .ok [byte n]
    else if n < 0x800 then .ok [byte (0xc0 + n / 0x40), follow n]
    else if isSurrogate c then .error "surrogates not allowed"
    else if n < 0x10000 then .ok [byte (0xe0 + n / 0x1000), follow (n / 0x40), follow n]
    else .ok [byte (0xf0 + n / 0x40000), follow (n / 0x1000), follow (n / 0x40), follow n]

/-- The ASCII bytes of characters. -/
def plainBytes (cs : List Char) : List UInt8 := cs.map fun c => UInt8.ofNat c.toNat

/-- The bytes in the place of a character without a form. -/
def insteadOf (policy : FaultPolicy) (c : Char) : Option (List UInt8) :=
  match policy with
  | .refuse => none
  | .leaveOut => some []
  | .mark => some (plainBytes ['?'])
  | .escape => some (plainBytes (escaped (codePoint c)))
  | .reference =>
    some (plainBytes (['&', '#'] ++ Nat.toDigits 10 (codePoint c) ++ [';']))

/-- The bytes of characters; the first of them stands at `position`. -/
def encodeFrom (e : Encoding) (policy : FaultPolicy) (position : Nat) :
    List Char → Except EncodingFault (List UInt8)
  | [] => .ok []
  | c :: cs => do
    let bytes ← match e.charBytes c with
      | .ok bytes => pure bytes
      | .error reason =>
        match insteadOf policy c with
        | some bytes => pure bytes
        | none =>
          let isFaulty (c : Char) : Bool := match e.charBytes c with
            | .error _ => true
            | .ok _ => false
          .error ⟨position, 1 + (cs.takeWhile isFaulty).length, reason⟩
    return bytes ++ (← encodeFrom e policy (position + 1) cs)

/-- The bytes of a text. -/
def encode (e : Encoding) (policy : FaultPolicy) (s : String) :
    Except EncodingFault (List UInt8) :=
  e.encodeFrom policy 0 s.toList

/-! ### From bytes to texts -/

/-- What a first byte of UTF-8 tells: how many bytes follow, its part of the code point and the
bounds of the second byte. -/
def leadByte? (b : Nat) : Option (Nat × Nat × Nat × Nat) :=
  if b < 0x80 then some (0, b, 0x80, 0xbf)
  else if 0xc2 ≤ b ∧ b < 0xe0 then some (1, b - 0xc0, 0x80, 0xbf)
  else if 0xe0 ≤ b ∧ b < 0xf0 then
    some (2, b - 0xe0, if b = 0xe0 then 0xa0 else 0x80, if b = 0xed then 0x9f else 0xbf)
  else if 0xf0 ≤ b ∧ b < 0xf5 then
    some (3, b - 0xf0, if b = 0xf0 then 0x90 else 0x80, if b = 0xf4 then 0x8f else 0xbf)
  else none

/-- Reads so many further bytes of a character; `size` bytes of it have been read. -/
def followBytes (size : Nat) :
    Nat → Nat → Nat → Nat → List UInt8 → Except (Nat × String) (Nat × Nat)
  | 0, value, _, _, _ => .ok (value, size)
  | left + 1, value, low, high, bytes =>
    match bytes with
    | [] => .error (size, "unexpected end of data")
    | b :: rest =>
      if low ≤ b.toNat ∧ b.toNat ≤ high then
        followBytes (size + 1) left (value * 0x40 + b.toNat % 0x40) 0x80 0xbf rest
      else .error (size, "invalid continuation byte")

/-- The first character of bytes and its size, or the size of the fault and why it is one. -/
def firstChar (e : Encoding) (bytes : List UInt8) : Except (Nat × String) (Nat × Nat) :=
  match e, bytes with
  | _, [] => .error (0, "")
  | latin1, b :: _ => .ok (b.toNat, 1)
  | ascii, b :: _ =>
    if b.toNat < 0x80 then .ok (b.toNat, 1) else .error (1, "ordinal not in range(128)")
  | utf8, b :: rest =>
    match leadByte? b.toNat with
    | none => .error (1, "invalid start byte")
    | some (count, value, low, high) => followBytes 1 count value low high rest

/-- The characters of bytes, the first of which stands at `position`; `fuel` bounds their number. -/
def decodeFrom (e : Encoding) (policy : FaultPolicy) (position : Nat) :
    Nat → List UInt8 → Except EncodingFault (List Char)
  | 0, _ => .ok []
  | _, [] => .ok []
  | fuel + 1, bytes =>
    match e.firstChar bytes with
    | .ok (n, size) => do
      return (ofCodePoint? n).toList ++
        (← decodeFrom e policy (position + size) fuel (bytes.drop size))
    | .error (size, reason) => do
      let instead ← match policy with
        | .refuse => .error ⟨position, size, reason⟩
        | .leaveOut => pure []
        | .escape => pure ((bytes.take size).flatMap fun b => escaped b.toNat)
        | _ => pure [Char.ofNat 0xfffd]
      return instead ++ (← decodeFrom e policy (position + size) fuel (bytes.drop size))

/-- The text of bytes. -/
def decode (e : Encoding) (policy : FaultPolicy) (bytes : List UInt8) :
    Except EncodingFault String :=
  (e.decodeFrom policy 0 bytes.length bytes).map String.ofList

/-- The place of a fault in messages: its bounds when it is longer than one. -/
def faultPlace (f : EncodingFault) : String :=
  if f.size = 1 then toString f.position
  else toString f.position ++ "-" ++ toString (f.position + f.size - 1)

/-- The message that a text cannot be encoded. -/
def encodeMessage (e : Encoding) (s : String) (f : EncodingFault) : String :=
  let what := if f.size = 1
    then "character '" ++ String.ofList (((s.toList[f.position]?).map codePoint).elim [] escaped) ++
      "'"
    else "characters"
  "'" ++ e.name ++ "' codec can't encode " ++ what ++ " in position " ++ faultPlace f ++ ": " ++
    f.reason

/-- The message that bytes cannot be decoded. -/
def decodeMessage (e : Encoding) (bytes : List UInt8) (f : EncodingFault) : String :=
  let what := if f.size = 1
    then "byte 0x" ++ String.ofList (hexDigits 2 ((bytes[f.position]?).elim 0 UInt8.toNat))
    else "bytes"
  "'" ++ e.name ++ "' codec can't decode " ++ what ++ " in position " ++ faultPlace f ++ ": " ++
    f.reason

end Encoding

/-! ### Bytes written in digits -/

/-- The value of a digit of base sixteen. -/
def hexValue? (c : Char) : Option Nat :=
  if c.isDigit then some (c.toNat - '0'.toNat)
  else if 'a' ≤ c.toLower ∧ c.toLower ≤ 'f' then some (c.toLower.toNat - 'a'.toNat + 10)
  else none

/-- The bytes that pairs of digits of base sixteen stand for, with blanks between the pairs, or the
place of the first character that does not fit; `place` is that of the text. -/
def readHexPairs (place : Nat) : List Char → Except Nat (List UInt8)
  | [] => .ok []
  | c :: cs =>
    if c == ' ' || ('\t' ≤ c && c ≤ '\r') then readHexPairs (place + 1) cs
    else
      match hexValue? c, cs with
      | none, _ => .error place
      | some _, [] => .error (place + 1)
      | some high, d :: rest =>
        match hexValue? d with
        | none => .error (place + 1)
        | some low => (readHexPairs (place + 2) rest).map (UInt8.ofNat (16 * high + low) :: ·)

/-- The bytes that a text of digits of base sixteen stands for, or the place of a character that does
not fit; those beyond ASCII are found first. -/
def readHex (s : String) : Except Nat (List UInt8) :=
  match s.toList.findIdx? fun c => 127 < c.toNat with
  | some place => .error place
  | none => readHexPairs 0 s.toList

end HtmlTemplate.Text
