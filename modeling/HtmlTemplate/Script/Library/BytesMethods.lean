import HtmlTemplate.Script.Library.TextMethods

/-!
# Methods of rows of bytes

`callBytesMethod` gives the value of a method of a row of bytes. The methods are those of texts,
where a byte below 128 counts as the character of that number and no other byte is a letter.
-/

namespace HtmlTemplate.Script

open HtmlTemplate.Text

/-! ### Bytes as characters -/

/-- Whether a byte separates words. -/
def isBlankByte (b : UInt8) : Bool := (0x09 ≤ b.toNat && b.toNat ≤ 0x0d) || b.toNat == 0x20

/-- Bytes held as characters, so that they are searched as texts are. -/
def heldBytes (b : List UInt8) : List Char := b.map fun x => Char.ofNat x.toNat

/-- Whether a held byte separates words. -/
def isBlankHeld (c : Char) : Bool := isBlankByte (UInt8.ofNat c.toNat)

/-- The bytes that characters hold. -/
def bytesHeld (cs : List Char) : List UInt8 := cs.map fun c => UInt8.ofNat c.toNat

/-- The text of the bytes that are letters, with a mark in the place of each byte beyond 127. -/
def lettersOf (b : List UInt8) : String :=
  String.ofList (b.map fun x => if x.toNat < 128 then Char.ofNat x.toNat else '\x80')

/-- The bytes in the letter case that a method asks for. -/
def bytesInCase (name : String) (b : List UInt8) : Option (List UInt8) :=
  if name == "casefold" then none
  else (textInCase name (lettersOf b)).map fun s =>
    (b.zip s.toList).map fun (x, c) => if x.toNat < 128 then UInt8.ofNat c.toNat else x

/-- Whether bytes are what a method asks for. -/
def bytesAre (name : String) (b : List UInt8) : Option Bool :=
  match name with
  | "isascii" => some (b.all fun x => x.toNat < 128)
  | "isspace" => some (!b.isEmpty && b.all isBlankByte)
  | _ => textIs name (lettersOf b)

/-- The lines of a row of bytes, with the marks that end them or without. -/
def splitByteLines (keep : Bool) : List UInt8 → List (List UInt8)
  | [] => []
  | x :: b =>
    if x == 13 && b.head? == some 10 then
      match splitByteLines keep b with
      | l :: ls => (if keep then x :: l else l) :: ls
      | [] => [if keep then [x] else []]
    else if x == 10 || x == 13 then (if keep then [x] else []) :: splitByteLines keep b
    else
      match b with
      | [] => [[x]]
      | _ :: _ =>
        match splitByteLines keep b with
        | l :: ls => (x :: l) :: ls
        | [] => [[x]]

/-! ### Results and arguments -/

/-- A row of bytes, which is a given value when it has the same bytes. -/
def newBytesLike (v : Value) (b row : List UInt8) : Run Value := do
  if row == b then return v else newBytes row

/-- A row of bytes that is no other value. -/
def freshBytes (b : List UInt8) : Run Value := do
  if b.isEmpty then newBytes b else return .bytes (← freshMark) b

/-- The bytes that an argument of a method is. -/
def bytesGiven (v : Value) : Run (List UInt8) := do
  match v with
  | .bytes _ b => return b
  | v => raiseTypeOf "a bytes-like object is required, not '" v "'"

/-- The bytes, or the single byte, that an argument of a method is. -/
def bytesSought (v : Value) : Run (List UInt8) := do
  match v with
  | .bytes _ b => return b
  | v =>
    match v.int? with
    | some n =>
      if 0 ≤ n ∧ n < 256 then return [UInt8.ofNat n.toNat]
      else raise .value "byte must be in range(0, 256)"
    | none =>
      raiseTypeOf "argument should be integer or bytes-like object, not '" v "'"

/-- The row of bytes that a text of digits of base sixteen stands for. -/
def bytesOfHex (s : String) : Run Value := do
  match readHex s with
  | .ok b => newBytes b
  | .error place =>
    raise .value ("non-hexadecimal number found in fromhex() arg at position " ++ toString place)

/-! ### Methods -/

/-- Splits a row of bytes, from the end or from the start. -/
def splitBytes (fromEnd : Bool) (v : Value) (b : List UInt8) (sep? limit? : Option Value) :
    Run Value := do
  let cs := heldBytes b
  let limit ← splitLimit cs.length limit?
  let give (parts : List (List Char)) : Run Value := do
    newList (← parts.mapM fun cs => newBytesLike v b (bytesHeld cs))
  let words := if fromEnd then lastWords isBlankHeld limit cs else firstWords isBlankHeld limit cs
  match sep? with
  | none => give words
  | some .nothing => give words
  | some sep =>
    let sep := heldBytes (← bytesGiven sep)
    if sep.isEmpty then raise .value "empty separator"
    else give (if fromEnd then splitAtLastPart sep limit cs else splitAtPart sep limit cs)

/-- The parts of a row of bytes before a separator, the separator and the part after it. -/
def partitionedBytes (atLast : Bool) (v : Value) (b : List UInt8) (sep : Value) : Run Value := do
  let part := heldBytes (← bytesGiven sep)
  let cs := heldBytes b
  if part.isEmpty then raise .value "empty separator"
  else
    match if atLast then cutAtLast part cs else cutAt part cs with
    | some (before, after) =>
      newTuple [← newBytes (bytesHeld before), sep, ← newBytes (bytesHeld after)]
    | none =>
      let empty ← newBytes []
      newTuple (if atLast then [empty, empty, v] else [v, empty, empty])

/-- A row of bytes in the middle of a width or at one of its ends. -/
def placedBytes (name : String) (v : Value) (b : List UInt8) (args : List Value) : Run Value := do
  let cs := heldBytes b
  match args with
  | [] => return v
  | width :: rest =>
    let width ← widthArgument width
    let fill ← match rest with
      | [] => pure ' '
      | other :: _ =>
        match other with
        | .bytes _ [x] => pure (Char.ofNat x.toNat)
        | _ =>
          let type ← argumentType other
          raiseType (name ++ "() argument 2 must be a byte string of length 1, not " ++ type)
    newBytesLike v b (bytesHeld (inWidth name fill width cs))

/-- Joins rows of bytes with another between them. -/
def joinBytes (between : List UInt8) (items : List Value) : Run Value := do
  let rows ← items.zipIdx.mapM fun (v, i) => do
    match v with
    | .bytes _ b => return b
    | _ =>
      raiseTypeOf ("sequence item " ++ toString i ++ ": expected a bytes-like object, ") v " found"
  match items with
  | [v] => return v
  | _ => newBytes (between.intercalate rows)

/-- The digits of bytes in base sixteen, with a mark between groups of them: groups of a positive
size are counted from the end. -/
def groupedHex (b : List UInt8) (mark : List Char) (size : Int) : List Char :=
  let count := size.natAbs
  let digits (x : UInt8) : List Char := hexDigits 2 x.toNat
  if mark.isEmpty || count = 0 then b.flatMap digits
  else
    b.zipIdx.flatMap fun (x, i) =>
      let passed := if 0 < size then b.length - i else i
      if i ≠ 0 && passed % count = 0 then mark ++ digits x else digits x

/-- The digits of bytes in base sixteen as arguments ask for them. -/
def hexOfBytes (b : List UInt8) (sep? size? : Option Value) : Run Value := do
  let size ← match size? with
    | some size => shortArgument size
    | none => pure 1
  let mark ← match sep? with
    | none => pure []
    | some (.str _ s) => ofLength s.toList
    | some (.bytes _ sep) => ofLength (heldBytes sep)
    | some _ => raiseType "sep must be str or bytes."
  newStr (String.ofList (groupedHex b mark size))
where
  /-- The mark, which is one character. -/
  ofLength (cs : List Char) : Run (List Char) := do
    match cs with
    | [c] =>
      if c.toNat < 128 then return [c] else raise .value "sep must be ASCII."
    | _ => raise .value "sep must be length 1."

/-- The value of a method of a row of bytes for arguments given by place. -/
def callPlacedBytesMethod (perform : Perform) (v : Value) (b : List UInt8) (name : String)
    (args : List Value) : Run Value := do
  let cs := heldBytes b
  match name, args with
  | "fromhex", [digits] =>
    match digits with
    | .str _ s => bytesOfHex s
    | _ => raiseType ("fromhex() argument must be str, not " ++ (← argumentType digits))
  | "join", [items] => joinBytes b (← membersToJoin perform items)
  | "center", args => placedBytes name v b args
  | "ljust", args => placedBytes name v b args
  | "rjust", args => placedBytes name v b args
  | "zfill", [width] => newBytesLike v b (bytesHeld (zeroFilled (← widthArgument width) cs))
  | "partition", [sep] => partitionedBytes false v b sep
  | "rpartition", [sep] => partitionedBytes true v b sep
  | "removeprefix", [part] =>
    let part ← bytesGiven part
    if part.isPrefixOf b && !part.isEmpty then newBytes (b.drop part.length) else return v
  | "removesuffix", [part] =>
    let part ← bytesGiven part
    if part.isSuffixOf b && !part.isEmpty then newBytes (b.take (b.length - part.length))
    else return v
  | "replace", old :: new :: rest =>
    let from_ ← bytesGiven old
    let replacement ← bytesGiven new
    let limit ← splitLimit b.length rest[0]?
    if limit = 0 || (cutAt (heldBytes from_) cs).isNone then return v
    else newBytes (bytesHeld (replaceParts (heldBytes from_) (heldBytes replacement) limit cs))
  | "startswith", part :: bounds =>
    return .bool (← touches name "bytes" bytesOf? (meets false (← window b bounds).2) part)
  | "endswith", part :: bounds =>
    return .bool (← touches name "bytes" bytesOf? (meets true (← window b bounds).2) part)
  | "count", part :: bounds =>
    let window ← window cs bounds
    let part := heldBytes (← bytesSought part)
    newInt ((window.2.map (occurrences part)).getD 0)
  | "strip", args => trimmed args
  | "lstrip", args => trimmed args
  | "rstrip", args => trimmed args
  | name, part :: bounds =>
    let window ← window cs bounds
    let part := heldBytes (← bytesSought part)
    let search := if name == "rfind" || name == "rindex" then lastPlaceOf? else placeOf?
    placeResult name "subsection" (placeIn search part window)
  | _, _ => return .nothing
where
  /-- The row with bytes stripped off its ends. -/
  trimmed (args : List Value) : Run Value := do
    let drops ← match args with
      | [] => pure isBlankByte
      | .nothing :: _ => pure isBlankByte
      | part :: _ => do
        let part ← bytesGiven part
        pure part.contains
    let kept := if name == "rstrip" then b else b.dropWhile drops
    let kept := if name == "lstrip" then kept else dropEndWhile drops kept
    newBytesLike v b kept

/-- The value of a method of a row of bytes for arguments that may be given by name. -/
def callKeyedBytesMethod (v : Value) (b : List UInt8) (name : String)
    (given : List (Option Value)) : Run Value := do
  match name, given with
  | "split", [sep?, limit?] => splitBytes false v b sep? limit?
  | "rsplit", [sep?, limit?] => splitBytes true v b sep? limit?
  | "hex", [sep?, size?] => hexOfBytes b sep? size?
  | "expandtabs", [size?] =>
    let size ← match size? with
      | some size => shortArgument size
      | none => pure 8
    freshBytes (bytesHeld (tabsExpanded size.toNat 0 (heldBytes b)))
  | "splitlines", [keep?] =>
    let keep ← match keep? with
      | some keep => pure ((← shortArgument keep) != 0)
      | none => pure false
    newList (← (splitByteLines keep b).mapM (newBytesLike v b))
  | _, given =>
    let texts ← (given.zip ["'encoding'", "'errors'"]).mapM fun (v?, place) =>
      v?.mapM (textArgument "decode" place)
    decodedBytes b ((texts[0]?.join).getD "utf-8") ((texts[1]?.join).getD "strict")

/-- The value of a method of a row of bytes. -/
def callBytesMethod (perform : Perform) (v : Value) (b : List UInt8) (name : String)
    (args : List Value) (named : Named) : Run Value := do
  match methodRule? "bytes" name with
  | none => return .nothing
  | some (.keyed k) => callKeyedBytesMethod v b name (← keyedArguments name k args named)
  | some rule => do
    checkArguments name ("bytes." ++ name) rule args named
    match bytesAre name b, bytesInCase name b with
    | some answer, _ => return .bool answer
    | none, some row => freshBytes row
    | none, none => callPlacedBytesMethod perform v b name args

end HtmlTemplate.Script
