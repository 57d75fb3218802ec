import HtmlTemplate.Script.Library.FieldText
import HtmlTemplate.Text.Search
import HtmlTemplate.Text.Width

/-!
# Methods of texts

`callTextMethod` gives the value of a method of a text. A method whose result has the characters of
the text gives the text itself, except for those that change letter case.
-/

namespace HtmlTemplate.Script

open HtmlTemplate.Text

/-- A text, which is a given value when it has the same characters. -/
def newTextLike (v : Value) (s : String) (cs : List Char) : Run Value := do
  let r := String.ofList cs
  if r == s then return v else newStr r

/-- A list of texts; one that has all characters of a given value is that value. -/
def newTexts (v : Value) (s : String) (parts : List (List Char)) : Run Value := do
  newList (← parts.mapM (newTextLike v s))

/-- The text that an argument of a method is. -/
def textGiven (before : String) (v : Value) : Run String := do
  match v with
  | .str _ s => return s
  | v => do
    let type ← if before.isEmpty then messageTypeOf v else argumentType v
    raiseType (before ++ "must be str, not " ++ type)

/-! ### Parts of texts -/

/-- The bound of a part, which may be left out. -/
def windowBound (size : Nat) (ifNone : Int) (v? : Option Value) : Run Int := do
  match v? with
  | none => return ifNone
  | some v =>
    match ← sliceNumber v with
    | none => return ifNone
    | some b => return max 0 (if b < 0 then b + size else b)

/-- The part of a text between two bounds, which may be left out, and the place where it starts. -/
def window {α : Type} (items : List α) (bounds : List Value) : Run (Nat × Option (List α)) := do
  let size := items.length
  let start ← windowBound size 0 bounds[0]?
  let stop := min (← windowBound size size bounds[1]?) size
  if stop < start then return (start.toNat, none)
  else return (start.toNat, some ((items.drop start.toNat).take (stop - start).toNat))

/-- Whether a part, or one of the parts in a tuple, satisfies a test; parts come out of values by
`part?`, and `kind` is how they are called in messages. -/
def touches {α : Type} (name kind : String) (part? : Value → Option α) (test : α → Bool)
    (v : Value) : Run Bool := do
  let rec anyOf : List Value → Run Bool
    | [] => return false
    | v :: vs => do
      match part? v with
      | some part => if test part then return true else anyOf vs
      | none => raiseTypeOf ("tuple for " ++ name ++ " must only contain " ++ kind ++ ", not ") v ""
  match v with
  | .tuple _ items => anyOf items
  | _ =>
    match part? v with
    | some part => return test part
    | none =>
      raiseTypeOf (name ++ " first arg must be " ++ kind ++ " or a tuple of " ++ kind ++ ", not ") v
        ""

/-- Whether one list ends, or begins, with another. -/
def meets {α : Type} [BEq α] (atEnd : Bool) (whole? : Option (List α)) (part : List α) : Bool :=
  whole?.any fun whole => if atEnd then part.isSuffixOf whole else part.isPrefixOf whole

/-- The characters of a text. -/
def charsOf? : Value → Option (List Char)
  | .str _ s => some s.toList
  | _ => none

/-- The bytes of a row. -/
def bytesOf? : Value → Option (List UInt8)
  | .bytes _ b => some b
  | _ => none

/-! ### Methods with arguments -/

/-- Strips characters off the ends of a text. -/
def stripped (name : String) (v : Value) (s : String) (args : List Value) : Run Value := do
  let drops ← match args with
    | [] => pure isBlank
    | [.nothing] => pure isBlank
    | [.str _ chars] => pure fun c => chars.toList.contains c
    | _ => raiseType (name ++ " arg must be None or str")
  let cs := s.toList
  let cs := if name == "rstrip" then cs else cs.dropWhile drops
  let cs := if name == "lstrip" then cs else dropEndWhile drops cs
  newTextLike v s cs

/-- How often a text of some length is split at most. -/
def splitLimit (size : Nat) (v? : Option Value) : Run Nat := do
  match v? with
  | none => return size + 1
  | some v =>
    let n ← sizeArgument v
    return if n < 0 then size + 1 else n.toNat

/-- Splits a text, from the end or from the start. -/
def splitText (fromEnd : Bool) (v : Value) (s : String) (sep? limit? : Option Value) :
    Run Value := do
  let cs := s.toList
  let limit ← splitLimit cs.length limit?
  let atWords : Run Value := do
    let words := if fromEnd then lastWords isBlank limit cs else firstWords isBlank limit cs
    if limit = 0 then newList (← words.mapM fun w => newStr (String.ofList w))
    else newTexts v s words
  match sep? with
  | none => atWords
  | some .nothing => atWords
  | some (.str _ sep) =>
    let sep := sep.toList
    if sep.isEmpty then raise .value "empty separator"
    else newTexts v s (if fromEnd then splitAtLastPart sep limit cs else splitAtPart sep limit cs)
  | some other => raiseTypeOf "must be str or None, not " other ""

/-- The parts of a text before a separator, the separator and the part after it. -/
def partitioned (atLast : Bool) (v : Value) (s : String) (sep : Value) : Run Value := do
  let part := (← textGiven "" sep).toList
  let cs := s.toList
  if part.isEmpty then raise .value "empty separator"
  else
    match if atLast then cutAtLast part cs else cutAt part cs with
    | some (before, after) =>
      newTuple [← newStr (String.ofList before), sep, ← newStr (String.ofList after)]
    | none =>
      let empty ← newStr ""
      newTuple (if atLast then [empty, empty, v] else [v, empty, empty])

/-- A text with parts replaced. -/
def replaced (v : Value) (s : String) (old new : Value) (limit? : Option Value) : Run Value := do
  let from_ := (← textGiven "replace() argument 1 " old).toList
  let replacement := (← textGiven "replace() argument 2 " new).toList
  let cs := s.toList
  let limit ← splitLimit cs.length limit?
  if limit = 0 || old.same new || (cutAt from_ cs).isNone then return v
  else newStr (String.ofList (replaceParts from_ replacement limit cs))

/-- The width that an argument asks for. -/
def widthArgument (v : Value) : Run Nat := do
  let n := (← sizeArgument v).toNat
  if roomLimit ≤ n then
    if Nat.pow 2 61 ≤ n then raiseOverflow "padded string is too long"
    else throw (.error .memory [])
  else return n

/-- Characters in the middle of a width or at one of its ends, as a method asks for it. -/
def inWidth (name : String) (fill : Char) (width : Nat) (cs : List Char) : List Char :=
  let missing := width - cs.length
  match name with
  | "ljust" => padded fill 0 missing cs
  | "rjust" => padded fill missing 0 cs
  | _ => centered fill width cs

/-- A text in the middle of a width or at one of its ends. -/
def placed (name : String) (v : Value) (s : String) (args : List Value) : Run Value := do
  let cs := s.toList
  match args with
  | [] => return v
  | width :: rest =>
    let width ← widthArgument width
    let fill ← match rest with
      | [] => pure ' '
      | .str _ f :: _ =>
        match f.toList with
        | [c] => pure c
        | _ => raiseType "The fill character must be exactly one character long"
      | other :: _ => raiseTypeOf "The fill character must be a unicode character, not " other ""
    if width ≤ cs.length then return v
    else newStr (String.ofList (inWidth name fill width cs))

/-- The first or last place of a part in a window of a text or of a row of bytes. -/
def placeIn {α : Type} (search : List α → List α → Option Nat) (part : List α)
    (window : Nat × Option (List α)) : Option Nat :=
  (window.2.bind (search part)).map (window.1 + ·)

/-- The place of a part as a number, where one that is missing is below zero or an error. -/
def placeResult (name what : String) (place? : Option Nat) : Run Value := do
  match place? with
  | some place => newInt place
  | none =>
    if name == "find" || name == "rfind" then newInt (-1)
    else raise .value (what ++ " not found")

/-! ### Tables of characters -/

/-- The text that a table puts in the place of a character. -/
def translatedChar (perform : Perform) (table : Value) (c : Char) : Run (List Char) := do
  let key ← newInt (codePoint c)
  let found? : Option Value ← tryCatch (do return some (← access perform table key)) fun r =>
    match r with
    | .error kind _ =>
      if kind = .key ∨ kind = .index ∨ kind = .lookup then return none else throw r
    | r => throw r
  match found? with
  | none => return [c]
  | some .nothing => return []
  | some (.str _ s) => return s.toList
  | some v =>
    match v.int? with
    | some n =>
      match if n < 0 then none else ofCodePoint? n.toNat with
      | some c => return [c]
      | none => raise .value "character mapping must be in range(0x110000)"
    | none => raiseType "character mapping must return integer, None or str"

/-- A table of characters, from a dictionary or from texts of equal length. -/
def characterTable (args : List Value) : Run Value := do
  let codes (s : String) : Run (List Value) := s.toList.mapM fun c => newInt (codePoint c)
  match args with
  | [v] =>
    match ← dictOf? v with
    | none => raiseType "if you give only one argument to maketrans it must be a dict"
    | some t =>
      let pairs ← t.pairs.mapM fun (k, x) => do
        match k with
        | .str _ s =>
          match s.toList with
          | [c] => return (← newInt (codePoint c), x)
          | _ => raise .value "string keys in translate table must be of length 1"
        | .int .. => return (k, x)
        | _ => raiseType "keys in translate table must be strings or integers"
      newObject (.dict (← putEntries {} pairs))
  | first :: images :: rest =>
    let images ← textGiven "maketrans() argument 2 " images
    let dropped ← rest.mapM (textGiven "maketrans() argument 3 ")
    match first with
    | .str _ from_ =>
      if from_.length ≠ images.length then
        raise .value "the first two maketrans arguments must have equal length"
      else
        let table ← putEntries {} ((← codes from_).zip (← codes images))
        let drops ← dropped.flatMapM fun s => codes s
        newObject (.dict (← putEntries table (drops.map (·, .nothing))))
    | _ => raiseType "first maketrans argument must be a string if there is a second argument"
  | [] => return .nothing

/-! ### Joining -/

/-- The members of a value that are joined. -/
def membersToJoin (perform : Perform) (v : Value) : Run (List Value) :=
  allMembersOr perform v (raiseType "can only join an iterable")

/-- Joins texts with another between them. -/
def joinTexts (between : String) (items : List Value) : Run Value := do
  let texts ← items.zipIdx.mapM fun (v, i) => do
    match v with
    | .str _ s => return s
    | _ => raiseTypeOf ("sequence item " ++ toString i ++ ": expected str instance, ") v " found"
  match items with
  | [v] => return v
  | _ => newStr (between.intercalate texts)

/-! ### Calls -/

/-- Whether a text is of the kind that a method asks for. -/
def textIs (name s : String) : Option Bool :=
  let cs := s.toList
  let each (p : Char → Bool) : Bool := !cs.isEmpty && cs.all p
  match name with
  | "isalnum" => some (each fun c => isLetter c || isNumeric c)
  | "isalpha" => some (each isLetter)
  | "isascii" => some (cs.all fun c => c.toNat < 128)
  | "isdecimal" => some (each isDecimal)
  | "isdigit" => some (each isDigit)
  | "isidentifier" => some (isIdentifier s)
  | "islower" => some (allCased isSmall s)
  | "isnumeric" => some (each isNumeric)
  | "isprintable" => some (cs.all isPrintable)
  | "isspace" => some (each isBlank)
  | "istitle" => some (isTitle s)
  | "isupper" => some (allCased isCapital s)
  | _ => none

/-- A text in the letter case that a method asks for. -/
def textInCase (name s : String) : Option String :=
  match name with
  | "capitalize" => some (capitalized s)
  | "casefold" => some (casefold s)
  | "lower" => some (lowercase s)
  | "swapcase" => some (swapcase s)
  | "title" => some (titlecase s)
  | "upper" => some (uppercase s)
  | _ => none

/-- The value of a method of a text for arguments given by place. -/
def callPlacedTextMethod (perform : Perform) (v : Value) (s name : String) (args : List Value) :
    Run Value := do
  let cs := s.toList
  match name, args with
  | "strip", args => stripped name v s args
  | "lstrip", args => stripped name v s args
  | "rstrip", args => stripped name v s args
  | "center", args => placed name v s args
  | "ljust", args => placed name v s args
  | "rjust", args => placed name v s args
  | "zfill", [width] =>
    let width ← widthArgument width
    if width ≤ cs.length then return v else newStr (String.ofList (zeroFilled width cs))
  | "join", [items] => joinTexts s (← membersToJoin perform items)
  | "partition", [sep] => partitioned false v s sep
  | "rpartition", [sep] => partitioned true v s sep
  | "removeprefix", [part] =>
    let part := (← textGiven "removeprefix() argument " part).toList
    if part.isPrefixOf cs then newTextLike v s (cs.drop part.length) else return v
  | "removesuffix", [part] =>
    let part := (← textGiven "removesuffix() argument " part).toList
    if part.isSuffixOf cs then newTextLike v s (cs.take (cs.length - part.length)) else return v
  | "replace", old :: new :: rest => replaced v s old new rest[0]?
  | "translate", [table] =>
    newStr (String.ofList (← cs.flatMapM (translatedChar perform table)))
  | "maketrans", args => characterTable args
  | "format_map", [table] =>
    fillFields perform v s ⟨none, fun name => do access perform table (← newStr name)⟩
  | "startswith", part :: bounds =>
    return .bool (← touches name "str" charsOf? (meets false (← window cs bounds).2) part)
  | "endswith", part :: bounds =>
    return .bool (← touches name "str" charsOf? (meets true (← window cs bounds).2) part)
  | "count", part :: bounds =>
    let window ← window cs bounds
    let part := (← textGiven "" part).toList
    newInt ((window.2.map (occurrences part)).getD 0)
  | name, part :: bounds =>
    let window ← window cs bounds
    let part := (← textGiven "" part).toList
    let search := if name == "rfind" || name == "rindex" then lastPlaceOf? else placeOf?
    placeResult name "substring" (placeIn search part window)
  | _, _ => return .nothing

/-- The value of a method of a text for arguments that may be given by name. -/
def callKeyedTextMethod (v : Value) (s name : String) (given : List (Option Value)) :
    Run Value := do
  match name, given with
  | "encode", [encoding?, policy?] =>
    let encoding? ← encoding?.mapM (textArgument "encode" "'encoding'")
    let policy? ← policy?.mapM (textArgument "encode" "'errors'")
    encodedText s (encoding?.getD "utf-8") (policy?.getD "strict")
  | "expandtabs", [size?] =>
    let size ← match size? with
      | some size => shortArgument size
      | none => pure 8
    newTextLike v s (tabsExpanded size.toNat 0 s.toList)
  | "splitlines", [keep?] =>
    let keep ← match keep? with
      | some keep => pure ((← shortArgument keep) != 0)
      | none => pure false
    newTexts v s (splitLines keep s.toList)
  | name, [sep?, limit?] => splitText (name == "rsplit") v s sep? limit?
  | _, _ => return .nothing

/-- The value of a method of a text. -/
def callTextMethod (perform : Perform) (v : Value) (s name : String) (args : List Value)
    (named : Named) : Run Value := do
  match methodRule? "str" name with
  | none => return .nothing
  | some (.keyed k) => callKeyedTextMethod v s name (← keyedArguments name k args named)
  | some rule => do
    checkArguments name ("str." ++ name) rule args named
    match textIs name s, textInCase name s with
    | some b, _ => return .bool b
    | none, some t => newStr t
    | none, none =>
      if name == "format" then
        fillFields perform v s ⟨some args, fun key => do
          match named.lookup key with
          | some v => return v
          | none => throw (.error .key [← newStr key])⟩
      else callPlacedTextMethod perform v s name args

end HtmlTemplate.Script
