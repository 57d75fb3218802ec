import HtmlTemplate.Text.Pattern

/-!
# Reading search patterns

`Pattern.parse` reads the usual notation of regular expressions: literal characters, the dot,
classes in brackets, anchors, groups with and without a number, alternatives and repetitions. It
refuses texts that are not well formed.
-/

namespace HtmlTemplate.Text

/-- What is wrong with the text of a pattern. -/
inductive PatternError
  | unclosedGroup
  | unopenedGroup
  | unclosedClass
  | badRange
  | badEscape
  | nothingToRepeat
  | badBounds
  | tooDeep
deriving DecidableEq, Repr

/-- The text still to read and the number of groups opened so far. -/
structure PatternReader where
  rest : List Char
  groups : Nat

/-- Classes that an escaped letter stands for. -/
def escapeClass? : Char → Option ClassItem
  | 'w' => some (.word true)
  | 'W' => some (.word false)
  | 'd' => some (.digit true)
  | 'D' => some (.digit false)
  | 's' => some (.blank true)
  | 'S' => some (.blank false)
  | _ => none

/-- The character that an escape stands for when it is not a class. -/
def escapeChar? (c : Char) : Option Char :=
  match c with
  | 'n' => some '\n'
  | 't' => some '\t'
  | 'r' => some '\r'
  | 'f' => some (Char.ofNat 12)
  | 'v' => some (Char.ofNat 11)
  | 'a' => some (Char.ofNat 7)
  | _ => if c.isAlphanum then none else some c

/-- Members of a class up to the closing bracket, which may stand first as a plain member. -/
def readClass : Nat → Bool → List Char → List ClassItem →
    Except PatternError (List ClassItem × List Char)
  | 0, _, _, _ => .error .tooDeep
  | _, _, [], _ => .error .unclosedClass
  | fuel + 1, first, c :: cs, items =>
    if c == ']' && !first then .ok (items.reverse, cs)
    else
      let member : Except PatternError (Sum ClassItem Char × List Char) :=
        if c == '\\' then
          match cs with
          | [] => .error .badEscape
          | e :: cs' =>
            match escapeClass? e with
            | some item => .ok (.inl item, cs')
            | none =>
              if e == 'b' then .ok (.inr (Char.ofNat 8), cs')
              else match escapeChar? e with
                | some d => .ok (.inr d, cs')
                | none => .error .badEscape
        else .ok (.inr c, cs)
      match member with
      | .error e => .error e
      | .ok (.inl item, cs') => readClass fuel false cs' (item :: items)
      | .ok (.inr lo, cs') =>
        match cs' with
        | '-' :: ']' :: _ => readClass fuel false cs' (.range lo lo :: items)
        | '-' :: hi :: cs'' =>
          if hi == '\\' then
            match cs'' with
            | e :: cs''' =>
              match escapeClass? e, escapeChar? e with
              | none, some d =>
                if d < lo then .error .badRange
                else readClass fuel false cs''' (.range lo d :: items)
              | _, _ => .error .badRange
            | [] => .error .badEscape
          else if hi < lo then .error .badRange
          else readClass fuel false cs'' (.range lo hi :: items)
        | _ => readClass fuel false cs' (.range lo lo :: items)

/-- The number at the front of a text. -/
def leadingNumber? (cs : List Char) : Option Nat × List Char :=
  let digits := cs.takeWhile Char.isDigit
  if digits.isEmpty then (none, cs)
  else (some (digits.foldl (fun n c => 10 * n + (c.toNat - 48)) 0), cs.dropWhile Char.isDigit)

/-- The bounds in braces at the front of a text, if it has the form of bounds. -/
def readBounds? (cs : List Char) : Option (Nat × Option Nat × List Char) :=
  match leadingNumber? cs with
  | (some n, '\x7d' :: cs') => some (n, some n, cs')
  | (lo?, ',' :: cs') =>
    match leadingNumber? cs' with
    | (hi?, '\x7d' :: cs'') => some (lo?.getD 0, hi?, cs'')
    | _ => none
  | _ => none

/-- The repetition mark at the front of a text. -/
def readRepeat? (cs : List Char) : Option (Nat × Option Nat × List Char) :=
  match cs with
  | '*' :: cs' => some (0, none, cs')
  | '+' :: cs' => some (1, none, cs')
  | '?' :: cs' => some (0, some 1, cs')
  | '\x7b' :: cs' => readBounds? cs'
  | _ => none

/-- Puts a repetition mark that follows an item on it. -/
def readSuffix (item : Regex) (r : PatternReader) : Except PatternError (Regex × PatternReader) :=
  match readRepeat? r.rest with
  | none => .ok (item, r)
  | some (least, most?, rest) =>
    if most?.any (· < least) then .error .badBounds
    else
      let (lazy, rest) := match rest with
        | '?' :: rest' => (true, rest')
        | _ => (false, rest)
      if (readRepeat? rest).isSome then .error .nothingToRepeat
      else .ok (.repeated item least most? !lazy, ⟨rest, r.groups⟩)

mutual

/-- Alternatives up to a closing parenthesis or the end. -/
def readEither : Nat → PatternReader → Except PatternError (Regex × PatternReader)
  | 0, _ => .error .tooDeep
  | fuel + 1, r => do
    let (first, r) ← readSequence fuel r .nothing
    match r.rest with
    | '|' :: rest =>
      let (second, r) ← readEither fuel ⟨rest, r.groups⟩
      return (.either first second, r)
    | _ => return (first, r)

/-- Items in a row, joined to those already read. -/
def readSequence : Nat → PatternReader → Regex → Except PatternError (Regex × PatternReader)
  | 0, _, _ => .error .tooDeep
  | fuel + 1, r, before =>
    match r.rest with
    | [] => .ok (before, r)
    | '|' :: _ => .ok (before, r)
    | ')' :: _ => .ok (before, r)
    | _ => do
      let (item, r) ← readItem fuel r
      readSequence fuel r (match before with
        | .nothing => item
        | _ => .andThen before item)

/-- One item with its repetition. -/
def readItem : Nat → PatternReader → Except PatternError (Regex × PatternReader)
  | 0, _ => .error .tooDeep
  | fuel + 1, r =>
    match r.rest with
    | [] => .error .nothingToRepeat
    | c :: cs =>
      if (readRepeat? r.rest).isSome then .error .nothingToRepeat
      else match c with
      | '.' => readSuffix .anyChar ⟨cs, r.groups⟩
      | '^' => readSuffix .start ⟨cs, r.groups⟩
      | '$' => readSuffix .stop ⟨cs, r.groups⟩
      | '[' => do
        let (wanted, cs) := match cs with
          | '^' :: cs' => (false, cs')
          | _ => (true, cs)
        let (items, rest) ← readClass (cs.length + 1) true cs []
        readSuffix (.oneOf items wanted) ⟨rest, r.groups⟩
      | '(' => do
        match cs with
        | '?' :: ':' :: cs' =>
          let (body, r) ← readEither fuel ⟨cs', r.groups⟩
          match r.rest with
          | ')' :: rest => readSuffix body ⟨rest, r.groups⟩
          | _ => .error .unclosedGroup
        | _ =>
          let index := r.groups + 1
          let (body, r) ← readEither fuel ⟨cs, index⟩
          match r.rest with
          | ')' :: rest => readSuffix (.group index body) ⟨rest, r.groups⟩
          | _ => .error .unclosedGroup
      | '\\' =>
        match cs with
        | [] => .error .badEscape
        | e :: cs' =>
          match escapeClass? e with
          | some item => readSuffix (.oneOf [item] true) ⟨cs', r.groups⟩
          | none =>
            match e with
            | 'b' => readSuffix (.wordEdge true) ⟨cs', r.groups⟩
            | 'B' => readSuffix (.wordEdge false) ⟨cs', r.groups⟩
            | _ =>
              match escapeChar? e with
              | some d => readSuffix (.char d) ⟨cs', r.groups⟩
              | none => .error .badEscape
      | _ => readSuffix (.char c) ⟨cs, r.groups⟩

end

namespace Pattern

/-- Reads a pattern. -/
def parse (source : String) : Except PatternError Pattern :=
  let cs := source.toList
  match readEither (4 * cs.length + 4) ⟨cs, 0⟩ with
  | .error e => .error e
  | .ok (regex, r) => if r.rest.isEmpty then .ok ⟨source, regex, r.groups⟩ else .error .unopenedGroup

end Pattern

end HtmlTemplate.Text
