import HtmlTemplate.Script.World

/-!
# The order of sets

A set keeps its members in a room with a power of two of places. A member goes to the place that its
number names, or to a free one that is sought from there on, and the room grows when three fifths of
it are taken. `listed` gives the members in the order of their places. Equal numbers name the same
place, whatever their types; where a member has no number that is known, the order is that of
addition.
-/

namespace HtmlTemplate.Script

open HtmlTemplate.Number

/-! ### The numbers of members -/

/-- The prime that the sizes of numbers are taken modulo. -/
def hashModulus : Nat := Nat.pow 2 61 - 1

/-- The 64 bits that stand for a number of the given size and sign; minus one gives way to minus
two. -/
def signedHash (negative : Bool) (size : Nat) : UInt64 :=
  if negative then UInt64.ofNat (Nat.pow 2 64 - (if size = 1 then 2 else size))
  else UInt64.ofNat size

/-- The number of a floating-point number, which is that of an equal whole number. -/
def floatHash? (x : Binary64) : Option UInt64 :=
  if x.isNaN then none
  else if x.isInfinite then some (signedHash x.isNegative 314159)
  else
    some (signedHash x.isNegative
      (x.significand * Nat.pow 2 (x.exponent % 61).toNat % hashModulus))

/-- The number of a complex number, which is that of its real part where it has no other. -/
def complexHash? (z : ComplexNumber) : Option UInt64 := do
  let h := (← floatHash? z.re) + 1000003 * (← floatHash? z.im)
  return if h = 18446744073709551615 then 18446744073709551614 else h

/-- Turns a word to the left. -/
def rotated (word : UInt64) (count : UInt64) : UInt64 := word <<< count ||| word >>> (64 - count)

/-- The number of a tuple, from those of its members. -/
def tupleHash (members : List UInt64) : UInt64 :=
  let start : UInt64 := 2870177450012600261
  let mixed := members.foldl (fun acc member =>
    rotated (acc + member * 14029467366897019727) 31 * 11400714785074694791) start
  let ended := mixed + (UInt64.ofNat members.length ^^^ (start ^^^ 3527539))
  if ended = 18446744073709551615 then 1546275796 else ended

/-- The number of a value, where it is known. -/
def Value.hash? : Value → Option UInt64
  | bool b => some (UInt64.ofNat b.toNat)
  | int _ n => some (signedHash (n < 0) (n.natAbs % hashModulus))
  | float _ x => floatHash? x
  | complex _ z => complexHash? z
  | tuple _ items => (hashes? items).map tupleHash
  | _ => none
where
  /-- The numbers of values, where all of them are known. -/
  hashes? : List Value → Option (List UInt64)
    | [] => some []
    | v :: vs => (hash? v).bind fun h => (hashes? vs).map (h :: ·)

/-! ### Places -/

/-- The places of a room. -/
abbrev Room := Array (Option (UInt64 × Value))

/-- A room with free places only. -/
def emptyRoom (size : Nat) : Room := (List.replicate size none).toArray

/-- How many places next to one another are tried. -/
def placesInRow : Nat := 9

/-- The first free place from a place on: a row of places is tried, then one further away that
`rest` helps to name. -/
def freePlace (room : Room) : Nat → Nat → Nat → Nat
  | 0, place, _ => place
  | tries + 1, place, rest =>
    let row := if place + placesInRow < room.size then placesInRow + 1 else 1
    match (List.range row).find? fun i => (room[place + i]?.join).isNone with
    | some i => place + i
    | none =>
      let rest := rest / 32
      freePlace room tries ((place * 5 + 1 + rest) % room.size) rest

/-- Puts a member into a room. -/
def putIntoRoom (room : Room) (member : UInt64 × Value) : Room :=
  let number := member.1.toNat
  room.setIfInBounds (freePlace room (room.size + 64) (number % room.size) number) (some member)

/-- The smallest size of a room that exceeds a number. -/
def roomSize (least : Nat) : Nat := max 8 (Nat.pow 2 (Nat.log2 least + 1))

/-- Adds a member to a room with so many others, which grows when it is too full. -/
def addToRoom (state : Room × Nat) (member : UInt64 × Value) : Room × Nat :=
  let room := putIntoRoom state.1 member
  let count := state.2 + 1
  if count * 5 < (room.size - 1) * 3 then (room, count)
  else
    let larger := emptyRoom (roomSize (if 50000 < count then count * 2 else count * 4))
    ((room.toList.filterMap id).foldl putIntoRoom larger, count)

/-- The members of a set in the order of their places. -/
def listed (items : List Value) : List Value :=
  match Value.hash?.hashes? items with
  | none => items
  | some hashes =>
    let room := ((hashes.zip items).foldl addToRoom (emptyRoom 8, 0)).1
    (room.toList.filterMap id).map (·.2)

end HtmlTemplate.Script
