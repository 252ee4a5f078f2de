import Intake.Text.Quoted

/-!
# Socket addresses

A numeric internet address with a port number.  Addresses of four bytes are written
with points and without leading zeros; addresses of eight groups stand between
brackets, may leave out one run of zeros and may end in four bytes with points.
-/

namespace Intake

/-- An address to listen on. -/
inductive SocketAddress where
  | v4 (bytes : List Nat) (portNumber : Nat)
  | v6 (groups : List Nat) (scope portNumber : Nat)
  deriving Repr, DecidableEq, Inhabited

namespace SocketAddress

/-- The value of a digit in a base. -/
def digit? (base : Nat) (c : Char) : Option Nat :=
  let value :=
    if '0' ≤ c && c ≤ '9' then some (c.toNat - '0'.toNat)
    else if 'a' ≤ c && c ≤ 'f' then some (c.toNat - 'a'.toNat + 10)
    else if 'A' ≤ c && c ≤ 'F' then some (c.toNat - 'A'.toNat + 10)
    else none
  value.filter (· < base)

/-- A number below `limit`, of at most `most` digits if there is such a bound. -/
def number? (base limit : Nat) (most : Option Nat) (cs : List Char) :
    Option (Nat × List Char) :=
  let digits := cs.takeWhile fun c => (digit? base c).isSome
  let value := digits.foldl (fun value c => value * base + (digit? base c).getD 0) 0
  if digits.isEmpty || value ≥ limit then none
  else if (most.map fun most => decide (digits.length > most)).getD false then none
  else some (value, cs.drop digits.length)

def char? (c : Char) : List Char → Option (List Char)
  | [] => none
  | first :: rest => if first = c then some rest else none

/-- One byte of an address, without leading zeros. -/
def byte? (cs : List Char) : Option (Nat × List Char) := do
  let (value, rest) ← number? 10 256 (some 3) cs
  if cs.head? = some '0' && cs.length - rest.length > 1 then none else some (value, rest)

def bytes? (cs : List Char) : Option (List Nat × List Char) := do
  let (a, cs) ← byte? cs
  let (b, cs) ← byte? (← char? '.' cs)
  let (c, cs) ← byte? (← char? '.' cs)
  let (d, cs) ← byte? (← char? '.' cs)
  some ([a, b, c, d], cs)

/-- What follows a colon, which the first of several things does without. -/
def afterColon (first : Bool) (cs : List Char) : Option (List Char) :=
  if first then some cs else char? ':' cs

/-- Up to `room` groups with colons between them, of which the last two may be
written as four bytes.  The flag tells whether they were. -/
def groups (room : Nat) (first : Bool) (cs : List Char) : List Nat × Bool × List Char :=
  match room with
  | 0 => ([], false, cs)
  | room + 1 =>
      let embedded := if room = 0 then none else (afterColon first cs).bind bytes?
      match embedded with
      | some ([a, b, c, d], rest) => ([a * 256 + b, c * 256 + d], true, rest)
      | _ =>
          match (afterColon first cs).bind (number? 16 65536 (some 4)) with
          | none => ([], false, cs)
          | some (group, rest) =>
              let (more, flag, rest) := groups room false rest
              (group :: more, flag, rest)

/-- Eight groups, possibly with a run of zeros left out. -/
def eightGroups? (cs : List Char) : Option (List Nat × List Char) := do
  let (front, embedded, cs) := groups 8 true cs
  if front.length = 8 then some (front, cs)
  else if embedded then none
  else
    let cs ← char? ':' (← char? ':' cs)
    let (back, _, cs) := groups (7 - front.length) true cs
    some (front ++ List.replicate (8 - front.length - back.length) 0 ++ back, cs)

def portNumber? (cs : List Char) : Option (Nat × List Char) := do
  number? 10 65536 none (← char? ':' cs)

/-- An address of four bytes with its port number. -/
def v4? (cs : List Char) : Option (SocketAddress × List Char) := do
  let (bytes, cs) ← bytes? cs
  let (portNumber, cs) ← portNumber? cs
  some (.v4 bytes portNumber, cs)

/-- An address of eight groups with its port number. -/
def v6? (cs : List Char) : Option (SocketAddress × List Char) := do
  let (groups, cs) ← eightGroups? (← char? '[' cs)
  let (scope, cs) ←
    match char? '%' cs with
    | none => some (0, cs)
    | some cs => number? 10 UInt32.size none cs
  let (portNumber, cs) ← portNumber? (← char? ']' cs)
  some (.v6 groups scope portNumber, cs)

/-- The address that a text stands for. -/
def read? (text : String) : Option SocketAddress :=
  match (v4? text.toList).or (v6? text.toList) with
  | some (address, []) => some address
  | _ => none

def bytesText (bytes : List Nat) : String := ".".intercalate (bytes.map toString)

def groupsText (groups : List Nat) : String :=
  ":".intercalate (groups.map fun group => String.ofList (Text.hexadecimal group))

/-- The first of the longest runs of zeros: where it starts and how long it is. -/
def longestZeros (groups : List Nat) : Nat × Nat :=
  let rec scan (position start length : Nat) (best : Nat × Nat) : List Nat → Nat × Nat
    | [] => best
    | group :: rest =>
        if group = 0 then
          let start := if length = 0 then position else start
          let best := if length + 1 > best.2 then (start, length + 1) else best
          scan (position + 1) start (length + 1) best rest
        else scan (position + 1) 0 0 best rest
  scan 0 0 0 (0, 0) groups

/-- Eight groups, with the longest run of zeros left out. -/
def eightGroupsText (groups : List Nat) : String :=
  match groups with
  | [0, 0, 0, 0, 0, 0xFFFF, high, low] =>
      "::ffff:" ++ bytesText [high / 256, high % 256, low / 256, low % 256]
  | _ =>
      let (start, length) := longestZeros groups
      if length > 1 then
        groupsText (groups.take start) ++ "::" ++ groupsText (groups.drop (start + length))
      else groupsText groups

def text : SocketAddress → String
  | v4 bytes portNumber => bytesText bytes ++ ":" ++ toString portNumber
  | v6 groups scope portNumber =>
      "[" ++ eightGroupsText groups ++ (if scope = 0 then "" else "%" ++ toString scope) ++ "]:" ++
        toString portNumber

end SocketAddress

end Intake
