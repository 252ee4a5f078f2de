import Intake.Regex.Syntax
import Intake.Unicode.Property

/-!
# Reading patterns

The reader walks over the characters of a pattern once.  Where the verbose
flag is on it passes over blanks and comments.  A pattern that does not follow
the grammar has no tree; why it does not is not told.
-/

namespace Intake.Regex

open Unicode

/-- What is left to read, whether blanks count, and the group names so far. -/
structure Cursor where
  rest : List Char
  verbose : Bool := false
  names : List String := []
  deriving Repr, Inhabited

def isBlank (c : Char) : Bool := Property.whiteSpace.contains c.toNat

def dropBlanks : List Char → List Char
  | [] => []
  | c :: rest =>
      if isBlank c then dropBlanks rest
      else if c = '#' then dropComment rest
      else c :: rest
where
  /-- Drops a comment up to and with its newline, and the blanks behind it. -/
  dropComment : List Char → List Char
    | [] => []
    | c :: rest => if c = '\n' then dropBlanks rest else dropComment rest

namespace Cursor

/-- Passes over what does not count. -/
def settle (cursor : Cursor) : Cursor :=
  if cursor.verbose then { cursor with rest := dropBlanks cursor.rest } else cursor

def withRest (cursor : Cursor) (rest : List Char) : Cursor := { cursor with rest }

def bump (cursor : Cursor) : Cursor := cursor.withRest (cursor.rest.drop 1)

/-- Steps over one character and what does not count behind it. -/
def bumpSettle (cursor : Cursor) : Cursor := cursor.bump.settle

def head? (cursor : Cursor) : Option Char := cursor.rest.head?

/-- The character behind the one under the cursor, when it is looked for past
blanks.  A comment sign is passed over once, but not the comment. -/
def peekPastBlanks (cursor : Cursor) : Option Char :=
  let behind := cursor.rest.drop 1
  if cursor.verbose then
    match behind.dropWhile isBlank with
    | [] => behind.head?
    | '#' :: rest =>
        match rest.dropWhile isBlank with
        | [] => behind.head?
        | c :: _ => some c
    | c :: _ => some c
  else behind.head?

end Cursor

/-- Punctuation that the grammar uses. -/
def isMeta (c : Char) : Bool :=
  "\\.+*?()|[]\x7b\x7d^$#&-~".toList.contains c

/-- Whether a backslash before a character leaves it as it is. -/
def isEscapable (c : Char) : Bool :=
  isMeta c || (c.val < 128 && !c.isAlphanum && c ≠ '<' && c ≠ '>')

/-- What is read as one piece. -/
inductive Atom where
  | literal (literal : Literal)
  | dot
  | anchor (anchor : Anchor)
  | short (cls : ShortClass) (negated : Bool)
  | property (query : PropertyQuery) (negated : Bool)
  deriving Repr, Inhabited

def Atom.tree : Atom → Tree
  | literal l => .literal l
  | dot => .dot
  | anchor a => .anchor a
  | short cls negated => .short cls negated
  | property query negated => .property query negated

def scalar? (code : Nat) : Option Char :=
  if code < 0xD800 || (0xDFFF < code && code ≤ 0x10FFFF) then some (Char.ofNat code) else none

/-- Exactly `count` hexadecimal digits, the cursor on the first. -/
def fixedHex? (count : Nat) (value : Nat) (cursor : Cursor) : Option (Nat × Cursor) :=
  match count with
  | 0 => some (value, cursor)
  | count + 1 => do
      let c ← cursor.head?
      let digit ← hexDigit? c
      fixedHex? count (value * 16 + digit) cursor.bumpSettle

/-- Hexadecimal digits up to a closing brace, the cursor before them. -/
def bracedHex? (fuel : Nat) (value : Option Nat) (cursor : Cursor) : Option (Nat × Cursor) :=
  match fuel with
  | 0 => none
  | fuel + 1 =>
      match cursor.head? with
      | none => none
      | some '\x7d' => value.map fun value => (value, cursor.bumpSettle)
      | some c => do
          let digit ← hexDigit? c
          bracedHex? fuel (some (value.getD 0 * 16 + digit)) cursor.bumpSettle

/-- A character by its code, the cursor on the letter that says how it is
written. -/
def hexLiteral? (letter : Char) (cursor : Cursor) : Option (Literal × Cursor) :=
  let cursor := cursor.bumpSettle
  match cursor.head? with
  | none => none
  | some '\x7b' => do
      let cursor := cursor.bumpSettle
      let (code, cursor) ← bracedHex? (cursor.rest.length + 1) none cursor
      let char ← scalar? code
      some ({ char }, cursor)
  | some _ => do
      let digits := if letter = 'x' then 2 else if letter = 'u' then 4 else 8
      let (code, cursor) ← fixedHex? digits 0 cursor
      let char ← scalar? code
      some ({ char, asByte := letter = 'x' }, cursor)

/-- The name of a property up to a closing brace, newest character first. -/
def propertyName? (fuel : Nat) (taken : List Char) (cursor : Cursor) :
    Option (List Char × Cursor) :=
  match fuel with
  | 0 => none
  | fuel + 1 =>
      match cursor.head? with
      | none => none
      | some '\x7d' => some (taken.reverse, cursor.bump)
      | some c => propertyName? fuel (c :: taken) cursor.bumpSettle

/-- Splits a text at the first place where a separator stands. -/
def splitAt? (separator : List Char) : List Char → Option (List Char × List Char)
  | [] => none
  | c :: rest =>
      if separator.isPrefixOf (c :: rest) then some ([], (c :: rest).drop separator.length)
      else (splitAt? separator rest).map fun (before, after) => (c :: before, after)

/-- The query that a name between braces stands for.  The second value tells
whether the query turns its sense around. -/
def queryOfName (name : List Char) : PropertyQuery × Bool :=
  match splitAt? ['!', '='] name with
  | some (property, value) => (.valued (String.ofList property) (String.ofList value), true)
  | none =>
      match splitAt? [':'] name with
      | some (property, value) => (.valued (String.ofList property) (String.ofList value), false)
      | none =>
          match splitAt? ['='] name with
          | some (property, value) =>
              (.valued (String.ofList property) (String.ofList value), false)
          | none => (.named (String.ofList name), false)

/-- A class by property, the cursor on its letter. -/
def propertyClass? (negated : Bool) (cursor : Cursor) : Option (Atom × Cursor) :=
  let cursor := cursor.bumpSettle
  match cursor.head? with
  | none => none
  | some '\x7b' => do
      let cursor := cursor.bumpSettle
      let (name, cursor) ← propertyName? (cursor.rest.length + 1) [] cursor
      let (query, turned) := queryOfName name
      some (.property query (negated != turned), cursor)
  | some '\\' => none
  | some c => some (.property (.named (String.ofList [c])) negated, cursor.bumpSettle)

/-- Letters and hyphens, newest first. -/
def boundaryName (fuel : Nat) (taken : List Char) (cursor : Cursor) : List Char × Cursor :=
  match fuel with
  | 0 => (taken.reverse, cursor)
  | fuel + 1 =>
      match cursor.head? with
      | some c =>
          if c.isAlpha || c = '-' then boundaryName fuel (c :: taken) cursor.bumpSettle
          else (taken.reverse, cursor)
      | none => (taken.reverse, cursor)

/-- A word boundary, the cursor behind its letter, where a name between braces
may narrow it down.  Braces that hold no name are left for a repetition. -/
def boundary? (cursor : Cursor) : Option (Anchor × Cursor) :=
  match cursor.head? with
  | some '\x7b' =>
      let inside := cursor.bumpSettle
      match inside.head? with
      | none => none
      | some c =>
          if c.isAlpha || c = '-' then
            let (name, inside) := boundaryName (inside.rest.length + 1) [] inside
            match inside.head? with
            | some '\x7d' =>
                match String.ofList name with
                | "start" => some (.wordStart, inside.bump)
                | "end" => some (.wordEnd, inside.bump)
                | "start-half" => some (.wordStartHalf, inside.bump)
                | "end-half" => some (.wordEndHalf, inside.bump)
                | _ => none
            | _ => none
          else some (.wordBoundary, cursor)
  | _ => some (.wordBoundary, cursor)

/-- What a backslash introduces, the cursor on the backslash. -/
def escape? (cursor : Cursor) : Option (Atom × Cursor) :=
  let cursor := cursor.bump
  match cursor.head? with
  | none => none
  | some c =>
      let behind := cursor.bump
      let plain (char : Char) : Option (Atom × Cursor) := some (.literal { char }, behind)
      match c with
      | 'x' | 'u' | 'U' => (hexLiteral? c cursor).map fun (l, cursor) => (.literal l, cursor)
      | 'p' => propertyClass? false cursor
      | 'P' => propertyClass? true cursor
      | 'd' => some (.short .digit false, behind)
      | 'D' => some (.short .digit true, behind)
      | 's' => some (.short .space false, behind)
      | 'S' => some (.short .space true, behind)
      | 'w' => some (.short .word false, behind)
      | 'W' => some (.short .word true, behind)
      | 'a' => plain '\x07'
      | 'f' => plain '\x0c'
      | 't' => plain '\t'
      | 'n' => plain '\n'
      | 'r' => plain '\r'
      | 'v' => plain '\x0b'
      | 'A' => some (.anchor .textStart, behind)
      | 'z' => some (.anchor .textEnd, behind)
      | 'b' => (boundary? behind).map fun (anchor, cursor) => (.anchor anchor, cursor)
      | 'B' => some (.anchor .notWordBoundary, behind)
      | '<' => some (.anchor .wordStart, behind)
      | '>' => some (.anchor .wordEnd, behind)
      | _ => if isEscapable c then plain c else none

/-- The next atom outside brackets, the cursor on a character that is no
operator. -/
def atom? (cursor : Cursor) : Option (Atom × Cursor) :=
  match cursor.head? with
  | none => none
  | some '\\' => escape? cursor
  | some '.' => some (.dot, cursor.bump)
  | some '^' => some (.anchor .lineStart, cursor.bump)
  | some '$' => some (.anchor .lineEnd, cursor.bump)
  | some char => some (.literal { char }, cursor.bump)

def classAtom? (cursor : Cursor) : Option (Atom × Cursor) :=
  match cursor.head? with
  | none => none
  | some '\\' => escape? cursor
  | some char => some (.literal { char }, cursor.bump)

/-- An atom as an item of a class. -/
def Atom.item? : Atom → Option ClassTree
  | literal l => some (.literal l)
  | short cls negated => some (.short cls negated)
  | property query negated => some (.property query negated)
  | dot | anchor _ => none

/-- An atom as an end of a range. -/
def Atom.end? : Atom → Option Literal
  | literal l => some l
  | _ => none

/-- An item of a class or a range of it. -/
def classItem? (cursor : Cursor) : Option (ClassTree × Cursor) := do
  let (low, cursor) ← classAtom? cursor
  let cursor := cursor.settle
  match cursor.head? with
  | none => none
  | some c =>
      if c ≠ '-' || cursor.peekPastBlanks = some ']' || cursor.peekPastBlanks = some '-' then
        let item ← low.item?
        some (item, cursor)
      else
        let cursor := cursor.bumpSettle
        let (high, cursor) ← classAtom? cursor
        let low ← low.end?
        let high ← high.end?
        if low.char ≤ high.char then some (.range low high, cursor) else none

/-- A class between colons, the cursor on its opening bracket. -/
def colonClass? (cursor : Cursor) : Option (ClassTree × Cursor) :=
  match cursor.rest with
  | '[' :: ':' :: rest =>
      let (negated, rest) := match rest with
        | '^' :: rest => (true, rest)
        | _ => (false, rest)
      let name := rest.takeWhile (· ≠ ':')
      match rest.dropWhile (· ≠ ':') with
      | ':' :: ']' :: rest =>
          (NamedClass.ofName? (String.ofList name)).map fun cls =>
            (.named cls negated, cursor.withRest rest)
      | _ => none
  | _ => none

/-- Hyphens at the head of a class stand for themselves. -/
def leadingHyphens (fuel : Nat) (items : List ClassTree) (cursor : Cursor) :
    List ClassTree × Cursor :=
  match fuel with
  | 0 => (items, cursor)
  | fuel + 1 =>
      match cursor.head? with
      | some '-' => leadingHyphens fuel (.literal { char := '-' } :: items) cursor.bumpSettle
      | _ => (items, cursor)

/-- The opening of a class, the cursor on its bracket: whether it is negated,
and the items that stand for themselves because they come first. -/
def classOpening (cursor : Cursor) : Bool × List ClassTree × Cursor :=
  let cursor := cursor.bumpSettle
  let (negated, cursor) := match cursor.head? with
    | some '^' => (true, cursor.bumpSettle)
    | _ => (false, cursor)
  let (items, cursor) := leadingHyphens (cursor.rest.length + 1) [] cursor
  match items, cursor.head? with
  | [], some ']' => (negated, [.literal { char := ']' }], cursor.bumpSettle)
  | _, _ => (negated, items, cursor)

/-- A set whose left side and operator may stand before it. -/
def closeSet (left : Option (ClassTree × SetOp)) (items : List ClassTree) : ClassTree :=
  let right := ClassTree.ofItems items.reverse
  match left with
  | none => right
  | some (left, op) => .combine op left right

/-- The rest of a class behind its opening, up to and with its closing
bracket. -/
def classRest? (fuel : Nat) (negated : Bool) (left : Option (ClassTree × SetOp))
    (items : List ClassTree) (cursor : Cursor) : Option (ClassTree × Cursor) :=
  match fuel with
  | 0 => none
  | fuel + 1 =>
      let cursor := cursor.settle
      match cursor.rest with
      | [] => none
      | '[' :: _ =>
          match colonClass? cursor with
          | some (item, cursor) => classRest? fuel negated left (item :: items) cursor
          | none => do
              let (innerNegated, innerItems, inner) := classOpening cursor
              let (item, cursor) ← classRest? fuel innerNegated none innerItems inner
              classRest? fuel negated left (item :: items) cursor
      | ']' :: rest => some (.bracketed negated (closeSet left items), cursor.withRest rest)
      | '&' :: '&' :: rest =>
          classRest? fuel negated (some (closeSet left items, .inter)) [] (cursor.withRest rest)
      | '-' :: '-' :: rest =>
          classRest? fuel negated (some (closeSet left items, .diff)) [] (cursor.withRest rest)
      | '~' :: '~' :: rest =>
          classRest? fuel negated (some (closeSet left items, .symmDiff)) [] (cursor.withRest rest)
      | _ => do
          let (item, cursor) ← classItem? cursor
          classRest? fuel negated left (item :: items) cursor

/-- A bracketed class, the cursor on its opening bracket. -/
def class? (cursor : Cursor) : Option (ClassTree × Cursor) :=
  let (negated, items, inner) := classOpening cursor
  classRest? (2 * inner.rest.length + 2) negated none items inner

def Flag.ofLetter? : Char → Option Flag
  | 'i' => some .caseInsensitive
  | 'm' => some .multiLine
  | 's' => some .dotAll
  | 'U' => some .swapGreed
  | 'u' => some .unicode
  | 'R' => some .crlf
  | 'x' => some .verbose
  | _ => none

/-- Flags up to the colon or the parenthesis that ends them, newest first.
No flag may be named twice, and a minus sign must have flags behind it. -/
def flags? (minus : Bool) (afterMinus : Bool) (taken : FlagChanges) :
    List Char → Option (FlagChanges × List Char)
  | [] => none
  | c :: rest =>
      if c = ':' || c = ')' then
        if afterMinus then none else some (taken.reverse, c :: rest)
      else if c = '-' then
        if minus then none else flags? true true taken rest
      else
        match Flag.ofLetter? c with
        | none => none
        | some flag =>
            if taken.any fun (name, _) => name == flag then none
            else flags? minus false ((flag, !minus) :: taken) rest

/-- Whether a character may stand in the name of a group. -/
def isNameChar (c : Char) (first : Bool) : Bool :=
  c = '_' || Property.alphabetic.contains c.toNat ||
    (!first && (c = '.' || c = '[' || c = ']' || Property.numeric.contains c.toNat))

/-- Whether a name of a group is well formed. -/
def isName : List Char → Bool
  | [] => false
  | c :: rest => isNameChar c true && rest.all (isNameChar · false)

/-- The name of a group up to its closing bracket. -/
def groupName? (cursor : Cursor) : Option Cursor :=
  let name := cursor.rest.takeWhile (· ≠ '>')
  match cursor.rest.dropWhile (· ≠ '>') with
  | '>' :: rest =>
      let text := String.ofList name
      if isName name && !cursor.names.contains text then
        some { cursor with rest, names := text :: cursor.names }
      else none
  | _ => none

/-- What an opening parenthesis begins. -/
inductive Opening where
  /-- Flags for the rest of the group around. -/
  | flags (changes : FlagChanges)
  /-- A group with flags of its own. -/
  | group (changes : FlagChanges)
  deriving Repr

/-- An opening parenthesis, the cursor on it. -/
def opening? (cursor : Cursor) : Option (Opening × Cursor) :=
  let cursor := cursor.bumpSettle
  match cursor.rest with
  | '?' :: '=' :: _ => none
  | '?' :: '!' :: _ => none
  | '?' :: '<' :: '=' :: _ => none
  | '?' :: '<' :: '!' :: _ => none
  | '?' :: 'P' :: '<' :: rest => (groupName? (cursor.withRest rest)).map fun c => (.group [], c)
  | '?' :: '<' :: rest => (groupName? (cursor.withRest rest)).map fun c => (.group [], c)
  | '?' :: rest => do
      let (changes, rest) ← flags? false false [] rest
      match rest with
      | ')' :: rest => if changes.isEmpty then none else some (.flags changes, cursor.withRest rest)
      | _ :: rest => some (.group changes, cursor.withRest rest)
      | [] => none
  | _ => some (.group [], cursor)

def decimal? (fuel : Nat) (taken : Option Nat) (cursor : Cursor) : Option Nat × Cursor :=
  match fuel with
  | 0 => (taken, cursor)
  | fuel + 1 =>
      match cursor.head? with
      | some c =>
          if c.isDigit then
            decimal? fuel (some (taken.getD 0 * 10 + (c.toNat - '0'.toNat))) cursor.bumpSettle
          else (taken, cursor)
      | none => (taken, cursor)

/-- A number of repetitions: it fits 32 bits. -/
def count? (cursor : Cursor) : Option (Nat × Cursor) := do
  let cursor := cursor.withRest (cursor.rest.dropWhile isBlank)
  let (value, cursor) := decimal? (cursor.rest.length + 1) none cursor
  let value ← value
  let cursor := if (cursor.head?.map isBlank).getD false then
    (cursor.withRest (cursor.rest.dropWhile isBlank)).settle else cursor
  if value < UInt32.size then some (value, cursor) else none

/-- Drops the sign that makes a repetition reluctant. -/
def dropReluctant (cursor : Cursor) : Cursor :=
  match cursor.rest with
  | '?' :: rest => cursor.withRest rest
  | _ => cursor

/-- The bounds of a counted repetition, the cursor on its brace. -/
def bounds? (cursor : Cursor) : Option (Nat × Option Nat × Cursor) := do
  let (least, cursor) ← count? cursor.bumpSettle
  let finish (least : Nat) (most : Option Nat) (cursor : Cursor) :
      Option (Nat × Option Nat × Cursor) :=
    match cursor.rest with
    | '\x7d' :: _ => some (least, most, dropReluctant cursor.bumpSettle)
    | _ => none
  match cursor.rest with
  | ',' :: _ =>
      let cursor := cursor.bumpSettle
      match cursor.rest with
      | [] => none
      | '\x7d' :: _ => finish least none cursor
      | _ => do
          let (most, cursor) ← count? cursor
          if least ≤ most then finish least (some most) cursor else none
  | _ => finish least (some least) cursor

/-- Repeats the newest item.  Nothing and flags cannot be repeated. -/
def repeatNewest? (items : List Tree) (least : Nat) (most : Option Nat) : Option (List Tree) :=
  match items with
  | [] | .empty :: _ | .flags _ :: _ => none
  | item :: rest => some (.repeat item least most :: rest)

/-- The rest of a group up to its closing parenthesis or the end, given the
branches and the items of the last branch so far, both newest first. -/
def body? (fuel : Nat) (branches items : List Tree) (cursor : Cursor) :
    Option (Tree × Cursor) :=
  match fuel with
  | 0 => none
  | fuel + 1 =>
      let cursor := cursor.settle
      let close := Tree.ofBranches (Tree.ofItems items.reverse :: branches).reverse
      match cursor.rest with
      | [] => some (close, cursor)
      | ')' :: _ => some (close, cursor)
      | '|' :: _ => body? fuel (Tree.ofItems items.reverse :: branches) [] cursor.bump
      | '(' :: _ => do
          let (opening, inside) ← opening? cursor
          match opening with
          | .flags changes =>
              let verbose := (changes.value? .verbose).getD inside.verbose
              body? fuel branches (.flags changes :: items) { inside with verbose }
          | .group changes =>
              let verbose := (changes.value? .verbose).getD inside.verbose
              let (inner, behind) ← body? fuel [] [] { inside with verbose }
              match behind.rest with
              | ')' :: rest =>
                  body? fuel branches (.group changes inner :: items)
                    { behind with rest, verbose := cursor.verbose }
              | _ => none
      | '[' :: _ => do
          let (cls, cursor) ← class? cursor
          match cls with
          | .bracketed negated inner =>
              body? fuel branches (.bracketed negated inner :: items) cursor
          | _ => none
      | '?' :: _ => do
          let items ← repeatNewest? items 0 (some 1)
          body? fuel branches items (dropReluctant cursor.bump)
      | '*' :: _ => do
          let items ← repeatNewest? items 0 none
          body? fuel branches items (dropReluctant cursor.bump)
      | '+' :: _ => do
          let items ← repeatNewest? items 1 none
          body? fuel branches items (dropReluctant cursor.bump)
      | '\x7b' :: _ => do
          let (least, most, cursor) ← bounds? cursor
          let items ← repeatNewest? items least most
          body? fuel branches items cursor
      | _ => do
          let (atom, cursor) ← atom? cursor
          body? fuel branches (atom.tree :: items) cursor

def greatestDepth : Nat := 250

/-- The tree of a pattern, if it follows the grammar and does not nest too
deep. -/
def parse? (pattern : List Char) : Option Tree := do
  let (tree, cursor) ← body? (2 * pattern.length + 2) [] [] { rest := pattern }
  if cursor.rest.isEmpty && tree.depth ≤ greatestDepth then some tree else none

end Intake.Regex
