import Intake.Regex.Parser
import Intake.Regex.Pattern
import Intake.Unicode.Script

/-!
# The meaning of syntax trees

Applies the flags in force to a tree.  Flags switched inside a group last up to
its end, across its branches; a group restores those before it.  A tree may
still have no meaning: a property nobody knows, or characters beyond ASCII
where the pattern is about bytes.
-/

namespace Intake.Regex

open Unicode

/-- The flags in force. -/
structure Mode where
  caseInsensitive : Bool := false
  multiLine : Bool := false
  dotAll : Bool := false
  unicode : Bool := true
  crlf : Bool := false
  deriving Repr, DecidableEq, Inhabited

def Mode.change (mode : Mode) (changes : FlagChanges) : Mode :=
  { caseInsensitive := (changes.value? .caseInsensitive).getD mode.caseInsensitive
    multiLine := (changes.value? .multiLine).getD mode.multiLine
    dotAll := (changes.value? .dotAll).getD mode.dotAll
    unicode := (changes.value? .unicode).getD mode.unicode
    crlf := (changes.value? .crlf).getD mode.crlf }

/-- A loosely spelled name without blanks, underscores, hyphens and a leading
"is", in lower case.  The letters "isc" name other characters, as "c" does. -/
def looseName (name : String) : String :=
  let cs := name.toList
  let starts := match cs with
    | a :: b :: _ => a.toLower = 'i' && b.toLower = 's'
    | _ => false
  let cs := if starts then cs.drop 2 else cs
  let kept := cs.filter fun c => c ≠ ' ' && c ≠ '_' && c ≠ '-' && c.val < 128
  let lowered := kept.map Char.toLower
  if starts && lowered = ['c'] then "isc" else String.ofList lowered

/-- The general category with a loose name. -/
def category? (name : String) : Option CharSet :=
  (GeneralCategory.byName.find? fun entry => entry.1.contains name).map (·.2)

def property? (name : String) : Option CharSet :=
  (Property.byName.find? fun entry => entry.1.contains name).map (·.2)

/-- The characters that a query by property names. -/
def PropertyQuery.set? : PropertyQuery → Option CharSet
  | .named name =>
      let name := looseName name
      property? name <|> category? name <|> Script.byName name
  | .valued property value =>
      let value := looseName value
      match looseName property with
      | "gc" | "generalcategory" => category? value
      | "sc" | "script" => Script.byName value
      | "scx" | "scriptextensions" => Script.extensionByName value
      | _ => none

def asciiDigits : CharSet := .ranges [(0x30, 0x39)]

def asciiSpaces : CharSet := .ranges [(0x09, 0x0D), (0x20, 0x20)]

/-- ASCII letters, digits and the underscore. -/
def asciiWords : CharSet :=
  .ranges [(0x30, 0x39), (0x41, 0x5A), (0x5F, 0x5F), (0x61, 0x7A)]

/-- The members of a class with a letter of its own. -/
def ShortClass.set (cls : ShortClass) (unicode : Bool) : CharSet :=
  match cls, unicode with
  | .digit, true => .ranges GeneralCategory.decimalNumber
  | .space, true => .ranges Property.whiteSpace
  | .word, true => Property.word
  | .digit, false => asciiDigits
  | .space, false => asciiSpaces
  | .word, false => asciiWords

/-- The members of a class between colons. -/
def NamedClass.set : NamedClass → CharSet
  | .alnum => .ranges [(0x30, 0x39), (0x41, 0x5A), (0x61, 0x7A)]
  | .alpha => .ranges [(0x41, 0x5A), (0x61, 0x7A)]
  | .ascii => .ranges [(0x00, 0x7F)]
  | .blank => .ranges [(0x09, 0x09), (0x20, 0x20)]
  | .cntrl => .ranges [(0x00, 0x1F), (0x7F, 0x7F)]
  | .digit => asciiDigits
  | .graph => .ranges [(0x21, 0x7E)]
  | .lower => .ranges [(0x61, 0x7A)]
  | .print => .ranges [(0x20, 0x7E)]
  | .punct => .ranges [(0x21, 0x2F), (0x3A, 0x40), (0x5B, 0x60), (0x7B, 0x7E)]
  | .space => asciiSpaces
  | .upper => .ranges [(0x41, 0x5A)]
  | .word => asciiWords
  | .xdigit => .ranges [(0x30, 0x39), (0x41, 0x46), (0x61, 0x66)]

/-- The set closed under case, if case does not count. -/
def Mode.fold (mode : Mode) (set : CharSet) : CharSet :=
  if mode.caseInsensitive then
    if mode.unicode then .folded set else .asciiFolded set
  else set

/-- The complement of a set, if asked for. -/
def negate (negated : Bool) (set : CharSet) : CharSet :=
  if negated then .compl set else set

/-- The code that a literal stands for within a class.  A class of bytes has no
characters beyond ASCII, but bytes given by their number. -/
def Literal.code? (literal : Literal) (mode : Mode) : Option Nat :=
  if mode.unicode || literal.asByte || literal.char.val < 128 then some literal.char.toNat
  else none

mutual

/-- The members of what stands between brackets. -/
def ClassTree.set? (mode : Mode) : ClassTree → Option CharSet
  | .literal l => (l.code? mode).map .single
  | .range low high => do
      let low ← low.code? mode
      let high ← high.code? mode
      some (.ranges [(low, high)])
  | .short cls negated => some (negate negated (cls.set mode.unicode))
  | .named cls negated => some (negate negated (mode.fold cls.set))
  | .property query negated =>
      if mode.unicode then query.set?.map fun set => negate negated (mode.fold set) else none
  | .bracketed negated inner =>
      (inner.set? mode).map fun set => negate negated (mode.fold set)
  | .union items => (unionSet? mode items).map CharSet.unions
  | .combine op left right => do
      let left ← left.set? mode
      let right ← right.set? mode
      let left := mode.fold left
      let right := mode.fold right
      some <| match op with
        | .inter => .inter left right
        | .diff => .diff left right
        | .symmDiff => .symmDiff left right

def unionSet? (mode : Mode) : List ClassTree → Option (List CharSet)
  | [] => some []
  | item :: rest => do
      let set ← item.set? mode
      let sets ← unionSet? mode rest
      some (set :: sets)

end

/-- One member of a set: a character, or a byte where the pattern is about
bytes. -/
def Mode.oneOf (mode : Mode) (set : CharSet) : Pattern :=
  if mode.unicode then .char set else .byte set

def Literal.pattern (literal : Literal) (mode : Mode) : Pattern :=
  let code := literal.char.toNat
  if !mode.unicode && literal.asByte && 128 ≤ code then .byte (.single code)
  else if !mode.caseInsensitive then .char (.single code)
  else
    let variants := if mode.unicode then caseVariants code else CharSet.asciiVariants code
    .char (.ranges (variants.map fun code => (code, code)))

def Mode.dot (mode : Mode) : Pattern :=
  mode.oneOf <|
    if mode.dotAll then .compl .empty
    else if mode.crlf then .compl (.ranges [(0x0A, 0x0A), (0x0D, 0x0D)])
    else .compl (.single 0x0A)

def Anchor.look (anchor : Anchor) (mode : Mode) : Look :=
  match anchor with
  | .lineStart => if mode.multiLine then .lineStart mode.crlf else .textStart
  | .lineEnd => if mode.multiLine then .lineEnd mode.crlf else .textEnd
  | .textStart => .textStart
  | .textEnd => .textEnd
  | .wordBoundary => .word .boundary mode.unicode
  | .notWordBoundary => .word .notBoundary mode.unicode
  | .wordStart => .word .start mode.unicode
  | .wordEnd => .word .stop mode.unicode
  | .wordStartHalf => .word .startHalf mode.unicode
  | .wordEndHalf => .word .stopHalf mode.unicode

mutual

/-- The pattern of a tree, and the flags in force behind it. -/
def Tree.meaning? (mode : Mode) : Tree → Option (Pattern × Mode)
  | .empty => some (.empty, mode)
  | .flags changes => some (.empty, mode.change changes)
  | .literal l => some (l.pattern mode, mode)
  | .dot => some (mode.dot, mode)
  | .anchor anchor => some (.look (anchor.look mode), mode)
  | .short cls negated =>
      some (mode.oneOf (negate negated (cls.set mode.unicode)), mode)
  | .property query negated =>
      if mode.unicode then
        query.set?.map fun set => (.char (negate negated (mode.fold set)), mode)
      else none
  | .bracketed negated inner =>
      (inner.set? mode).map fun set => (mode.oneOf (negate negated (mode.fold set)), mode)
  | .repeat inner least most => do
      let (inner, mode) ← inner.meaning? mode
      some (.repeat inner least most, mode)
  | .group changes inner => do
      let (inner, _) ← inner.meaning? (mode.change changes)
      some (inner, mode)
  | .concat items => do
      let (patterns, mode) ← meanings? mode items
      some (Pattern.sequence patterns, mode)
  | .alternate branches => do
      let (patterns, mode) ← meanings? mode branches
      some (Pattern.choice patterns, mode)

/-- The patterns of several trees, each with the flags that the one before it
leaves in force. -/
def meanings? (mode : Mode) : List Tree → Option (List Pattern × Mode)
  | [] => some ([], mode)
  | tree :: rest => do
      let (pattern, mode) ← tree.meaning? mode
      let (patterns, mode) ← meanings? mode rest
      some (pattern :: patterns, mode)

end

end Intake.Regex
