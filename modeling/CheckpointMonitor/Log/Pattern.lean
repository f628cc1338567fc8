/-
CheckpointMonitor/Log/Pattern.lean

The values that a directive asks a field to have: a number or a truth value, or a
pattern for the text of the field.  Patterns are regular expressions.  None is ever
matched here, so all that is read off one is whether it is well formed (`check`),
and if not, why and where.

There are no tables of letters or of case behind the patterns; what needs one is
refused.  A pattern is written between braces, so there is no closing brace in it,
and what only a closing brace would finish is refused too.
-/
import CheckpointMonitor.Text.Alphanumeric
import CheckpointMonitor.Text.Hexadecimal

namespace CheckpointMonitor.Log

/-- Why a text is no pattern. -/
inductive PatternError where
  | groupUnclosed
  | groupUnopened
  | groupNameUnclosed
  | groupNameEmpty
  | groupNameInvalid
  | groupNameRepeated
  | lookAround
  | flagsUnfinished
  | flagUnknown
  | flagRepeated
  | negationRepeated
  | negationDangling
  | nothingToRepeat
  | countMissing
  | countUnclosed
  | setUnclosed
  | rangeReversed
  | rangeEndNotLiteral
  | notInSet
  | escapeUnfinished
  | escapeUnknown
  | backreference
  | hexDigitExpected
  | notScalar
  | propertyUnknown
  | classUnavailable
  | caseUnavailable
  | wordBoundary
  deriving DecidableEq

/-- The reason in words. -/
def PatternError.message : PatternError → String
  | groupUnclosed => "unclosed group"
  | groupUnopened => "unopened group"
  | groupNameUnclosed => "unclosed capture group name"
  | groupNameEmpty => "empty capture group name"
  | groupNameInvalid => "invalid capture group character"
  | groupNameRepeated => "duplicate capture group name"
  | lookAround => "look-around, including look-ahead and look-behind, is not supported"
  | flagsUnfinished => "expected flag but got end of regex"
  | flagUnknown => "unrecognized flag"
  | flagRepeated => "duplicate flag"
  | negationRepeated => "flag negation operator repeated"
  | negationDangling => "dangling flag negation operator"
  | nothingToRepeat => "repetition operator missing expression"
  | countMissing => "repetition quantifier expects a valid decimal"
  | countUnclosed => "unclosed counted repetition"
  | setUnclosed => "unclosed character class"
  | rangeReversed => "invalid character class range, the start must be <= the end"
  | rangeEndNotLiteral => "invalid range boundary, must be a literal"
  | notInSet => "invalid escape sequence found in character class"
  | escapeUnfinished => "incomplete escape sequence, reached end of pattern prematurely"
  | escapeUnknown => "unrecognized escape sequence"
  | backreference => "backreferences are not supported"
  | hexDigitExpected => "invalid hexadecimal digit"
  | notScalar => "hexadecimal literal is not a Unicode scalar value"
  | propertyUnknown => "Unicode property not found"
  | classUnavailable =>
    "Unicode-aware Perl class not found (make sure the unicode-perl feature is enabled)"
  | caseUnavailable =>
    "Unicode-aware case insensitivity matching is not available " ++
      "(make sure the unicode-case feature is enabled)"
  | wordBoundary =>
    "cannot build DFAs for regexes with Unicode word boundaries; switch to ASCII word " ++
      "boundaries, or heuristically enable Unicode word boundaries or use a different regex engine"

/-- What is wrong with a pattern, and where: the faulty piece, by the number of characters that
are left where it begins and where it ends. -/
structure PatternFault where
  error : PatternError
  first : Nat
  stop : Nat
  deriving DecidableEq

namespace PatternFault

/-- The pattern with the faulty piece underlined, and the reason. -/
def render (fault : PatternFault) (pattern : String) : String :=
  let before := pattern.length - fault.first
  let width := max 1 (fault.first - fault.stop)
  "regex parse error:\n    " ++ pattern ++ "\n    " ++ String.ofList (List.replicate before ' ') ++
    String.ofList (List.replicate width '^') ++ "\nerror: " ++ fault.error.message

/-- What the pattern cannot be made into, and behind it the causes. -/
def reasons (fault : PatternFault) (pattern : String) : List String :=
  match fault.error with
  | .wordBoundary => ["unsupported regex feature for DFAs: " ++ fault.error.message]
  | _ => ["error building NFA", "error parsing regex", fault.render pattern]

end PatternFault

namespace Pattern

variable {α : Type}

/-- Fails over the piece between two places, each given by what is left there. -/
def refuse (error : PatternError) (first stop : List Char) : Except PatternFault α :=
  .error ⟨error, first.length, stop.length⟩

/-! ### Escapes -/

/-- Reads so many hexadecimal digits after the value read so far. -/
def readHex (first : List Char) : Nat → Nat → List Char →
    Except PatternFault (Option Char × List Char)
  | 0, value, rest =>
    if value.isValidChar then .ok (some (Char.ofNat value), rest) else refuse .notScalar first rest
  | _ + 1, _, [] => refuse .escapeUnfinished [] []
  | n + 1, value, c :: rest =>
    match hexDigit? c with
    | some digit => readHex first n (value * 16 + digit) rest
    | none => refuse .hexDigitExpected (c :: rest) rest

/-- Reads a hexadecimal number, which has so many digits or stands in braces. -/
def readNumber (digits : Nat) (rest : List Char) : Except PatternFault (Option Char × List Char) :=
  match rest with
  | '{' :: inner =>
    match inner.dropWhile fun c => (hexDigit? c).isSome with
    | [] => refuse .escapeUnfinished rest []
    | c :: more => refuse .hexDigitExpected (c :: more) more
  | _ => readHex rest digits 0 rest

/-- The control characters that a letter stands for after a backslash. -/
def controls : List (Char × Char) :=
  [('a', '\x07'), ('f', '\x0c'), ('n', '\n'), ('r', '\r'), ('t', '\t'), ('v', '\x0b')]

/-- Reads what stands after a backslash: a character, or a place in the text. -/
def readEscape (start : List Char) : List Char → Except PatternFault (Option Char × List Char)
  | [] => refuse .escapeUnfinished start []
  | c :: rest =>
    if c.isDigit then refuse .backreference start rest
    else if c = 'x' then readNumber 2 rest
    else if c = 'u' then readNumber 4 rest
    else if c = 'U' then readNumber 8 rest
    else if c = 'p' || c = 'P' then
      match rest with
      | [] | '{' :: _ => refuse .escapeUnfinished start []
      | _ :: rest => refuse .propertyUnknown start rest
    else if "dswDSW".toList.contains c then refuse .classUnavailable start rest
    else if "bB<>".toList.contains c then refuse .wordBoundary start rest
    else if c = 'A' || c = 'z' then .ok (none, rest)
    else match controls.lookup c with
      | some control => .ok (some control, rest)
      | none =>
        if c.isAlphanum || 0x80 ≤ c.toNat then refuse .escapeUnknown start rest
        else .ok (some c, rest)

/-! ### Sets of characters -/

/-- The sets that have a name. -/
def setNames : List String :=
  ["alnum", "alpha", "ascii", "blank", "cntrl", "digit", "graph", "lower", "print", "punct",
    "space", "upper", "word", "xdigit"]

/-- Passes the named set that stands here, if one does, such as `[:alpha:]` or `[:^alpha:]`. -/
def namedSet? : List Char → Option (List Char)
  | '[' :: ':' :: rest =>
    let rest := if rest.head? = some '^' then rest.tail else rest
    match rest.dropWhile (· ≠ ':') with
    | ':' :: ']' :: after =>
      if setNames.contains (String.ofList (rest.takeWhile (· ≠ ':'))) then some after else none
    | _ => none
  | _ => none

/-- Passes what belongs to the opening bracket of a set: a caret, and hyphens, or a closing bracket
that stands for itself. -/
def openSet (start inner : List Char) : Except PatternFault (List Char) :=
  let rest := if inner.head? = some '^' then inner.tail else inner
  let body := match rest with
    | ']' :: more => more
    | _ => rest.dropWhile (· = '-')
  if body.isEmpty then refuse .setUnclosed start [] else .ok body

/-- Reads an element of a set. -/
def readElement (start : List Char) : Except PatternFault (Option Char × List Char) :=
  match start with
  | [] => .ok (none, [])
  | '\\' :: rest => readEscape start rest
  | c :: rest => .ok (some c, rest)

/-- Reads an element of a set, or a range of two that a hyphen joins. -/
def readRange (start : List Char) (unclosed : PatternFault) : Except PatternFault (List Char) := do
  let (low, rest) ← readElement start
  let single : Except PatternFault (List Char) :=
    if low.isNone then refuse .notInSet start rest else .ok rest
  match rest with
  | [] => .error unclosed
  | '-' :: ']' :: _ | '-' :: '-' :: _ => single
  | '-' :: [] => .error unclosed
  | '-' :: upper =>
    let (high, rest) ← readElement upper
    match low, high with
    | some low, some high =>
      if low ≤ high then return rest else refuse .rangeReversed start rest
    | none, _ => refuse .rangeEndNotLiteral start ('-' :: upper)
    | _, none => refuse .rangeEndNotLiteral upper rest
  | _ => single

/-- Reads what is left of the sets that are open, each given by the fault of never being closed,
the innermost first.  Every step takes something away, so the number of characters bounds them. -/
def readSets (outer : List PatternFault) (innermost : PatternFault) :
    Nat → List Char → Except PatternFault (List Char)
  | 0, _ | _, [] => .error innermost
  | fuel + 1, c :: rest =>
    match c, rest with
    | '[', _ =>
      match namedSet? (c :: rest) with
      | some after => readSets outer innermost fuel after
      | none => do
        let body ← openSet (c :: rest) rest
        readSets (innermost :: outer) ⟨.setUnclosed, rest.length + 1, body.length⟩ fuel body
    | ']', _ =>
      match outer with
      | [] => .ok rest
      | innermost :: outer => readSets outer innermost fuel rest
    | '&', '&' :: rest | '-', '-' :: rest | '~', '~' :: rest => readSets outer innermost fuel rest
    | _, _ => do
      let rest ← readRange (c :: rest) innermost
      readSets outer innermost fuel rest

/-- Reads a set after its opening bracket. -/
def readSet (start inner : List Char) : Except PatternFault (List Char) := do
  let body ← openSet start inner
  readSets [] ⟨.setUnclosed, start.length, body.length⟩ body.length body

/-! ### Groups -/

/-- A character that a group's name may begin with. -/
def beginsName (c : Char) : Bool :=
  c = '_' || (Text.isAlphanumeric c && !c.isDigit)

/-- A character that a group's name may have after the first. -/
def belongsToName (c : Char) : Bool :=
  beginsName c || c.isDigit || c = '.' || c = '[' || c = ']'

/-- Reads a group's name, up to the closing angle bracket. -/
def readName (known : List (List Char)) (start : List Char) :
    Except PatternFault (List Char × List Char) :=
  let name := match start with
    | c :: rest => if beginsName c then c :: rest.takeWhile belongsToName else []
    | [] => []
  match start.drop name.length with
  | '>' :: rest =>
    if name.isEmpty then refuse .groupNameEmpty start start
    else if known.contains name then refuse .groupNameRepeated start ('>' :: rest)
    else .ok (name, rest)
  | [] => refuse .groupNameUnclosed [] []
  | c :: rest => refuse .groupNameInvalid (c :: rest) rest

/-- Reads flags up to the colon or the bracket after them. -/
def readFlags (seen : List Char) : List Char → Except PatternFault (List Char)
  | [] => refuse .flagsUnfinished [] []
  | c :: rest =>
    if c = ':' || c = ')' then
      if seen.head? = some '-' then .error ⟨.negationDangling, rest.length + 2, rest.length + 1⟩
      else .ok (c :: rest)
    else if !"-imsURux".toList.contains c then refuse .flagUnknown (c :: rest) rest
    else if seen.contains c then
      refuse (if c = '-' then .negationRepeated else .flagRepeated) (c :: rest) rest
    else if c = 'i' && !seen.contains '-' then refuse .caseUnavailable (c :: rest) rest
    else readFlags (c :: seen) rest

/-- What stands at an opening bracket. -/
inductive Opening where
  /-- A group, which has a name or none. -/
  | group (name : Option (List Char)) (rest : List Char)
  /-- Flags for what follows. -/
  | flags (rest : List Char)

/-- Reads what belongs to the opening bracket of a group. -/
def readOpening (known : List (List Char)) (start inner : List Char) :
    Except PatternFault Opening :=
  match inner with
  | '?' :: '=' :: rest | '?' :: '!' :: rest
  | '?' :: '<' :: '=' :: rest | '?' :: '<' :: '!' :: rest => refuse .lookAround start rest
  | '?' :: 'P' :: '<' :: rest | '?' :: '<' :: rest => do
    let (name, rest) ← readName known rest
    return .group (some name) rest
  | ['?'] => refuse .groupUnclosed start inner
  | '?' :: rest => do
    match ← readFlags [] rest with
    | ')' :: after =>
      if rest.head? = some ')' then refuse .nothingToRepeat inner inner else return .flags after
    | after => return .group none after.tail
  | _ => .ok (.group none inner)

/-! ### The whole pattern -/

/-- Reads what is left of a pattern within the groups that are open, each given by what is left at
its bracket.  Every step takes something away, so the number of characters bounds them. -/
def readItems (known : List (List Char)) (groups : List (List Char)) (repeatable : Bool) :
    Nat → List Char → Except PatternFault Unit
  | 0, _ | _, [] =>
    match groups with
    | [] => .ok ()
    | start :: _ => refuse .groupUnclosed start start.tail
  | fuel + 1, c :: rest =>
    let start := c :: rest
    match c with
    | '(' => do
      match ← readOpening known start rest with
      | .group name rest => readItems (name.toList ++ known) (start :: groups) false fuel rest
      | .flags rest => readItems known groups false fuel rest
    | ')' =>
      match groups with
      | [] => refuse .groupUnopened start rest
      | _ :: groups => readItems known groups true fuel rest
    | '|' => readItems known groups false fuel rest
    | '[' => do
      let rest ← readSet start rest
      readItems known groups true fuel rest
    | '\\' => do
      let (_, rest) ← readEscape start rest
      readItems known groups true fuel rest
    | '*' | '+' | '?' =>
      if repeatable then
        readItems known groups true fuel (if rest.head? = some '?' then rest.tail else rest)
      else refuse .nothingToRepeat start start
    | '{' =>
      if repeatable then
        let after := rest.dropWhile Char.isDigit
        if after.length = rest.length && !rest.isEmpty then refuse .countMissing rest rest
        else refuse .countUnclosed start after
      else refuse .nothingToRepeat start start
    | _ => readItems known groups true fuel rest

/-- Whether a text is a pattern. -/
def check (text : String) : Except PatternFault Unit :=
  readItems [] [] false text.length text.toList

end Pattern

/-! ### Numbers -/

/-- The digits of a decimal number, with or without a point. -/
def isMantissa (digits : List Char) : Bool :=
  let fraction := (digits.dropWhile Char.isDigit).tail
  (digits.dropWhile Char.isDigit).head?.all (· = '.') && fraction.all Char.isDigit &&
    digits.any Char.isDigit

/-- The text without a sign that it begins with. -/
def unsigned : List Char → List Char
  | '+' :: rest | '-' :: rest => rest
  | all => all

/-- Whether a text is a decimal number, with or without a sign and an exponent, or a name of one. -/
def isNumber (text : String) : Bool :=
  let magnitude := (unsigned text.toList).map Char.toLower
  let exponent := unsigned (magnitude.dropWhile (· ≠ 'e')).tail
  ["inf", "infinity", "nan"].contains (String.ofList magnitude) ||
    (isMantissa (magnitude.takeWhile (· ≠ 'e')) &&
      (!magnitude.contains 'e' || (!exponent.isEmpty && exponent.all Char.isDigit)))

end CheckpointMonitor.Log
