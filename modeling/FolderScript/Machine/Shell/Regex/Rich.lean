/-
The rich notation of regular expressions: escapes for classes and places, groups
that do not count, looks ahead and behind, repetitions that take as little as they
can, and switches inside the expression.
-/
import FolderScript.Machine.Shell.Regex

namespace FolderScript.Shell

namespace Regex

namespace Rich

/-- How what follows is read. -/
structure Manner where
  ignoresCase : Bool := false
  /-- Whether lines start and end inside the text. -/
  hasLines : Bool := false
  /-- Whether a point stands for the end of a line too. -/
  pointTakesAll : Bool := false
  /-- Whether blanks and comments are left out. -/
  isSpaced : Bool := false
  /-- Whether repetitions are short unless they are marked. -/
  isShort : Bool := false
  /-- Whether only groups with a name count. -/
  countsNamed : Bool := false
  deriving DecidableEq, Repr

/-- What has been seen so far. -/
structure Seen where
  manner : Manner := {}
  groups : Nat := 0
  names : List (Text × Nat) := []
  /-- The highest number of a group that was meant. -/
  highest : Nat := 0
  /-- Whether characters stand for themselves up to a mark. -/
  isVerbatim : Bool := false
  /-- All groups and names, once they are known. -/
  known : Option (Nat × List (Text × Nat)) := none

/-- An expression with what follows it. -/
abbrev Outcome := Except String (Regex × Text × Seen)

/-- A piece of a branch: what it stands for and whether it can be repeated. -/
structure Piece where
  regex : Regex
  repeats : Bool
  rest : Text
  seen : Seen

def membersOf (fits : Char → Bool) : List Member :=
  ((List.range 256).map Char.ofNat).filter fits |>.map .single

/-- Whether a character belongs to a class that a letter names. -/
def letterFits? : Char → Option (Char → Bool)
  | 'd' => some Char.isDigit
  | 'w' => some fun char => char.isAlphanum || char == '_'
  | 's' => some (CharClass.space.holds ·)
  | 'h' => some fun char => char == ' ' || char == '\t' || char.toNat == 0xa0
  | 'v' => some fun char => (10 ≤ char.toNat && char.toNat ≤ 13) || char.toNat == 0x85
  | 'N' => some fun char => char != '\n'
  | _ => none

/-- The members of the class that a letter after a backslash names. -/
def letterMembers? (letter : Char) : Option (List Member) :=
  match letterFits? letter with
  | some fits => some (membersOf fits)
  | none =>
      match letter with
      | 'D' | 'W' | 'S' | 'H' | 'V' =>
          (letterFits? letter.toLower).map fun fits => membersOf fun char => !fits char
      | _ => none

/-- Whether a character above the first 128 belongs to a category. -/
def upperCategory (code : Nat) : String :=
  if code < 0xa0 then "Cc"
  else if code = 0xa0 then "Zs"
  else if code = 0xad then "Cf"
  else if code = 0xaa ∨ code = 0xba then "Lo"
  else if code = 0xb5 then "Ll"
  else if code ∈ [0xb2, 0xb3, 0xb9, 0xbc, 0xbd, 0xbe] then "No"
  else if code ∈ [0xa1, 0xa7, 0xb6, 0xb7, 0xbf] then "Po"
  else if code = 0xab then "Pi"
  else if code = 0xbb then "Pf"
  else if code ∈ [0xac, 0xb1, 0xd7, 0xf7] then "Sm"
  else if code ∈ [0xa2, 0xa3, 0xa4, 0xa5] then "Sc"
  else if code ∈ [0xa8, 0xaf, 0xb4, 0xb8] then "Sk"
  else if code < 0xc0 then "So"
  else if code < 0xdf then "Lu"
  else "Ll"

def category (char : Char) : String :=
  let code := char.toNat
  if char.isUpper then "Lu"
  else if char.isLower then "Ll"
  else if char.isDigit then "Nd"
  else if code < 32 ∨ code = 127 then "Cc"
  else if char = ' ' then "Zs"
  else if char = '_' then "Pc"
  else if char = '-' then "Pd"
  else if char ∈ ['(', '[', '\x7b'] then "Ps"
  else if char ∈ [')', ']', '\x7d'] then "Pe"
  else if char = '$' then "Sc"
  else if char ∈ ['+', '<', '=', '>', '|', '~'] then "Sm"
  else if char ∈ ['^', '\x60'] then "Sk"
  else if code < 128 then "Po"
  else upperCategory code

def propertyFits? (name : String) : Option (Char → Bool) :=
  if ["L", "N", "P", "S", "Z", "C"].contains name then
    some fun char => (category char).toList.take 1 == name.toList
  else if ["Lu", "Ll", "Lo", "Lt", "Lm", "Nd", "Nl", "No", "Pc", "Pd", "Ps", "Pe", "Pi", "Pf", "Po",
      "Sm", "Sc", "Sk", "So", "Zs", "Zl", "Zp", "Cc", "Cf", "Cn", "Co", "Cs"].contains name then
    some fun char => category char == name
  else
    match name with
    | "Any" => some fun _ => true
    | "L&" => some fun char => ["Lu", "Ll", "Lt"].contains (category char)
    | "Xan" => some fun char => ((category char).toList.take 1) ∈ [['L'], ['N']]
    | "Xwd" => some fun char => ((category char).toList.take 1) ∈ [['L'], ['N']] || char == '_'
    | "Xsp" | "Xps" => some (CharClass.space.holds ·)
    | _ => none

/-- The members that a property gives, and what follows its name. -/
def property (negated : Bool) (text : Text) : Except String (List Member × Text) :=
  let found (negated : Bool) (name : String) (rest : Text) : Except String (List Member × Text) :=
    match propertyFits? name with
    | some fits => .ok (membersOf fun char => fits char != negated, rest)
    | none => .error "unknown property after \\P or \\p"
  match text with
  | '\x7b' :: rest =>
      let (turned, rest) := match rest with
        | '^' :: rest => (true, rest)
        | _ => (false, rest)
      let name := rest.takeWhile (· ≠ '\x7d')
      match rest.drop name.length with
      | [] => .error "malformed \\P or \\p sequence"
      | _ :: rest => found (negated != turned) (String.ofList name) rest
  | char :: rest =>
      if char.isAlpha then found negated (String.singleton char) rest
      else .error "malformed \\P or \\p sequence"
  | [] => .error "malformed \\P or \\p sequence"

def inBase (base : Nat) (digits : Text) : Nat :=
  digits.foldl
    (fun number char =>
      let low := char.toLower
      number * base + (if low.isDigit then low.toNat - 48 else low.toNat - 87))
    0

/-- Whether a character is a digit to the base 8. -/
def isOctal (char : Char) : Bool := '0' ≤ char && char ≤ '7'

/-- A character by its number between braces, of which the opening one was read. -/
def braced (base : Nat) (isDigit : Char → Bool) (fault : String) (text : Text) :
    Except String (Char × Text) :=
  let digits := text.takeWhile isDigit
  match digits, text.drop digits.length with
  | [], rest =>
      .error (match rest with
        | [] | '\x7d' :: _ => "digits missing in \\x\x7b\x7d or \\o\x7b\x7d or \\N\x7bU+\x7d"
        | _ => fault)
  | _, '\x7d' :: rest =>
      if 255 < inBase base digits then .error "character code point value in \\x\x7b\x7d or \\o\x7b\x7d is too large"
      else .ok (Char.ofNat (inBase base digits), rest)
  | _, _ => .error fault

/-- The single character that an escape stands for, if it does. -/
def character? (text : Text) : Except String (Option (Char × Text)) :=
  match text with
  | 'a' :: rest => .ok (some ('\x07', rest))
  | 'e' :: rest => .ok (some ('\x1b', rest))
  | 'f' :: rest => .ok (some ('\x0c', rest))
  | 'n' :: rest => .ok (some ('\n', rest))
  | 'r' :: rest => .ok (some ('\r', rest))
  | 't' :: rest => .ok (some ('\t', rest))
  | ['c'] => .error "\\c at end of pattern"
  | 'c' :: char :: rest =>
      if char.toNat < 32 ∨ 126 < char.toNat then
        .error "\\c must be followed by a printable ASCII character"
      else .ok (some (Char.ofNat (Nat.xor char.toUpper.toNat 64), rest))
  | 'x' :: '\x7b' :: rest => do
      pure (some (← braced 16 (CharClass.xdigit.holds ·)
        "non-hex character in \\x\x7b\x7d (closing brace missing?)" rest))
  | 'x' :: rest =>
      let digits := (rest.take 2).takeWhile (CharClass.xdigit.holds ·)
      .ok (some (Char.ofNat (inBase 16 digits), rest.drop digits.length))
  | 'o' :: '\x7b' :: rest => do
      pure (some (← braced 8 isOctal
        "non-octal character in \\o\x7b\x7d (closing brace missing?)" rest))
  | 'o' :: _ => .error "missing opening brace after \\o"
  | '0' :: rest =>
      let digits := (rest.take 2).takeWhile isOctal
      .ok (some (Char.ofNat (inBase 8 digits), rest.drop digits.length))
  | 'F' :: _ | 'L' :: _ | 'l' :: _ | 'U' :: _ | 'u' :: _ =>
      .error "PCRE2 does not support \\F, \\L, \\l, \\N\x7bname\x7d, \\U, or \\u"
  | _ => .ok none

def withBothCases (members : List Member) : List Member :=
  let plain : Bracket := ⟨false, members⟩
  members ++ membersOf fun char =>
    char.isAlpha && !plain.holds char && (plain.holds char.toLower || plain.holds char.toUpper)

/-- What an item of a bracket stands for. -/
inductive Item where
  | char (char : Char)
  | kind (members : List Member)
  /-- Nothing; the flag tells whether what follows is verbatim. -/
  | mark (isVerbatim : Bool)

/-- The class between colons, of which the opening was read. -/
def posix? (text : Text) : Except String (Option (List Member × Text)) :=
  let (turned, inner) := match text with
    | '^' :: inner => (true, inner)
    | _ => (false, text)
  let name := inner.takeWhile Char.isAlpha
  match inner.drop name.length with
  | ':' :: ']' :: rest =>
      let fits? : Option (Char → Bool) := match String.ofList name with
        | "word" => letterFits? 'w'
        | "ascii" => some fun char => char.toNat < 128
        | known => (CharClass.ofName? known).map fun kind char => kind.holds char
      match fits? with
      | some fits => .ok (some (membersOf fun char => fits char != turned, rest))
      | none => .error "unknown POSIX class name"
  | _ => .ok none

def item (isVerbatim : Bool) (text : Text) : Except String (Item × Text) :=
  match isVerbatim, text with
  | _, [] => .error "missing terminating ] for character class"
  | true, '\\' :: 'E' :: rest => .ok (.mark false, rest)
  | true, char :: rest => .ok (.char char, rest)
  | false, '[' :: ':' :: rest => do
      match ← posix? rest with
      | some (members, rest) => pure (.kind members, rest)
      | none => pure (.char '[', ':' :: rest)
  | false, ['\\'] => .error "\\ at end of pattern"
  | false, '\\' :: 'Q' :: rest => .ok (.mark true, rest)
  | false, '\\' :: 'E' :: rest => .ok (.mark false, rest)
  | false, '\\' :: 'b' :: rest => .ok (.char '\x08', rest)
  | false, '\\' :: 'p' :: rest => do
      let (members, rest) ← property false rest
      pure (.kind members, rest)
  | false, '\\' :: 'P' :: rest => do
      let (members, rest) ← property true rest
      pure (.kind members, rest)
  | false, '\\' :: sign :: rest => do
      match ← character? (sign :: rest) with
      | some (char, rest) => pure (.char char, rest)
      | none =>
          if sign ∈ ['B', 'R', 'X', 'N'] then
            throw "escape sequence is invalid in character class"
          match letterMembers? sign with
          | some members => pure (.kind members, rest)
          | none =>
              if isOctal sign then
                let digits := (sign :: rest.take 2).takeWhile isOctal
                pure (.char (Char.ofNat (inBase 8 digits % 256)),
                  (sign :: rest).drop digits.length)
              else if sign.isAlpha then throw "unrecognized character follows \\"
              else pure (.char sign, rest)
  | false, char :: rest => .ok (.char char, rest)

/-- The members up to the closing bracket. -/
def members : Nat → Bool → Bool → Text → Except String (List Member × Text)
  | 0, _, _, _ => .error "missing terminating ] for character class"
  | fuel + 1, atStart, isVerbatim, text => do
      let isEnd := match text with
        | ']' :: _ => !isVerbatim && !atStart
        | _ => false
      if isEnd then pure ([], text.drop 1)
      else
        let (first, rest) ← item isVerbatim text
        match first, rest with
        | .mark isVerbatim, _ => members fuel false isVerbatim rest
        | .char low, '-' :: after =>
            if isVerbatim || after.head? == some ']' then
              let (more, rest) ← members fuel false isVerbatim rest
              pure (.single low :: more, rest)
            else
              match ← item false after with
              | (.char high, rest) =>
                  if high < low then throw "range out of order in character class"
                  let (more, rest) ← members fuel false isVerbatim rest
                  pure (.range low high :: more, rest)
              | (.kind _, _) => throw "invalid range in character class"
              | (.mark isVerbatim, _) =>
                  let (more, rest) ← members fuel false isVerbatim rest
                  pure (.single low :: more, rest)
        | .char low, _ =>
            let (more, rest) ← members fuel false isVerbatim rest
            pure (.single low :: more, rest)
        | .kind known, '-' :: next :: _ =>
            if next ≠ ']' then throw "invalid range in character class"
            let (more, rest) ← members fuel false isVerbatim rest
            pure (known ++ more, rest)
        | .kind known, _ =>
            let (more, rest) ← members fuel false isVerbatim rest
            pure (known ++ more, rest)

/-- The bracket whose opening has been read. -/
def bracket (manner : Manner) (text : Text) : Except String (Regex × Text) := do
  let (negated, inside) := match text with
    | '^' :: inside => (true, inside)
    | _ => (false, text)
  let (known, rest) ← members (inside.length + 1) true false inside
  pure (.oneOf ⟨negated, if manner.ignoresCase then withBothCases known else known⟩, rest)

/-- A character that stands for itself. -/
def letterOf (manner : Manner) (char : Char) : Regex :=
  if manner.ignoresCase && char.isAlpha then
    .oneOf ⟨false, [.single char.toLower, .single char.toUpper]⟩
  else .letter char

/-- Any character at all. -/
def anything : Regex := .any

def textStart : Regex := .look false false anything

def textEnd : Regex := .look true false anything

def lastEnd : Regex :=
  .look true true (.sequence (.repeated (.letter '\n') 0 (some 1)) textEnd)

def startOf (manner : Manner) : Regex :=
  if manner.hasLines then .look false false (.oneOf ⟨true, [.single '\n']⟩) else textStart

def endOf (manner : Manner) (endsOnly : Bool) : Regex :=
  if manner.hasLines then .look true false (.oneOf ⟨true, [.single '\n']⟩)
  else if endsOnly then textEnd
  else lastEnd

/-- Where a line ends, whatever its end is made of. -/
def lineBreak : Regex :=
  .atomic (.choice (.sequence (.letter '\r') (.letter '\n'))
    (.oneOf ⟨false, [.range '\n' '\r', .single '\u0085']⟩))

/-- The name of a group up to a mark. -/
def nameUpTo (closing : Char) (text : Text) : Except String (Text × Text) :=
  let name := text.takeWhile fun char => char.isAlphanum || char == '_'
  match name with
  | [] => .error "subpattern name expected"
  | first :: _ =>
      if first.isDigit then .error "subpattern name must start with a non-digit"
      else if 32 < name.length then
        .error "subpattern name is too long (maximum 32 code units)"
      else if (text.drop name.length).head? = some closing then
        .ok (name, text.drop (name.length + 1))
      else .error "syntax error in subpattern name (missing terminator?)"

def numberOf (seen : Seen) (name : Text) : Except String Nat :=
  match seen.known with
  | none => .ok 0
  | some (_, names) =>
      match List.lookup name names with
      | some number => .ok number
      | none => .error "reference to non-existent subpattern"

/-- The group with a number, once more. -/
def backTo (number : Nat) (rest : Text) (seen : Seen) : Except String Piece :=
  .ok ⟨.again number, true, rest, { seen with highest := Nat.max seen.highest number }⟩

/-- The group with a name, once more. -/
def backToNamed (closing : Char) (text : Text) (seen : Seen) : Except String Piece := do
  let (name, rest) ← nameUpTo closing text
  backTo (← numberOf seen name) rest seen

/-- A number that may count back from the last group. -/
def relative? (seen : Seen) (text : Text) : Option (Nat × Text) :=
  let (sign, inner) : Option Char × Text := match text with
    | '-' :: inner => (some '-', inner)
    | '+' :: inner => (some '+', inner)
    | _ => (none, text)
  let digits := inner.takeWhile Char.isDigit
  match Text.toNat? digits, sign with
  | none, _ => none
  | some number, none => some (number, inner.drop digits.length)
  | some number, some '+' => some (seen.groups + number, inner.drop digits.length)
  | some number, some _ =>
      some (if seen.groups < number then longestInterval else seen.groups + 1 - number,
        inner.drop digits.length)

/-- What refers to a group after the letter for that. -/
def afterG (text : Text) (seen : Seen) : Except String Piece :=
  let fault := "\\g is not followed by a braced, angle-bracketed, or quoted name/number or by a plain number"
  let called (closing : Char) (inner : Text) : Except String Piece :=
    match relative? seen inner with
    | some (number, found :: rest) =>
        if found = closing then
          .ok ⟨.call number, true, rest, { seen with highest := Nat.max seen.highest number }⟩
        else .error fault
    | some (_, []) => .error fault
    | none => do
        let (name, rest) ← nameUpTo closing inner
        let number ← numberOf seen name
        pure ⟨.call number, true, rest, { seen with highest := Nat.max seen.highest number }⟩
  match text with
  | '\x7b' :: inner =>
      match relative? seen inner with
      | some (number, '\x7d' :: rest) => backTo number rest seen
      | some _ => .error fault
      | none => backToNamed '\x7d' inner seen
  | '<' :: inner => called '>' inner
  | '\'' :: inner => called '\'' inner
  | _ =>
      match relative? seen text with
      | some (number, rest) => backTo number rest seen
      | none => .error fault

def escape (text : Text) (seen : Seen) : Except String Piece := do
  let place (regex : Regex) (rest : Text) : Except String Piece := pure ⟨regex, false, rest, seen⟩
  let kind (known : List Member) (rest : Text) : Except String Piece :=
    pure ⟨.oneOf ⟨false, known⟩, true, rest, seen⟩
  match text with
  | [] => throw "\\ at end of pattern"
  | 'b' :: rest => place (.wordEdge true true) rest
  | 'B' :: rest => place .notEdge rest
  | 'A' :: rest => place textStart rest
  | 'G' :: rest => place textStart rest
  | 'Z' :: rest => place lastEnd rest
  | 'z' :: rest => place textEnd rest
  | 'K' :: rest => place .restart rest
  | 'R' :: rest => pure ⟨lineBreak, true, rest, seen⟩
  | 'X' :: rest => pure ⟨.choice lineBreak .any, true, rest, seen⟩
  | 'C' :: rest => pure ⟨.any, true, rest, seen⟩
  | 'N' :: '\x7b' :: 'U' :: '+' :: _ =>
      throw "\\N\x7bU+dddd\x7d is supported only in Unicode (UTF) mode"
  | 'p' :: rest => do
      let (known, rest) ← property false rest
      kind known rest
  | 'P' :: rest => do
      let (known, rest) ← property true rest
      kind known rest
  | 'g' :: rest => afterG rest seen
  | 'k' :: '\x7b' :: rest => backToNamed '\x7d' rest seen
  | 'k' :: '<' :: rest => backToNamed '>' rest seen
  | 'k' :: '\'' :: rest => backToNamed '\'' rest seen
  | 'k' :: _ => throw "\\k is not followed by a braced, angle-bracketed, or quoted name"
  | sign :: rest =>
      match ← character? text with
      | some (char, rest) => pure ⟨letterOf seen.manner char, true, rest, seen⟩
      | none =>
          match letterMembers? sign with
          | some known => kind known rest
          | none =>
              if sign.isDigit then
                let digits := text.takeWhile Char.isDigit
                let number := inBase 10 digits
                let total := match seen.known with
                  | some (total, _) => total
                  | none => longestInterval
                if number < 10 ∨ number ≤ total then backTo number (text.drop digits.length) seen
                else if isOctal sign then
                  let digits := (text.take 3).takeWhile isOctal
                  pure ⟨letterOf seen.manner (Char.ofNat (inBase 8 digits % 256)), true,
                    text.drop digits.length, seen⟩
                else pure ⟨.letter sign, true, rest, seen⟩
              else if sign.isAlpha then throw "unrecognized character follows \\"
              else pure ⟨.letter sign, true, rest, seen⟩

/-- The bounds of a repetition, if one comes next. -/
def bounds? (text : Text) : Except String (Option (Nat × Option Nat × Text)) :=
  match text with
  | '*' :: rest => .ok (some (0, none, rest))
  | '+' :: rest => .ok (some (1, none, rest))
  | '?' :: rest => .ok (some (0, some 1, rest))
  | '\x7b' :: inner =>
      let low := inner.takeWhile Char.isDigit
      let rest := inner.drop low.length
      let found? : Option (Nat × Option Nat × Text) := match Text.toNat? low, rest with
        | some least, '\x7d' :: rest => some (least, some least, rest)
        | some least, ',' :: '\x7d' :: rest => some (least, none, rest)
        | some least, ',' :: more =>
            let high := more.takeWhile Char.isDigit
            match Text.toNat? high, more.drop high.length with
            | some most, '\x7d' :: rest => some (least, some most, rest)
            | _, _ => none
        | _, _ => none
      match found? with
      | none => .ok none
      | some (least, most, rest) =>
          if 65535 < most.getD least ∨ 65535 < least then
            .error "number too big in \x7b\x7d quantifier"
          else if most.any (· < least) then
            .error "numbers out of order in \x7b\x7d quantifier"
          else .ok (some (least, most, rest))
  | _ => .ok none

/-- A repetition with the mark after it that tells how much it takes. -/
def repetition (manner : Manner) (body : Regex) (least : Nat) (most : Option Nat) (text : Text) :
    Regex × Text :=
  match text with
  | '+' :: rest => (.atomic (.repeated body least most), rest)
  | '?' :: rest =>
      (if manner.isShort then .repeated body least most else .lazily body least most, rest)
  | _ => (if manner.isShort then .lazily body least most else .repeated body least most, text)

/-- How many characters an expression takes up, if that is always the same. -/
def width? : Regex → Option Nat
  | .letter _ | .any | .oneOf _ => some 1
  | .sequence first second =>
      match width? first, width? second with
      | some left, some right => some (left + right)
      | _, _ => none
  | .choice first second | .given _ first second =>
      match width? first, width? second with
      | some left, some right => if left = right then some left else none
      | _, _ => none
  | .repeated body least most | .lazily body least most =>
      if most = some least then (width? body).map (· * least) else none
  | .group _ body | .atomic body => width? body
  | .again _ | .call _ => none
  | .empty | .lineStart | .lineEnd | .wordEdge .. | .notEdge | .apart _ | .look .. | .restart =>
      some 0

/-- Whether every way of a choice takes up a fixed number of characters. -/
def isFixed : Regex → Bool
  | .choice first second => isFixed first && isFixed second
  | regex => (width? regex).isSome

/-- The switches up to the sign that ends them, and whether they hold for a group. -/
def switches : Bool → Manner → Text → Except String (Manner × Bool × Text)
  | _, _, [] => .error "missing closing parenthesis"
  | isOn, manner, sign :: rest =>
      match sign with
      | ')' => .ok (manner, false, rest)
      | ':' => .ok (manner, true, rest)
      | '-' => switches false manner rest
      | '^' => switches isOn {} rest
      | 'i' => switches isOn { manner with ignoresCase := isOn } rest
      | 'm' => switches isOn { manner with hasLines := isOn } rest
      | 's' => switches isOn { manner with pointTakesAll := isOn } rest
      | 'x' => switches isOn { manner with isSpaced := isOn } rest
      | 'U' => switches isOn { manner with isShort := isOn } rest
      | 'n' => switches isOn { manner with countsNamed := isOn } rest
      | 'J' | 'a' | 'u' | 'l' | 'd' => switches isOn manner rest
      | _ => .error "unrecognized character after (? or (?-"

/-- What the words in capitals after an opening and a star stand for. -/
def verb? : String → Option Regex
  | "FAIL" | "F" => some (.oneOf ⟨false, []⟩)
  | "ACCEPT" | "COMMIT" | "PRUNE" | "SKIP" | "THEN" => some .empty
  | _ => none

/-- Leaves out a comment, or a blank where these do not count. -/
def afterBlanks (manner : Manner) : Nat → Text → Text
  | 0, text => text
  | fuel + 1, text =>
      match text with
      | '(' :: '?' :: '#' :: rest =>
          match rest.dropWhile (· ≠ ')') with
          | _ :: rest => afterBlanks manner fuel rest
          | [] => text
      | '#' :: rest =>
          if manner.isSpaced then
            afterBlanks manner fuel ((rest.dropWhile (· ≠ '\n')).drop 1)
          else text
      | char :: rest =>
          if manner.isSpaced && CharClass.space.holds char then afterBlanks manner fuel rest
          else text
      | [] => []

/-- Pieces one after the other. -/
def sequenceOf : List Regex → Regex
  | [] => .empty
  | [single] => single
  | first :: rest => .sequence first (sequenceOf rest)

mutual

/-- Branches with choice signs between them; groups in them may share numbers. -/
def alternatives (endsOnly : Bool) : Nat → Bool → Seen → Text → Outcome
  | 0, _, _, _ => .error "regular expression is too complicated"
  | fuel + 1, shares, seen, text => do
      let before := seen.groups
      let (first, rest, seen) ← pieces endsOnly fuel seen none [] text
      match rest with
      | '|' :: rest =>
          let (second, rest, later) ← alternatives endsOnly fuel shares
            (if shares then { seen with groups := before } else seen) rest
          pure (.choice first second, rest,
            { later with groups := Nat.max seen.groups later.groups })
      | _ => pure (first, rest, seen)

/-- The pieces of a branch, the last of which may still be repeated. -/
def pieces (endsOnly : Bool) : Nat → Seen → Option Regex → List Regex → Text → Outcome
  | 0, _, _, _, _ => .error "regular expression is too complicated"
  | fuel + 1, seen, pending, earlier, text => do
      let ended := (sequenceOf ((pending.toList ++ earlier).reverse))
      match seen.isVerbatim, text with
      | true, '\\' :: 'E' :: rest =>
          pieces endsOnly fuel { seen with isVerbatim := false } pending earlier rest
      | true, char :: rest =>
          pieces endsOnly fuel seen (some (letterOf seen.manner char)) (pending.toList ++ earlier)
            rest
      | true, [] => pure (ended, [], seen)
      | false, _ =>
          match afterBlanks seen.manner (text.length + 1) text with
          | [] => pure (ended, [], seen)
          | '|' :: rest => pure (ended, '|' :: rest, seen)
          | ')' :: rest => pure (ended, ')' :: rest, seen)
          | '\\' :: 'Q' :: rest =>
              pieces endsOnly fuel { seen with isVerbatim := true } pending earlier rest
          | '\\' :: 'E' :: rest => pieces endsOnly fuel seen pending earlier rest
          | next :: rest =>
              match ← bounds? (next :: rest), pending with
              | some _, none => throw "quantifier does not follow a repeatable item"
              | some (least, most, rest), some body =>
                  let (whole, rest) := repetition seen.manner body least most rest
                  pieces endsOnly fuel seen none (whole :: earlier) rest
              | none, _ =>
                  let piece ← single endsOnly fuel seen next rest
                  let earlier := pending.toList ++ earlier
                  if piece.repeats then
                    pieces endsOnly fuel piece.seen (some piece.regex) earlier piece.rest
                  else pieces endsOnly fuel piece.seen none (piece.regex :: earlier) piece.rest

def single (endsOnly : Bool) : Nat → Seen → Char → Text → Except String Piece
  | 0, _, _, _ => .error "regular expression is too complicated"
  | fuel + 1, seen, next, rest => do
      match next with
      | '\\' => escape rest seen
      | '.' =>
          pure ⟨if seen.manner.pointTakesAll then .any else .oneOf ⟨true, [.single '\n']⟩, true,
            rest, seen⟩
      | '^' => pure ⟨startOf seen.manner, false, rest, seen⟩
      | '$' => pure ⟨endOf seen.manner endsOnly, false, rest, seen⟩
      | '[' => do
          let (regex, rest) ← bracket seen.manner rest
          pure ⟨regex, true, rest, seen⟩
      | '(' => opened endsOnly fuel seen rest
      | _ => pure ⟨letterOf seen.manner next, true, rest, seen⟩

/-- What a body in brackets stands for, whose opening has been read. -/
def enclosed (endsOnly : Bool) : Nat → Bool → Seen → Text → Outcome
  | 0, _, _, _ => .error "regular expression is too complicated"
  | fuel + 1, shares, seen, text => do
      match ← alternatives endsOnly fuel shares seen text with
      | (body, ')' :: rest, later) => pure (body, rest, { later with manner := seen.manner })
      | _ => throw "missing closing parenthesis"

/-- What follows an opening bracket. -/
def opened (endsOnly : Bool) : Nat → Seen → Text → Except String Piece
  | 0, _, _ => .error "regular expression is too complicated"
  | fuel + 1, seen, text => do
      let plain (turn : Regex → Regex) (rest : Text) : Except String Piece := do
        let (body, rest, seen) ← enclosed endsOnly fuel false seen rest
        pure ⟨turn body, true, rest, seen⟩
      let behind (isThere : Bool) (rest : Text) : Except String Piece := do
        let (body, rest, seen) ← enclosed endsOnly fuel false seen rest
        if !isFixed body then throw "lookbehind assertion is not fixed length"
        pure ⟨.look false isThere body, true, rest, seen⟩
      let counted (rest : Text) (name : Option Text) : Except String Piece := do
        let number := seen.groups + 1
        let names := match name with
          | some name => (name, number) :: seen.names
          | none => seen.names
        let (body, rest, seen) ← enclosed endsOnly fuel false
          { seen with groups := number, names := names } rest
        pure ⟨.group number body, true, rest, seen⟩
      let named (closing : Char) (text : Text) : Except String Piece := do
        let (name, rest) ← nameUpTo closing text
        if (List.lookup name seen.names).isSome then
          throw "two named subpatterns have the same name (PCRE2_DUPNAMES not set)"
        counted rest (some name)
      let called (number : Nat) (rest : Text) : Except String Piece :=
        pure ⟨.call number, true, rest, { seen with highest := Nat.max seen.highest number }⟩
      match text with
      | '*' :: initial :: more =>
          let rest := initial :: more
          if !(initial.isAlpha || initial == ':') then counted text none
          else
          let word := rest.takeWhile fun char => char.isAlphanum || char == '_'
          match verb? (String.ofList word), rest.drop word.length with
          | some regex, ')' :: rest => pure ⟨regex, false, rest, seen⟩
          | _, _ => throw "(*VERB) not recognized or malformed"
      | '?' :: ':' :: rest => plain id rest
      | '?' :: '#' :: _ => throw "missing ) after (?# comment"
      | '?' :: '|' :: rest => do
          let (body, rest, seen) ← enclosed endsOnly fuel true seen rest
          pure ⟨body, true, rest, seen⟩
      | '?' :: '>' :: rest => plain .atomic rest
      | '?' :: '=' :: rest => plain (.look true true) rest
      | '?' :: '!' :: rest => plain (.look true false) rest
      | '?' :: '<' :: '=' :: rest => behind true rest
      | '?' :: '<' :: '!' :: rest => behind false rest
      | '?' :: '<' :: rest => named '>' rest
      | '?' :: '\'' :: rest => named '\'' rest
      | '?' :: 'P' :: '<' :: rest => named '>' rest
      | '?' :: 'P' :: '=' :: rest => backToNamed ')' rest seen
      | '?' :: 'P' :: '>' :: rest | '?' :: '&' :: rest => do
          let (name, rest) ← nameUpTo ')' rest
          called (← numberOf seen name) rest
      | ['?', 'P'] => throw "missing closing parenthesis"
      | '?' :: 'P' :: _ => throw "unrecognized character after (?P"
      | '?' :: 'R' :: ')' :: rest => called 0 rest
      | '?' :: 'R' :: _ =>
          throw "(?R (recursive pattern call) must be followed by a closing parenthesis"
      | '?' :: 'C' :: rest => pure ⟨.empty, false, (rest.dropWhile (· ≠ ')')).drop 1, seen⟩
      | '?' :: '(' :: rest => do
          let digits := rest.takeWhile Char.isDigit
          let (number, rest) ← match Text.toNat? digits, rest.drop digits.length, rest with
            | some number, ')' :: rest, _ => pure (number, rest)
            | _, _, '<' :: rest => do
                let (name, rest) ← nameUpTo '>' rest
                pure (← numberOf seen name, rest.drop 1)
            | _, _, _ => do
                let (name, rest) ← nameUpTo ')' rest
                pure (← numberOf seen name, rest)
          let seen := { seen with highest := Nat.max seen.highest number }
          match ← enclosed endsOnly fuel false seen rest with
          | (.choice yes no, rest, seen) => pure ⟨.given number yes no, true, rest, seen⟩
          | (yes, rest, seen) => pure ⟨.given number yes .empty, true, rest, seen⟩
      | '?' :: rest =>
          match relative? seen rest with
          | some (number, ')' :: rest) => called number rest
          | some _ => throw "(?R (recursive pattern call) must be followed by a closing parenthesis"
          | none => do
              let (manner, isGroup, rest) ← switches true seen.manner rest
              if isGroup then
                let (body, rest, later) ← enclosed endsOnly fuel false
                  { seen with manner := manner } rest
                pure ⟨body, true, rest, { later with manner := seen.manner }⟩
              else pure ⟨.empty, false, rest, { seen with manner := manner }⟩
      | _ => if seen.manner.countsNamed then plain id text else counted text none

end

/-- Reads an expression once. -/
def pass (endsOnly : Bool) (seen : Seen) (text : Text) : Except String (Regex × Seen) := do
  match ← alternatives endsOnly (6 * text.length + 12) false seen text with
  | (regex, [], seen) => pure (regex, seen)
  | _ => throw "unmatched closing parenthesis"

/-- Reads an expression twice, as it may refer to groups that come later; gives the
names of its groups too.  `endsOnly` tells that a dollar does not stand before a last
line end. -/
def parse (endsOnly : Bool) (manner : Manner) (text : Text) :
    Except String (Regex × Nat × List (Text × Nat)) := do
  let (_, first) ← pass endsOnly { manner := manner } text
  let (regex, last) ← pass endsOnly
    { manner := manner, known := some (first.groups, first.names) } text
  if last.groups < last.highest then throw "reference to non-existent subpattern"
  pure (regex, last.groups, last.names.reverse)

end Rich

end Regex

end FolderScript.Shell
