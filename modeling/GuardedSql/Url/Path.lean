import GuardedSql.Text.Percent

/-! # Paths — segments and the two that mean something else

    A path is a list of segments, each written after a slash.  A segment of
    one dot stands for nothing and one of two dots takes back the segment
    before it, in any of the spellings that write a dot as `%2e`; at the end
    of a path both leave an empty segment behind.  The name of a drive is
    never taken back, and at the start of a file path it is special in two
    more ways: its bar becomes a colon, and a tab or line end sets it apart
    from what follows, which is then taken as it stands. -/

namespace GuardedSql.Url

/-- A tab or a line end, which an address may hold but does not mean. -/
def isBreak (c : Char) : Bool := c == '\t' || c == '\n' || c == '\r'

/-- The text without tabs and line ends. -/
def withoutBreaks (t : Text) : Text := t.filter fun c => !isBreak c

namespace Path

/-- The segment with every `%2e` read as a dot. -/
def plainDots : Text → Text
  | '%' :: '2' :: 'e' :: rest | '%' :: '2' :: 'E' :: rest =>
      '.' :: plainDots rest
  | c :: rest => c :: plainDots rest
  | [] => []

/-- The segment stands for the place where it is. -/
def isSingleDot (segment : Text) : Bool := plainDots segment == ['.']

/-- The segment stands for the place above. -/
def isDoubleDot (segment : Text) : Bool := plainDots segment == ['.', '.']

/-- The segment is a letter and a colon or a bar: the name of a drive. -/
def isDrive : Text → Bool
  | [letter, mark] => letter.isAlpha && (mark == ':' || mark == '|')
  | _ => false

/-- The segment is the name of a drive up to its end or to a backslash. -/
def startsDrive (segment : Text) : Bool :=
  isDrive (segment.take 2) && (segment[2]?.all (· == '\\'))

/-- Without the last segment; one that starts with a drive stays. -/
def pop (done : List Text) : List Text :=
  match done.getLast? with
  | some last => if startsDrive last then done else done.dropLast
  | none => []

/-- The segments after one more, which is encoded already; `last` says that
    no other follows, `file` that a first segment may name a drive. -/
def addSegment (file last : Bool) (done : List Text) (segment : Text) :
    List Text :=
  if isDoubleDot segment then
    if last then pop done ++ [[]] else pop done
  else if isSingleDot segment then
    if last then done ++ [[]] else done
  else if file && isDrive segment && done.isEmpty then
    [segment.take 1 ++ [':']]
  else done ++ [segment]

/-- The name of a drive and what follows it, if a tab or line end is
    between. -/
def cutDrive? (piece : Text) : Option (Text × Text) :=
  match piece.dropWhile isBreak with
  | [] => none
  | letter :: rest =>
      match rest.dropWhile isBreak with
      | ':' :: mark :: rest =>
          let after := withoutBreaks rest
          if letter.isAlpha && isBreak mark && !after.isEmpty then
            some ([letter, ':'], after)
          else none
      | _ => none

/-- The segments after one more piece of text, in which the characters of
    `set` are encoded. -/
def add (file last : Bool) (set : Char → Bool) (done : List Text)
    (piece : Text) : List Text :=
  match if file && done.isEmpty then cutDrive? piece else none with
  | some (drive, after) => [drive, Text.percentEncode set after]
  | none =>
      addSegment file last done (Text.percentEncode set (withoutBreaks piece))

/-- The segments after all of the given pieces, of which the last ends the
    path. -/
def addAll (file : Bool) (set : Char → Bool) :
    (done : List Text) → List Text → List Text
  | done, [] => done
  | done, [piece] => add file true set done piece
  | done, piece :: rest => addAll file set (add file false set done piece) rest

/-- One of the pieces names a drive where no segment comes before it. -/
def namesDrive : (done : List Text) → List Text → Bool
  | _, [] => false
  | done, piece :: rest =>
      (done.isEmpty && isDrive (withoutBreaks piece)) ||
        namesDrive (add true false inPathSet done piece) rest

/-- A slash, or under a special scheme a backslash. -/
def isSlash (special : Bool) (c : Char) : Bool :=
  c == '/' || (special && c == '\\')

/-- The pieces of a path as it is written, without its first slash. -/
def pieces (special : Bool) (t : Text) : List Text :=
  t.splitOnP (isSlash special)

/-- The segments without the empty ones at the start, which a file path does
    not keep. -/
def collapse (segments : List Text) : List Text :=
  match segments.dropWhile List.isEmpty with
  | [] => [[]]
  | rest => rest

/-- The segments as they are written. -/
def render (segments : List Text) : Text := segments.flatMap ('/' :: ·)

/-- Without an empty last segment, unless it is the only one. -/
def dropEmptyLast (segments : List Text) : List Text :=
  if segments.getLast? = some [] ∧ 1 < segments.length then segments.dropLast
  else segments

/-- The path with one more segment, given as plain text: characters that
    could separate are encoded, and a dot segment is passed over unless tabs
    or line ends hide it. -/
def push (special file : Bool) (segments : List Text) (segment : Text) :
    List Text :=
  if segment = ['.'] ∨ segment = ['.', '.'] then segments
  else
    let done := if segments = [[]] then [] else segments
    let longer := add file true (inSegmentSet special) done segment
    if file then collapse longer else longer

end Path

end GuardedSql.Url
