import Scriptorium.Line
import Scriptorium.Math.Token
import Scriptorium.Text.Lines
/-! # Putting mathematics under protection

Mathematics and environments become tokens, each kind numbered on its own. Displayed
mathematics is taken first, then inline, then environments, so an environment may
hold tokens of the other kinds. Fenced code and code spans are left as they are.
-/

namespace Scriptorium.Math

/-- How many tokens of each kind have been made. -/
structure Counters where
  display : Nat
  inline : Nat
  environment : Nat
  deriving DecidableEq, Repr

namespace Counters

/-- Before the first token. -/
def zero : Counters := ⟨0, 0, 0⟩

/-- The number of the next token of a kind. -/
def get (counters : Counters) : Kind → Nat
  | .display => counters.display
  | .inline => counters.inline
  | .environment => counters.environment

/-- The counters behind one more token of a kind. -/
def increment (counters : Counters) : Kind → Counters
  | .display => { counters with display := counters.display + 1 }
  | .inline => { counters with inline := counters.inline + 1 }
  | .environment => { counters with environment := counters.environment + 1 }

end Counters

/-- The pieces of a text with the sources among them as tokens of the given kind. -/
def encodePieces (kind : Kind) (counters : Counters) : List (Piece Text) → Text × Counters
  | [] => ([], counters)
  | .plain c :: rest =>
    let (encoded, counters) := encodePieces kind counters rest
    (c :: encoded, counters)
  | .found source :: rest =>
    let token := (Token.ofSource kind (counters.get kind) source).text
    let (encoded, counters) := encodePieces kind (counters.increment kind) rest
    (token ++ encoded, counters)

/-- A text with its sources of one kind as tokens. -/
def encodeKind (kind : Kind) (counters : Counters) (s : Text) : Text × Counters :=
  encodePieces kind counters (Scanner.pieces (source? kind) s)

/-- A text without code, its sources of all kinds as tokens. -/
def encodeText (counters : Counters) (s : Text) : Text × Counters :=
  let (s, counters) := encodeKind .display counters s
  let (s, counters) := encodeKind .inline counters s
  encodeKind .environment counters s

/-- Code between two pairs of backquotes on one line. -/
def doubleCodeSpan? : Scanner Text
  | '\x60' :: '\x60' :: rest =>
    match Text.cut? ['\x60', '\x60'] rest with
    | some (body, rest) =>
      if body.contains '\n' then none
      else some ('\x60' :: '\x60' :: body ++ ['\x60', '\x60'], rest)
    | none => none
  | _ => none

/-- Code between single backquotes on one line. -/
def singleCodeSpan? : Scanner Text
  | '\x60' :: rest =>
    match rest.dropWhile fun c => c != '\x60' && c != '\n' with
    | '\x60' :: behind =>
      some ('\x60' :: (rest.takeWhile fun c => c != '\x60' && c != '\n') ++ ['\x60'], behind)
    | _ => none
  | _ => none

/-- A code span, between pairs of backquotes or, failing that, single ones. -/
def codeSpan? : Scanner Text := fun s =>
  doubleCodeSpan? s <|> singleCodeSpan? s

/-- A stretch of text between code spans, or a code span. -/
inductive Stretch where
  | prose (text : Text)
  | code (text : Text)
  deriving DecidableEq, Repr

/-- The stretches that pieces form: the plain characters between two code spans are
one stretch. -/
def stretches : List (Piece Text) → List Stretch
  | [] => []
  | .found code :: rest => .code code :: stretches rest
  | .plain c :: rest =>
    match stretches rest with
    | .prose text :: others => .prose (c :: text) :: others
    | others => .prose [c] :: others

/-- Stretches with the sources outside of code as tokens. -/
def encodeStretches (counters : Counters) : List Stretch → Text × Counters
  | [] => ([], counters)
  | .code text :: rest =>
    let (encoded, counters) := encodeStretches counters rest
    (text ++ encoded, counters)
  | .prose text :: rest =>
    let (first, counters) := encodeText counters text
    let (encoded, counters) := encodeStretches counters rest
    (first ++ encoded, counters)

/-- Lines without fences, their sources outside of code spans as tokens. -/
def encodeProse (counters : Counters) (s : Text) : Text × Counters :=
  encodeStretches counters (stretches (Scanner.pieces codeSpan? s))

/-- A line of fenced code, fences included, or the lines between two fences. -/
inductive Segment where
  | code (line : Text)
  | prose (lines : Text)
  deriving DecidableEq, Repr

/-- Whether a line is a fence. -/
def isFenceLine (line : Text) : Bool :=
  Line.isFence line.trim

/-- The segments that lines form, the first of which lies in a fence or not. Lines
between two fences are one segment. -/
def segments (inFence : Bool) : List Text → List Segment
  | [] => []
  | line :: lines =>
    if inFence || isFenceLine line then
      .code line :: segments (inFence != isFenceLine line) lines
    else
      match segments inFence lines with
      | .prose text :: others => .prose (line ++ text) :: others
      | others => .prose line :: others

/-- Segments with the sources outside of code as tokens. -/
def encodeSegments (counters : Counters) : List Segment → Text × Counters
  | [] => ([], counters)
  | .code line :: rest =>
    let (encoded, counters) := encodeSegments counters rest
    (line ++ encoded, counters)
  | .prose text :: rest =>
    let (first, counters) := encodeProse counters text
    let (encoded, counters) := encodeSegments counters rest
    (first ++ encoded, counters)

/-- A text with its mathematics and environments as tokens. -/
def encode (s : Text) : Text :=
  (encodeSegments .zero (segments false s.terminatedLines)).1

end Scriptorium.Math
