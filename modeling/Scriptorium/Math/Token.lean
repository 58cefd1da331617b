import Scriptorium.Text.Hex
import Scriptorium.Text.Letter
import Scriptorium.Text.Scan
/-! # Protected mathematics

Mathematics in running text comes in three kinds: displayed between two pairs of
dollar signs, inline between single ones, and environments. This module holds the
recognisers of the three in their written form, and the tokens of letters, digits
and hyphens that stand for them while the text around is rendered.
-/

namespace Scriptorium.Math

/-- The kinds of protected source. -/
inductive Kind where
  | display
  | inline
  | environment
  deriving DecidableEq, Repr

/-- The tag of a kind inside tokens. -/
def Kind.tag : Kind → Text
  | .display => "DISPLAY".toList
  | .inline => "INLINE".toList
  | .environment => "ENV".toList

/-- A token: its kind, the digits of its number and its payload. -/
structure Token where
  kind : Kind
  number : Text
  payload : Text
  deriving DecidableEq, Repr

namespace Token

/-- A token as it is written. -/
def text (token : Token) : Text :=
  "LATEX-".toList ++ token.kind.tag ++ '-' :: token.number ++ '-' :: token.payload ++
    "-END".toList

/-- The token of a source: its payload spells the bytes of the source. -/
def ofSource (kind : Kind) (number : Nat) (source : Text) : Token :=
  ⟨kind, Text.ofNat number, Hex.encode source⟩

/-- The source that a token stands for, when its payload spells a text. -/
def source? (token : Token) : Option Text :=
  Hex.decode? token.payload

end Token

/-- The tag of a kind. -/
def kind? : Scanner Kind := fun s =>
  match Text.dropStart? "DISPLAY".toList s with
  | some rest => some (.display, rest)
  | none =>
    match Text.dropStart? "INLINE".toList s with
    | some rest => some (.inline, rest)
    | none => (Text.dropStart? "ENV".toList s).map fun rest => (.environment, rest)

/-- A token. Its payload may be empty or hold other letters than digits; then it
stands for no source. -/
def token? : Scanner Token := fun s => do
  let (_, rest) ← Scanner.literal "LATEX-".toList s
  let (kind, rest) ← kind? rest
  let (_, rest) ← Scanner.literal ['-'] rest
  let (number, rest) ← Scanner.run isDecimalDigit rest
  let (_, rest) ← Scanner.literal ['-'] rest
  let payload := rest.takeWhile isAsciiAlphanumeric
  let (_, rest) ← Scanner.literal "-END".toList (rest.dropWhile isAsciiAlphanumeric)
  some (⟨kind, number, payload⟩, rest)

/-- Displayed mathematics: at least one character between two pairs of dollar signs,
up to the first pair that can close it. -/
def display? : Scanner Text
  | '$' :: '$' :: c :: rest =>
    (Text.cut? ['$', '$'] rest).map fun (body, rest) =>
      ('$' :: '$' :: c :: body ++ ['$', '$'], rest)
  | _ => none

/-- Inline mathematics: at least one character on one line between dollar signs. -/
def inline? : Scanner Text
  | '$' :: rest => do
    let (body, rest) ← Scanner.run (fun c => c != '$' && c != '\n') rest
    let (_, rest) ← Scanner.literal ['$'] rest
    some ('$' :: body ++ ['$'], rest)
  | _ => none

/-- The name of an environment: letters, and perhaps an asterisk. -/
def environmentName? : Scanner Text := fun s => do
  let (letters, rest) ← Scanner.run isAsciiLetter s
  match rest with
  | '*' :: rest => some (letters ++ ['*'], rest)
  | rest => some (letters, rest)

/-- What opens an environment. -/
def beginText (name : Text) : Text :=
  "\\begin\x7b".toList ++ name ++ ['\x7d']

/-- What closes an environment. -/
def endText (name : Text) : Text :=
  "\\end\x7b".toList ++ name ++ ['\x7d']

/-- The opening of an environment, of which the name is given. -/
def beginName? : Scanner Text := fun s => do
  let (_, rest) ← Scanner.literal "\\begin\x7b".toList s
  let (name, rest) ← environmentName? rest
  let (_, rest) ← Scanner.literal ['\x7d'] rest
  some (name, rest)

/-- The text up to and with the closing of an environment inside of which `depth`
more of its name are open, and the rest behind. -/
def environmentEnd? (name : Text) (depth : Nat) : Text → Option (Text × Text)
  | [] => none
  | c :: cs =>
    match Text.dropStart? (endText name) (c :: cs) with
    | some rest =>
      match depth with
      | 0 => some (endText name, rest)
      | depth + 1 => (environmentEnd? name depth cs).map fun (body, rest) => (c :: body, rest)
    | none =>
      let depth := if (beginText name).isPrefixOf (c :: cs) then depth + 1 else depth
      (environmentEnd? name depth cs).map fun (body, rest) => (c :: body, rest)

/-- An environment, up to the closing that balances its opening. -/
def environment? : Scanner Text := fun s => do
  let (name, rest) ← beginName? s
  let (body, rest) ← environmentEnd? name 0 rest
  some (beginText name ++ body, rest)

/-- The recogniser of the sources of a kind. -/
def source? : Kind → Scanner Text
  | .display => display?
  | .inline => inline?
  | .environment => environment?

end Scriptorium.Math
