/-!
# Reading from the front of a text

A reader takes something from the front of a text, or fails.  An alternative starts where
the reader before it has started.
-/

namespace PackageMetadata

/-- Takes a value from the front of a text and leaves the rest. -/
abbrev Reader (α : Type) := StateT (List Char) Option α

namespace Reader

variable {α β : Type}

/-- A character that satisfies a test. -/
def satisfy (p : Char → Bool) : Reader Char
  | c :: rest => if p c then some (c, rest) else none
  | [] => none

/-- The given character. -/
def char (c : Char) : Reader Char :=
  satisfy (· == c)

/-- The given text. -/
def exactly (text : List Char) : Reader Unit := fun input =>
  if text.isPrefixOf input then some ((), input.drop text.length) else none

/-- The first one of some texts that is there. -/
def firstOf (texts : List (List Char)) : Reader Unit := fun input =>
  (texts.find? fun text => text.isPrefixOf input).map fun text => ((), input.drop text.length)

/-- The longest front of the given kind; it may be empty. -/
def span (p : Char → Bool) : Reader (List Char) := fun input =>
  some (input.takeWhile p, input.dropWhile p)

/-- The rest of the text, which stays. -/
def remaining : Reader (List Char) := fun input =>
  some (input, input)

/-- The end of the text. -/
def atEnd : Reader Unit
  | [] => some ((), [])
  | _ :: _ => none

/-- Repeats a reader until it fails, a given number of times at most. -/
def atMost (reader : Reader α) : Nat → List Char → List α × List Char
  | 0, input => ([], input)
  | times + 1, input =>
      match reader input with
      | none => ([], input)
      | some (first, rest) =>
          let others := atMost reader times rest
          (first :: others.1, others.2)

/-- Repeats a reader until it fails.  It is expected to take a character each time. -/
def many (reader : Reader α) : Reader (List α) := fun input =>
  some (atMost reader input.length input)

/-- Takes what a reader finds, if it finds anything. -/
def option (reader : Reader α) : Reader (Option α) := fun input =>
  match reader input with
  | some (value, rest) => some (some value, rest)
  | none => some (none, input)

/-- Repeats a reader with commas between; there may be nothing at all. -/
def commaSeparated (reader : Reader α) : Reader (List α) :=
  (do
    let first ← reader
    let others ← many (char ',' *> reader)
    return first :: others) <|> pure []

/-- What a function makes of a value, if it accepts it. -/
def accept
    (reader : Reader α)
    (f : α → Option β) :
    Reader β := do
  match f (← reader) with
  | some value => return value
  | none => failure

end Reader

end PackageMetadata
