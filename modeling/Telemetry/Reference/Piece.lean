import Telemetry.Text.Blank
import Telemetry.Value.Plain

/-!
# Texts with references

A text is made of pieces: characters, and references. A reference stands between a dollar sign with
an opening brace and a closing brace; blanks may stand next to the braces. It has dots in front and
then keys, each behind a dot or between square brackets. A key holds any characters but blanks,
quotes, backslashes, dots, colons and brackets of all kinds. A key between brackets with a line end
in it counts for nothing. A colon behind a name calls a function. A text with a reference of another
form is ill-formed.

A reference is simple if it has dots, and keys of ASCII letters, digits, underscores and dollar
signs, with ASCII blanks of any kind next to the braces. Only spaces and tabs are blanks in a
well-formed reference, so that a simple one may be ill-formed: other blanks are part of a key.

An odd number of backslashes before a reference makes its dollar sign and brace characters like any
other; of the backslashes before a reference, every other one is dropped. Backslashes elsewhere stay
as they are.

Main statement: `scan_of_not_refers` (a text without references is one piece).
-/

namespace Telemetry.Reference

/-- A part of a text. -/
inductive Piece where
  | text (cs : List Char)
  /-- A reference to a node: the number of dots in front, and the keys. -/
  | node (up : Nat) (keys : List String)
  | call

def openBrace : Char := '\x7b'

def closeBrace : Char := '\x7d'

/-! ### Keys -/

/-- Whether a character is a blank that may stand next to a brace. -/
def isPadding (c : Char) : Bool := c == ' ' || c == '\t'

/-- Whether a character can be part of a key. -/
def isKeyChar (c : Char) : Bool :=
  !isPadding c && c ∉ ['\\', openBrace, closeBrace, '(', ')', '[', ']', ':', '.', '\'', '"']

/-- Where the reading of keys stands. -/
inductive KeyState where
  /-- Before the first key. -/
  | start
  /-- Behind a dot. -/
  | dot
  /-- In a key, with its characters in reverse. -/
  | plain (cs : List Char)
  /-- In a key between brackets, with its characters in reverse. -/
  | bracket (cs : List Char)
  /-- Behind a closing bracket. -/
  | closed

/-- A key from its characters in reverse. -/
def keyOf (cs : List Char) : String := String.ofList cs.reverse

/-- A key between brackets, in front of further keys, unless it has a line end in it. -/
def withBracket (cs : List Char) (keys : List String) : List String :=
  if '\n' ∈ cs then keys else keyOf cs :: keys

def readKeys : KeyState → List Char → Option (List String)
  | .plain cs, [] => some [keyOf cs]
  | .closed, [] => some []
  | _, [] => none
  | .start, c :: rest =>
    if c = '[' then readKeys (.bracket []) rest
    else if isKeyChar c then readKeys (.plain [c]) rest
    else none
  | .dot, c :: rest => if isKeyChar c then readKeys (.plain [c]) rest else none
  | .plain cs, c :: rest =>
    if isKeyChar c then readKeys (.plain (c :: cs)) rest
    else if c = '.' then (readKeys .dot rest).map (keyOf cs :: ·)
    else if c = '[' then (readKeys (.bracket []) rest).map (keyOf cs :: ·)
    else none
  | .bracket cs, c :: rest =>
    if isKeyChar c then readKeys (.bracket (c :: cs)) rest
    else if c = ']' ∧ cs ≠ [] then (readKeys .closed rest).map (withBracket cs)
    else none
  | .closed, c :: rest =>
    if c = '.' then readKeys .dot rest
    else if c = '[' then readKeys (.bracket []) rest
    else none

/-- Whether characters are a name: letters, digits, underscores and hyphens, with a letter or an
underscore in front. -/
def isName : List Char → Bool
  | [] => false
  | c :: rest =>
    (c.isAlpha || c == '_') && rest.all fun d => d.isAlphanum || d == '_' || d == '-'

/-- Whether characters are the name of a function: names with dots between them. -/
def isFunction (cs : List Char) : Bool :=
  ((String.ofList cs).splitOn ".").all fun name => isName name.toList

/-- The reference between braces. A colon right behind a name makes it the call of a function. -/
def readBody (body : List Char) : Option Piece :=
  let body := Text.trimmed isPadding body
  if ':' ∈ body then
    if isFunction (body.takeWhile (· ≠ ':')) then some .call else none
  else
    let up := (body.takeWhile (· == '.')).length
    (readKeys .start (body.drop up)).map (.node up)

/-! ### Pieces -/

/-- Put characters, which were gathered in reverse, in front of pieces. -/
def withText (gathered : List Char) (pieces : List Piece) : List Piece :=
  if gathered.isEmpty then pieces else .text gathered.reverse :: pieces

/-- Where the scan of a text stands. -/
inductive ScanState where
  /-- Outside of references, behind so many backslashes. -/
  | plain (slashes : Nat)
  /-- Behind a dollar sign, which stands behind so many backslashes. -/
  | dollar (slashes : Nat)
  /-- In a reference, with its characters in reverse. -/
  | body (cs : List Char)

/-- Backslashes on top of what was gathered. -/
def withSlashes (slashes : Nat) (gathered : List Char) : List Char :=
  List.replicate slashes '\\' ++ gathered

/-- What is gathered up to a state. -/
def ScanState.flush (gathered : List Char) : ScanState → List Char
  | plain slashes => withSlashes slashes gathered
  | dollar slashes => '$' :: withSlashes slashes gathered
  | body _ => gathered

/-- The pieces of a text, where `gathered` holds the characters since the last piece in reverse. -/
def scan : ScanState → (gathered : List Char) → List Char → Option (List Piece)
  | .body _, _, [] => none
  | state, gathered, [] => some (withText (state.flush gathered) [])
  | .body cs, gathered, c :: rest =>
    if c = closeBrace then do
      let piece ← readBody cs.reverse
      return withText gathered (piece :: (← scan (.plain 0) [] rest))
    else scan (.body (c :: cs)) gathered rest
  | .dollar slashes, gathered, c :: rest =>
    if c = openBrace then
      if slashes % 2 = 0 then scan (.body []) (withSlashes (slashes / 2) gathered) rest
      else scan (.plain 0) (c :: '$' :: withSlashes (slashes / 2) gathered) rest
    else if c = '$' then scan (.dollar 0) ('$' :: withSlashes slashes gathered) rest
    else if c = '\\' then scan (.plain 1) ('$' :: withSlashes slashes gathered) rest
    else scan (.plain 0) (c :: '$' :: withSlashes slashes gathered) rest
  | .plain slashes, gathered, c :: rest =>
    if c = '$' then scan (.dollar slashes) gathered rest
    else if c = '\\' then scan (.plain (slashes + 1)) gathered rest
    else scan (.plain 0) (c :: withSlashes slashes gathered) rest

/-- The pieces of a text, if it is well-formed. -/
def pieces? (s : String) : Option (List Piece) := scan (.plain 0) [] s.toList

/-! ### Simple references -/

/-- Whether a character can be part of a simple reference. -/
def isSimpleChar (c : Char) : Bool := c.isAlphanum || c ∈ ['_', '$', '.', '[', ']']

/-- Whether the reference between braces is simple. -/
def isSimpleBody (body : List Char) : Bool :=
  let path := Text.trimmed Text.isAsciiBlank body
  path.all isSimpleChar && (readKeys .start (path.dropWhile (· == '.'))).isSome

/-- Whether all references of a text are simple, whatever backslashes stand before them. In a
reference, `body` holds its characters in reverse. -/
def allSimple : (body : Option (List Char)) → List Char → Bool
  | none, [] => true
  | some _, [] => false
  | some cs, c :: rest =>
    if c = closeBrace then isSimpleBody cs.reverse && allSimple none rest
    else allSimple (some (c :: cs)) rest
  | none, [_] => true
  | none, c :: d :: rest =>
    if c = '$' ∧ d = openBrace then allSimple (some []) rest else allSimple none (d :: rest)

/-- Whether a text may stand in a tree: its references are all simple, or it is well-formed. -/
def isPlausible (s : String) : Bool := allSimple none s.toList || (pieces? s).isSome

/-! ### Texts without references -/

theorem withSlashes_succ (slashes : Nat) (gathered : List Char) :
    withSlashes (slashes + 1) gathered = '\\' :: withSlashes slashes gathered := rfl

/-- A scan of a text without references gathers all its characters. -/
theorem scan_of_not_refers {cs : List Char} (h : Text.refers cs = false) (slashes : Nat)
    (gathered : List Char) :
    scan (.plain slashes) gathered cs =
        some (withText (cs.reverse ++ withSlashes slashes gathered) []) ∧
      (cs.head? ≠ some openBrace → scan (.dollar slashes) gathered cs =
        some (withText (cs.reverse ++ '$' :: withSlashes slashes gathered) [])) := by
  induction cs generalizing slashes gathered with
  | nil => exact ⟨rfl, fun _ => rfl⟩
  | cons c rest ih =>
    rw [Text.refers, Bool.or_eq_false_iff] at h
    obtain ⟨hfirst, hrest⟩ := h
    have hplain := fun n g => (ih hrest n g).1
    have hslash : ∀ g, withSlashes 1 g = '\\' :: g := fun _ => rfl
    have hnone : ∀ g, withSlashes 0 g = g := fun _ => rfl
    have hbehind : c = '$' → rest.head? ≠ some openBrace := by
      rintro rfl hhead
      rw [hhead] at hfirst
      cases hfirst
    refine ⟨?_, fun hhead => ?_⟩
    · rw [scan]
      split
      · next hc =>
        rw [(ih hrest slashes gathered).2 (hbehind hc), hc, List.reverse_cons,
          List.append_assoc]
        rfl
      · split
        · next hc =>
          rw [hplain, withSlashes_succ, hc, List.reverse_cons, List.append_assoc]
          rfl
        · rw [hplain, hnone, List.reverse_cons, List.append_assoc]
          rfl
    · have hopen : c ≠ openBrace := fun hc => hhead (congrArg some hc)
      rw [scan, if_neg hopen]
      split
      · next hc =>
        rw [(ih hrest 0 _).2 (hbehind hc), hnone, hc, List.reverse_cons, List.append_assoc]
        rfl
      · split
        · next hc =>
          rw [hplain, hslash, hc, List.reverse_cons, List.append_assoc]
          rfl
        · rw [hplain, hnone, List.reverse_cons, List.append_assoc]
          rfl

end Telemetry.Reference
