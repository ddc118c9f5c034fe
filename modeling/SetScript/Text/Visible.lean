import SetScript.Text.CodeRange

/-!
# Visible text

A text may hold control characters and control sequences for a terminal.  The
visible text is what remains without them.

A control sequence starts with an escape character.  Sequences in brackets end
with a letter, and strings for a device, for a title or for an application end
with a terminator.  Blanks stay visible, also inside of a sequence, and what
follows such a blank is visible again.
-/

namespace SetScript.Text

/-- Where a character stands in relation to control sequences. -/
inductive ControlState
  | outside
  /-- After the escape character. -/
  | escape
  /-- After the escape character and some intermediate characters. -/
  | escapeMiddle
  /-- Among the parameters of a sequence. -/
  | parameters
  /-- At the start of a string for a device. -/
  | deviceStart
  /-- Among the parameters of a string for a device. -/
  | deviceParameters
  /-- After the parameters of a string for a device. -/
  | deviceMiddle
  /-- In a string for a device or an application. -/
  | string
  /-- In a title. -/
  | title
deriving DecidableEq

namespace ControlState

/-- Whether a character is white space of the first 128 code points.  The vertical
tabulator is not. -/
def isBlankControl (c : Char) : Bool :=
  c == '\t' || c == '\n' || c == '\x0c' || c == '\r'

/-- Whether a character is visible in a state. -/
def shows (state : ControlState) (c : Char) : Bool :=
  match state with
  | outside => !isAscii c || (' ' ≤ c && c ≤ '~') || isBlankControl c
  | escape | escapeMiddle | parameters => isBlankControl c
  | deviceStart | deviceParameters | deviceMiddle | string | title => false

/-- Whether the encoding of a character in bytes holds the terminator of strings. -/
def holdsTerminator (c : Char) : Bool :=
  (String.singleton c).toUTF8.toList.contains 0x9c

/-- The state after a graphic character of the first 128 code points. -/
def afterGraphic (state : ControlState) (c : Char) : ControlState :=
  match state with
  | outside => outside
  | escape =>
      if c < '0' then escapeMiddle
      else if c = '[' then parameters
      else if c = ']' then title
      else if c = 'P' then deviceStart
      else if c = 'X' ∨ c = '^' ∨ c = '_' then string
      else outside
  | escapeMiddle => if c < '0' then escapeMiddle else outside
  | parameters => if c < '@' then parameters else outside
  | deviceStart =>
      if c < '0' then deviceMiddle else if c < '@' then deviceParameters else string
  | deviceParameters =>
      if c < '0' then deviceMiddle else if c < '<' then deviceParameters else string
  | deviceMiddle => if c < '0' then deviceMiddle else string
  | string => string
  | title => title

/-- The state after a character that is not visible. -/
def after (state : ControlState) (c : Char) : ControlState :=
  if c = '\x1b' then escape
  else if c = '\x18' ∨ c = '\x1a' then outside
  else if !isAscii c then
    if state = string ∧ holdsTerminator c then outside else state
  else if c < ' ' then
    if state = title ∧ c = '\x07' then outside else state
  else if c = '\x7f' then state
  else state.afterGraphic c

end ControlState

/-- The visible characters of a text.  After a visible character the following ones
are looked at as if they stood outside of sequences; the state counts again after
the next one that is not visible. -/
def visibleFrom (afterVisible : Bool) (state : ControlState) : List Char → List Char
  | [] => []
  | c :: rest =>
      if (if afterVisible then .outside else state).shows c then
        c :: visibleFrom true (if isAscii c then state else .outside) rest
      else
        visibleFrom false (state.after c) rest

/-- A text without control characters and control sequences. -/
def visible (text : String) : String :=
  String.ofList (visibleFrom false .outside text.toList)

end SetScript.Text
