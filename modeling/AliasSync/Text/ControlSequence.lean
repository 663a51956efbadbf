/-! Texts without what only instructs a terminal: control characters and the sequences that an escape
character begins. -/

namespace AliasSync.Text

/-- What a character is read as part of. -/
inductive Terminal where
  | text
  /-- Behind an escape character. -/
  | escape
  /-- Behind further marks of an escape. -/
  | designation
  /-- Within the parameters of a control sequence. -/
  | control
  /-- Within a command to the system, which a bell ends. -/
  | command
  /-- Within a string that nothing but another escape ends. -/
  | string
  deriving DecidableEq, Repr

namespace Terminal

def isBeyondAscii (c : Char) : Bool := decide (0x80 ≤ c.toNat)

def isSpacing (c : Char) : Bool := c == '\t' || c == '\n' || c == '\x0c' || c == '\x0d'

/-- Controls, which are carried out wherever they stand. -/
def isControl (c : Char) : Bool := decide (c.toNat < 0x20)

def isShown (c : Char) : Bool := isSpacing c || (!isControl c && c != '\x7f')

def escaped (c : Char) : Terminal :=
  if c == '[' then control
  else if c == ']' then command
  else if "PX^_".toList.contains c then string
  else if c.toNat < 0x30 then designation
  else text

/-- Reads a character: what the next one is part of, and whether this one is shown. -/
def read (c : Char) (terminal : Terminal) : Terminal × Bool :=
  if c == '\x1b' then (escape, false)
  else if c == '\x18' || c == '\x1a' then (text, false)
  else match terminal with
    | text => (text, isShown c)
    | command => (if c == '\x07' then text else command, false)
    | string => (string, false)
    | escape =>
      if isControl c then (escape, isSpacing c)
      else if c == '\x7f' || isBeyondAscii c then (escape, false)
      else (escaped c, false)
    | designation =>
      if isControl c then (designation, isSpacing c)
      else if c == '\x7f' || isBeyondAscii c || c.toNat < 0x30 then (designation, false)
      else (text, false)
    | control =>
      if isControl c then (control, isSpacing c)
      else if c == '\x7f' || isBeyondAscii c || c.toNat < 0x40 then (control, false)
      else (text, false)

end Terminal

/-- The characters that are shown. Once one is, so are all up to the next that is not shown as text; what
had begun before goes on behind it, unless characters beyond ASCII have been shown. -/
def shownFrom (terminal : Terminal) (showing : Bool) : List Char → List Char
  | [] => []
  | c :: rest =>
    if showing && Terminal.isShown c then
      c :: shownFrom (if Terminal.isBeyondAscii c then .text else terminal) true rest
    else
      let (next, shown) := terminal.read c
      if shown then c :: shownFrom next true rest else shownFrom next false rest

def withoutInstructions (text : List Char) : List Char := shownFrom .text false text

end AliasSync.Text
