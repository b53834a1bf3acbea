/-!
# Leaving out control sequences

What a terminal takes as a control sequence does not show, and neither do other control characters,
apart from blanks. Text that holds none of them stays as it is.
-/

namespace DnsForwarder.Text

/-- What kind of sequence is being read. -/
inductive ControlMode where
  /-- None. -/
  | text
  /-- It has begun with the escape character. -/
  | escape
  /-- The escape character and some marks have been read. -/
  | escapeMarks
  /-- It sets something, such as a color, and ends with a letter. -/
  | setting
  /-- It holds a command of the operating system and ends with the bell. -/
  | command
  /-- It has a message to a device, which has not begun. -/
  | device
  /-- The numbers before a message to a device are being read. -/
  | deviceNumbers
  /-- The marks before a message to a device are being read. -/
  | deviceMarks
  /-- It holds a message, which ends with an octet that can be part of a character. -/
  | message
deriving DecidableEq, Repr

/-- The control characters that are blanks. -/
def isControlBlank (c : Char) : Bool :=
  c == '\t' || c == '\n' || c == '\r' || c.toNat == 0x0C

namespace ControlMode

/-- Whether a character shows. -/
def shows (mode : ControlMode) (c : Char) : Bool :=
  match mode with
  | .text => isControlBlank c || (0x20 ≤ c.toNat && c.toNat != 0x7F)
  | .escape => isControlBlank c
  | .escapeMarks => isControlBlank c
  | .setting => isControlBlank c
  | .command => false
  | .device => false
  | .deviceNumbers => false
  | .deviceMarks => false
  | .message => false

/-- What the character after the escape character says about a sequence. -/
def afterEscape (c : Char) : ControlMode :=
  if c.toNat < 0x20 ∨ 0x7F ≤ c.toNat then .escape
  else if c.toNat < 0x30 then .escapeMarks
  else if c = '[' then .setting
  else if c = ']' then .command
  else if c = 'P' then .device
  else if c = 'X' ∨ c = '^' ∨ c = '_' then .message
  else .text

/-- The mode after a character before a message to a device. Marks may follow numbers but not the
other way round; whatever else can be part of a sequence begins the message. -/
def beforeMessage (mode : ControlMode) (numbersEnd : Nat) (c : Char) : ControlMode :=
  if c.toNat < 0x20 ∨ 0x7F ≤ c.toNat then mode
  else if c.toNat < 0x30 then .deviceMarks
  else if c.toNat < numbersEnd then .deviceNumbers
  else .message

/-- The octet that ends a message. -/
abbrev messageEnd : UInt8 := 0x9C

/-- The mode after a character. -/
def next (mode : ControlMode) (c : Char) : ControlMode :=
  if c.toNat = 0x18 ∨ c.toNat = 0x1A then .text
  else if c.toNat = 0x1B then .escape
  else
    match mode with
    | .text => .text
    | .escape => afterEscape c
    | .escapeMarks => if 0x30 ≤ c.toNat ∧ c.toNat < 0x7F then .text else .escapeMarks
    | .setting => if 0x40 ≤ c.toNat ∧ c.toNat < 0x7F then .text else .setting
    | .command => if c.toNat = 0x07 then .text else .command
    | .device => mode.beforeMessage 0x40 c
    | .deviceNumbers => mode.beforeMessage 0x3C c
    | .deviceMarks => mode.beforeMessage 0x30 c
    | .message => if (String.utf8EncodeChar c).contains messageEnd then .text else .message

end ControlMode

/-- The characters that show. Once one has shown, those after it show as in plain text up to one
that would not, even where a sequence is not over. -/
def shown (mode : ControlMode) (showing : Bool) : List Char → List Char
  | [] => []
  | c :: rest =>
    if showing && ControlMode.text.shows c then
      c :: shown (if c.toNat < 0x80 then mode else .text) true rest
    else if mode.shows c then c :: shown (mode.next c) true rest
    else shown (mode.next c) false rest

/-- A text without control sequences. -/
def withoutControls (text : String) : String := String.ofList (shown .text false text.toList)

theorem shown_text_eq_self {l : List Char} (showing : Bool)
    (h : l.all ControlMode.text.shows = true) : shown .text showing l = l := by
  induction l generalizing showing with
  | nil => rfl
  | cons c rest ih =>
    rw [List.all_cons, Bool.and_eq_true] at h
    have stays : ControlMode.text.next c = .text := by
      have shows := h.1
      have notEscape : c.toNat ≠ 0x1B := by
        intro code
        simp [ControlMode.shows, isControlBlank, code] at shows
        rcases shows with ((eq | eq) | eq) <;> subst eq <;> exact absurd code (by decide)
      unfold ControlMode.next
      rw [if_neg notEscape]
      exact ite_self _
    rw [shown]
    cases showing with
    | true => simp [h.1, ih true h.2]
    | false => simp [h.1, stays, ih true h.2]

end DnsForwarder.Text
