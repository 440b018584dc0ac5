import Bitemporal.Issue
import Bitemporal.Text.Halves
import Bitemporal.Value

/-!
# Reading the members of an object

A reader turns an untyped value into a typed one or reports what is wrong with it. Readers of
members are combined so that every faulty member is reported, declared members first and in
declaration order, then unexpected ones.
-/

namespace Bitemporal

/-- A typed value, or everything that is wrong with it. -/
abbrev Checked (α : Type) := Except (List Issue) α

namespace Checked

variable {α β : Type}

def fault (f : Fault) : Checked α := .error [⟨[], f⟩]

/-- Applies a checked function to a checked value and collects the issues of both. -/
def apply (f : Checked (α → β)) (x : Unit → Checked α) : Checked β :=
  match f, x () with
  | .ok f, .ok x => .ok (f x)
  | .ok _, .error issues => .error issues
  | .error issues, .ok _ => .error issues
  | .error first, .error second => .error (first ++ second)

/-- The issues of a value, placed under the name of the member that holds it. -/
def under (name : String) : Checked α → Checked α
  | .ok x => .ok x
  | .error issues => .error (issues.map (Issue.under name))

/-! ## Readers of single values -/

def decoded? (data : List UInt8) : Option String :=
  (String.fromUTF8? data.toByteArray).map Text.kept

def text : Value → Checked String
  | .text s => .ok s
  | .bytes data =>
    match decoded? data with
    | some s => .ok s
    | none => fault .notUnicode
  | _ => fault .notText

def ofText (read : String → Checked α) (s : String) : Checked α :=
  if Text.hasHalf s then fault .notUnicode else read s

def ofBytes (read : String → Checked α) (f : Fault) (data : List UInt8) : Checked α :=
  match decoded? data with
  | some s => read s
  | none => fault f

/-! ### Integers -/

def int64Max : Int := 9223372036854775807

def int64Min : Int := -9223372036854775808

def intOfFloat (x : Binary64) : Checked Int :=
  match x.truncate?, x.toInt? with
  | none, _ => fault .notFinite
  | some _, none => fault .fractionalInt
  | some _, some n => if int64Min < n ∧ n ≤ int64Max then .ok n else fault .oversizedInt

inductive StrictFailure where
  | malformed
  | oversized

/-- A strict numeral: perhaps a minus sign, then ASCII digits that do not start with a needless
zero. A numeral is too long as soon as its sign and digits are, whatever follows them. -/
def strictInt (cs : List Char) : Except StrictFailure Int :=
  let (negative, body) := match cs with
    | '-' :: rest => (true, rest)
    | rest => (false, rest)
  let digits := body.takeWhile Char.isDigit
  let rest := body.drop digits.length
  match digits with
  | [] => .error .malformed
  | '0' :: _ :: _ => .error .malformed
  | digits =>
    if Numeral.maxDigits < cs.length - rest.length then .error .oversized
    else if !rest.isEmpty then .error .malformed
    else
      let n : Int := Numeral.ofDigits (digits.map fun c => c.toNat - 48)
      .ok (if negative then -n else n)

/-- A numeral from its first digit on that is no needless zero. Underscores may stand among needless
zeros, and a zero in front of a point is not needless. -/
def withoutZeros? : List Char → Option (List Char)
  | [] => none
  | c :: rest =>
    if c = '0' then behindZero? c rest
    else if c.isDigit || c = '-' then some (c :: rest)
    else none
where
  /-- The same behind a zero or an underscore. -/
  behindZero? (last : Char) : List Char → Option (List Char)
    | [] => some [last]
    | c :: rest =>
      if c = '0' || c = '_' then behindZero? c rest
      else if c.isDigit || c = '-' then some (c :: rest)
      else if c = '.' then some (last :: c :: rest)
      else none

def withoutFraction (cs : List Char) : List Char :=
  let zeros := cs.reverse.takeWhile (· = '0')
  match zeros, cs.reverse.drop zeros.length with
  | _ :: _, '.' :: front => front.reverse
  | _, _ => cs

def hasDouble : List Char → Bool
  | '_' :: '_' :: _ => true
  | _ :: rest => hasDouble rest
  | [] => false

def ungrouped? (cs : List Char) : Option (List Char) :=
  if cs.head? = some '_' || cs.getLast? = some '_' || hasDouble cs then none
  else some (cs.filter (· ≠ '_'))

/-- A freely written numeral in strict form: without blanks around it, plus sign, needless zeros, a
fraction of zeros and underscores. -/
def strictForm? (cs : List Char) : Option (List Char) :=
  match Numeral.trimMargins cs with
  | '+' :: '-' :: _ => none
  | '+' :: rest => body? rest
  | '-' :: rest => (body? rest).map ('-' :: ·)
  | rest => body? rest
where
  body? (cs : List Char) : Option (List Char) :=
    (withoutZeros? cs).map fun cs =>
      let cs := withoutFraction cs
      (ungrouped? cs).getD cs

def intOfText (s : String) : Checked Int :=
  match strictInt s.toList with
  | .ok n => .ok n
  | .error .oversized => fault .oversizedInt
  | .error .malformed =>
    match (strictForm? s.toList).map strictInt with
    | some (.ok n) => .ok n
    | _ => fault .unreadableInt

def int : Value → Checked Int
  | .int n => .ok n
  | .bool b => .ok (if b then 1 else 0)
  | .float x => intOfFloat x
  | .text s => ofText intOfText s
  | .bytes data => ofBytes intOfText .unreadableInt data
  | _ => fault .notInt

/-! ### Numbers -/

def strictFloat? (cs : List Char) : Option Binary64 :=
  if cs.all fun c => c.toNat < 128 && c ≠ '_' && !Text.isBlank c then Binary64.read? cs else none

/-- The number that a text denotes. Blanks may surround it, or underscores may stand in it one at a
time, but not both. -/
def floatOfText (s : String) : Checked Binary64 :=
  let cs := s.toList
  match (strictFloat? (Numeral.trimMargins cs)).or (ungrouped? cs >>= strictFloat?) with
  | some x => .ok x
  | none => fault .unreadableFloat

def float : Value → Checked Binary64
  | .float x => .ok x
  | .bool b => .ok (if b then 1 else 0)
  | .int n =>
    match Binary64.ofInt? n with
    | some x => .ok x
    | none => fault .notFloat
  | .text s => ofText floatOfText s
  | .bytes data => ofBytes floatOfText .unreadableFloat data
  | _ => fault .notFloat

/-! ### Truth values -/

def falseWords : List String := ["0", "off", "f", "false", "n", "no"]

def trueWords : List String := ["1", "on", "t", "true", "y", "yes"]

def boolOfText (s : String) : Checked Bool :=
  let word := String.ofList (s.toList.map Char.toLower)
  if falseWords.contains word then .ok false
  else if trueWords.contains word then .ok true
  else fault .unreadableBool

def boolOfInt (n : Int) : Checked Bool :=
  if n = 0 then .ok false else if n = 1 then .ok true else fault .unreadableBool

/-- A truth value, or something that stands for one. Numbers of more than 64 bits are not even
tried. -/
def bool : Value → Checked Bool
  | .bool b => .ok b
  | .int n => if int64Min ≤ n ∧ n ≤ int64Max then boolOfInt n else fault .notBool
  | .float x =>
    match intOfFloat x with
    | .ok n => boolOfInt n
    | .error _ => fault .notBool
  | .text s => ofText boolOfText s
  | .bytes data => ofBytes boolOfText .unreadableBool data
  | _ => fault .notBool

def optional (read : Value → Checked α) : Value → Checked (Option α)
  | .null => .ok none
  | v => (read v).map some

/-! ## Readers of members -/

def member? (members : List (String × Value)) (name : String) : Option Value :=
  members.lookup name

def required (members : List (String × Value)) (name : String) (read : Value → Checked α) :
    Checked α :=
  match member? members name with
  | some v => (read v).under name
  | none => .error [⟨[name], .missing⟩]

def defaulted (members : List (String × Value)) (name : String) (default : α)
    (read : Value → Checked α) : Checked α :=
  match member? members name with
  | some v => (read v).under name
  | none => .ok default

/-- A member that may be absent or hold nothing. -/
def opt (members : List (String × Value)) (name : String) (read : Value → Checked α) :
    Checked (Option α) :=
  defaulted members name none (optional read)

/-- A tag, which must be the expected one where it is given. -/
def tag (members : List (String × Value)) (name expected : String) : Checked Unit :=
  defaulted members name () fun v =>
    match v with
    | .text s =>
      if Text.hasHalf s then fault .notUnicode
      else if s = expected then .ok ()
      else fault (.wrongTag expected)
    | _ => fault (.wrongTag expected)

/-- Reports nothing but that a name holds more than characters, where one does. -/
def named (members : List (String × Value)) (c : Checked α) : Checked α :=
  if members.any fun m => Text.hasHalf m.1 then fault .notUnicode else c

def closed (members : List (String × Value)) (declared : List String) : Checked Unit :=
  match members.filter fun m => !declared.contains m.1 with
  | [] => .ok ()
  | extra => .error (extra.map fun m => ⟨[m.1], .unexpected⟩)

end Checked

inductive Bound where
  | millis (n : Int)
  | text (s : String)
  deriving DecidableEq

namespace Bound

def value : Bound → Value
  | millis n => .int n
  | text s => .text s

/-- The bound that a value stands for. A value that is neither gives two issues, one for each
kind. -/
def ofValue : Value → Checked Bound
  | .text s => .ok (.text s)
  | v =>
    match (Checked.int v).under "int", (Checked.text v).under "str" with
    | .ok n, _ => .ok (.millis n)
    | _, .ok s => .ok (.text s)
    | .error first, .error second => .error (first ++ second)

end Bound

end Bitemporal
