import SuiteTrigger.Encoding.Percent
import SuiteTrigger.Number.Numeral
import SuiteTrigger.Text.Blank
import SuiteTrigger.Text.Split

/-!
# Address templates

A part of an address between braces is replaced by the values of the names in it. A sign at the
start of the part says how values are joined and which characters are kept. A name may have a length
after a colon and a default after an equals sign; the last default of a name in a part counts
wherever the name stands in it. Names without a value are left out.
-/

namespace SuiteTrigger.Http.Template

abbrev Values := List (List Char × List Char)

/-- How the values of a part are written. -/
structure Style where
  /-- What stands before the first value. -/
  start : List Char
  /-- What stands between two values. -/
  separator : List Char
  /-- Whether reserved characters are kept. -/
  keepsReserved : Bool
  /-- Whether each value follows its name and an equals sign. -/
  isNamed : Bool
  /-- Whether the equals sign is dropped before an empty value. -/
  dropsEmptyEquals : Bool

def Style.plain : Style := ⟨[], [','], false, false, false⟩

/-- The signs that stand before the values but have no other meaning. -/
def idleSigns : List Char := ['=', ',', '!', '@', '|']

/-- The style that a sign stands for. -/
def Style.ofSign? (sign : Char) : Option Style :=
  match sign with
  | '+' => some { Style.plain with keepsReserved := true }
  | '#' => some { Style.plain with start := ['#'], keepsReserved := true }
  | '.' => some { Style.plain with start := ['.'], separator := ['.'] }
  | '/' => some { Style.plain with start := ['/'], separator := ['/'] }
  | ';' => some ⟨[';'], [';'], false, true, true⟩
  | '?' => some ⟨['?'], ['&'], false, true, false⟩
  | '&' => some ⟨['&'], ['&'], false, true, false⟩
  | sign => if idleSigns.contains sign then some { Style.plain with start := [sign] } else none

def reserved : List Char := "!#$&'()*+,/:;=?@[]".toList

/-- A value as it is written. Where reserved characters are kept, a value that is encoded already
stays as it is. -/
def Style.write (style : Style) (value : List Char) : List Char :=
  if !style.keepsReserved then Percent.encode value
  else if Percent.isEncoded value then value
  else Percent.encodeKeeping (fun c => Percent.isUnreserved c || reserved.contains c) value

/-- A name in a part, with its default and the length that its value is cut to. -/
structure Variable where
  name : List Char
  default? : Option (List Char)
  length? : Option Int

/-- Reads a name of a part. What follows a colon has to be an integer. Asterisks at the end say
nothing, and so does an empty default. -/
def Variable.read (cs : List Char) : Except NumeralError Variable := do
  let (named, default?) := match Text.cut? '=' cs with
    | some (named, []) => (named, none)
    | some (named, value) => (named, some value)
    | none => (cs, none)
  let named := Text.dropEndWhile (· = '*') named
  match Text.cut? ':' named with
  | none => return ⟨named, default?, none⟩
  | some (name, length) => return ⟨name, default?, some (← Numeral.readInt (String.ofList length))⟩

/-- A value that is cut to a length. A length below zero counts from the end of the value, and zero
leaves it whole. -/
def cutTo (length : Int) (value : List Char) : List Char :=
  if length = 0 then value
  else if length < 0 then value.take (value.length - length.natAbs)
  else value.take length.natAbs

def defaultOf? (known : List Variable) (name : List Char) : Option (List Char) :=
  known.reverse.findSome? fun v => if v.name = name then v.default? else none

/-- The text of a variable with a value. -/
def Variable.expand (style : Style) (v : Variable) (value : List Char) : List Char :=
  let value := (v.length?.map fun length => cutTo length value).getD value
  if !style.isNamed then style.write value
  else if value.isEmpty && style.dropsEmptyEquals then v.name
  else v.name ++ '=' :: style.write value

/-- The text that replaces a part. -/
def expandPart (values : Values) (part : List Char) : Except NumeralError (List Char) := do
  let (style, names) := match part with
    | sign :: rest =>
      match Style.ofSign? sign with
      | some style => (style, rest)
      | none => (Style.plain, part)
    | [] => (Style.plain, part)
  let known ← (Text.splitOn ',' names).mapM Variable.read
  let written := known.filterMap fun v =>
    ((values.lookup v.name).orElse fun _ => defaultOf? known v.name).map (v.expand style)
  return if written.isEmpty then [] else style.start ++ style.separator.intercalate written

/-- The part that a text begins with, behind its opening brace, and what follows its closing one. A
part has at least one character. -/
def part? (cs : List Char) : Option (List Char × List Char) :=
  match Text.cut? '\x7d' cs with
  | some ([], _) => none
  | parts => parts

theorem length_lt_of_part {cs part rest : List Char} (h : part? cs = some (part, rest)) :
    rest.length < cs.length := by
  have shorter : ∀ {cs part rest : List Char},
      Text.cut? '\x7d' cs = some (part, rest) → rest.length < cs.length := by
    intro cs
    induction cs with
    | nil => simp [Text.cut?]
    | cons c cs ih =>
      intro part rest h
      unfold Text.cut? at h
      split at h
      · simp_all
      · obtain ⟨parts, found, equal⟩ := Option.map_eq_some_iff.1 h
        have := ih found
        simp_all
        omega
  unfold part? at h
  split at h
  · exact absurd h (by simp)
  · exact shorter h

/-- A text with its parts replaced. -/
def expand (values : Values) (cs : List Char) : Except NumeralError (List Char) :=
  match cs with
  | [] => .ok []
  | c :: rest =>
    if c = '\x7b' then
      match h : part? rest with
      | some (part, after) =>
        have := length_lt_of_part h
        do return (← expandPart values part) ++ (← expand values after)
      | none => (c :: ·) <$> expand values rest
    else (c :: ·) <$> expand values rest
termination_by cs.length
decreasing_by all_goals simp only [List.length_cons]; omega

end SuiteTrigger.Http.Template
