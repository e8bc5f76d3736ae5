-- Event streams: text in lines, in which an empty line ends each event.
import ToggleSync.Text.Utf8

namespace ToggleSync.Http.EventStream

structure Event where
  name : String
  data : String
  deriving DecidableEq, Repr

/-! ## Lines -/

def carriageReturn : UInt8 := 13

def lineFeed : UInt8 := 10

/-- The lines of a stream that are complete, and what comes after them. A line ends with a carriage
return, a line feed, or both; the last carriage return of a stream does not end one yet. -/
def lines (line : List UInt8) : List UInt8 → List (List UInt8) × List UInt8
  | [] => ([], line)
  | [b] => if b = lineFeed then ([line], []) else ([], line ++ [b])
  | b :: c :: bs =>
    if b = lineFeed then
      let r := lines [] (c :: bs)
      (line :: r.1, r.2)
    else if b = carriageReturn then
      let r := lines [] (if c = lineFeed then bs else c :: bs)
      (line :: r.1, r.2)
    else lines (line ++ [b]) (c :: bs)
termination_by bytes => bytes.length
decreasing_by all_goals grind

/-! ## Fields -/

/-- An event that is not complete. -/
structure Draft where
  name : String
  data : List String
  deriving DecidableEq, Repr

def Draft.empty : Draft := ⟨"", []⟩

/-- The name of a field, and its value without one space before it. A line without colon is all
name. -/
def splitField (line : List Char) : String × String :=
  let name := line.takeWhile (· != ':')
  let value := match line.dropWhile (· != ':') with
    | ':' :: ' ' :: value => value
    | ':' :: value => value
    | value => value
  (String.ofList name, String.ofList value)

/-- Lines that begin with a colon are comments. Fields with other names mean nothing here. -/
def Draft.addLine (d : Draft) (line : List Char) : Draft :=
  match splitField line with
  | ("event", value) => { d with name := value }
  | ("data", value) => { d with data := d.data ++ [value] }
  | _ => d

/-- An event without data is none. An event without name is a message. -/
def Draft.event? (d : Draft) : Option Event :=
  if d.data.isEmpty then none
  else some ⟨if d.name.isEmpty then "message" else d.name, "\n".intercalate d.data⟩

/-! ## Events -/

/-- The events of the lines up to the first that is not text, and what is wrong with that one. -/
def events (d : Draft) : List (List UInt8) → List Event × Option Utf8.Flaw
  | [] => ([], none)
  | line :: rest =>
    match Utf8.scan 0 line with
    | (_, some flaw) => ([], some flaw)
    | ([], none) =>
      let r := events .empty rest
      (d.event?.toList ++ r.1, r.2)
    | (cs, none) => events (d.addLine cs) rest

/-- The events of a stream. One that has not ended counts for nothing, unless it is not text. -/
def read (bytes : List UInt8) : List Event × Option Utf8.Flaw :=
  let (complete, rest) := lines [] bytes
  let (es, flaw) := events .empty complete
  (es, flaw.or (Utf8.scan 0 rest).2)

end ToggleSync.Http.EventStream
