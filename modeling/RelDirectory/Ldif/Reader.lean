import RelDirectory.Failure
import RelDirectory.Ldif.Record
import RelDirectory.Log
import RelDirectory.Text.Base64

/-!
# Reading change files

Records stand between blank lines and begin with a `dn` line.  A line that begins with a space
continues the line before it, a line that begins with `#` is a comment, a lone `-` says nothing,
and a value behind two colons is base64.
-/
set_option autoImplicit false
namespace RelDirectory.Ldif

/-- A logical line and the number of the line on which it begins. -/
structure Line where
  number : Nat
  text : List Char

/-- The logical lines so far, the latest first. -/
structure Unfolding where
  lines : List Line
  inComment : Bool

def unfoldLine (s : Unfolding) (number : Nat) (raw : List Char) : Unfolding :=
  match raw, s.inComment, s.lines with
  | ' ' :: _, true, _ => s
  | ' ' :: rest, false, last :: lines =>
    { s with lines := { last with text := last.text ++ rest } :: lines }
  | '#' :: _, _, _ => { s with inComment := true }
  | _, _, lines => ⟨⟨number, raw⟩ :: lines, false⟩

def unfoldFrom (s : Unfolding) : Nat → List (List Char) → List Line
  | _, [] => s.lines.reverse
  | number, raw :: rest => unfoldFrom (unfoldLine s number raw) (number + 1) rest

def stripReturn (cs : List Char) : List Char := if cs.getLast? = some '\r' then cs.dropLast else cs

def unfold (text : List Char) : List Line :=
  unfoldFrom ⟨[], false⟩ 1 ((Text.lines text).map stripReturn)

/-- What a line says of an attribute, and what the log says of the line. -/
structure Pair where
  name : String
  value : String
  log : Log

def decodeValue (name : String) (encoded : List Char) : Except LdifFault String :=
  match Text.Base64.decode? encoded with
  | none => .error (.badBase64 name)
  | some bytes =>
    match Text.Utf8.decode? bytes with
    | none => .error (.notUtf8 name)
    | some value => .ok value

def pair (line : Line) : Except LdifFault Pair :=
  match Text.cutAt ':' line.text with
  | none => .error (.noColon (String.ofList line.text))
  | some (before, after) =>
    let name := String.ofList (Text.trim before)
    if name = "" then .error .noName
    else
      match after with
      | ':' :: encoded => (decodeValue name (Text.trim encoded)).map fun value => ⟨name, value, []⟩
      | '<' :: url =>
        .ok ⟨name, String.ofList (Text.trim url),
          [.warn .ldifReader ("Line " ++ toString line.number ++ ": URL value for " ++ name ++
            " is kept as is")]⟩
      | plain => .ok ⟨name, String.ofList (Text.trimStart plain), []⟩

/-- The records of the lines, the first of them going on with `current`. -/
def records (current : Option ChangeRecord) :
    List Line → Except (Nat × LdifFault) (List ChangeRecord) × Log
  | [] => (.ok current.toList, [])
  | line :: lines =>
    if Text.allBlank line.text then
      let (rest, log) := records none lines
      (rest.map (current.toList ++ ·), log)
    else if line.text = ['-'] then records current lines
    else
      match pair line with
      | .error fault => (.error (line.number, fault), [])
      | .ok ⟨name, value, warned⟩ =>
        match current with
        | some record =>
          let (rest, log) := records (some (record.push name value)) lines
          (rest, warned ++ log)
        | none =>
          if Text.sameLetters name "dn" then
            let (rest, log) := records (some (.new value)) lines
            (rest, warned ++ log)
          else if Text.sameLetters name "version" then
            let (rest, log) := records none lines
            (rest, warned ++ .debug .ldifReader ("LDIF version " ++ value) :: log)
          else (.error (line.number, .notDn name), warned)

/-- The records of a change file's text. -/
def read (text : String) : Except Failure (List ChangeRecord) × Log :=
  let (result, log) := records none (unfold text.toList)
  (result.mapError fun (line, fault) => .ldif line fault, log)

/-- The records of the change file at a path. -/
def load (files : Reader) (path : String) : Except Failure (List ChangeRecord) × Log :=
  match files.text path with
  | .error fault => (.error (.file fault), [])
  | .ok text => read text

end RelDirectory.Ldif
