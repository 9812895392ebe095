import RelDirectory.Directory
import RelDirectory.Json.Parser

/-!
# Configuration entries

Reading and changing the entries that configure the services: the authentication server's
document, the flags of services and scripts, and the clients that may use a script.
-/
set_option autoImplicit false
namespace RelDirectory

namespace Configuration

def authDn : String := "ou=jans-auth,ou=configuration,o=jans"

def globalDn : String := "ou=configuration,o=jans"

def documentColumn : String := "jansConfDyn"

def enabledColumn : String := "jansEnabled"

def propertyColumn : String := "jansConfProperty"

def allowedClients : String := "allowed_clients"

def scriptDn (inum : String) : String := "inum=" ++ inum ++ ",ou=scripts,o=jans"

/-- The items of a list with commas, blanks around them and empty ones dropped. -/
def listItems (list : String) : List String :=
  ((Text.split ',' list.toList).map fun cs => String.ofList (Text.trim cs)).filter (· != "")

/-- The list with one more item, unless it is there. -/
def addToList (list item : String) : String :=
  let items := listItems list
  ",".intercalate (if items.contains item then items else items ++ [item])

/-- The members of a property that lists allowed clients. -/
def clientProperty? (fields : List (String × Json)) : Bool :=
  (Keyed.find? "value1" fields).bind Json.string? == some allowedClients

def addClient (client : String) (fields : List (String × Json)) : Json :=
  let listed := ((Keyed.find? "value2" fields).bind Json.string?).getD ""
  .ofFields (fields ++ [("value2", .string (addToList listed client))])

/-- The item with the client added, if it is the property of allowed clients, written as an
object or as the text of one. -/
def allowIn? (client : String) : Json → Option Json
  | .object fields => if clientProperty? fields then some (addClient client fields) else none
  | .string text =>
    match Json.parse? text with
    | some (.object fields) =>
      if clientProperty? fields then some (.string (addClient client fields).compact) else none
    | _ => none
  | _ => none

/-- The properties with the client allowed by the first that lists clients, or by a new one. -/
def allowClient (client : String) : List Json → List Json
  | [] =>
    [.ofFields [("value1", .string allowedClients), ("value2", .string client)]]
  | item :: items =>
    match allowIn? client item with
    | some changed => changed :: items
    | none => item :: allowClient client items

/-- A document with members set; one that is no object stays as it is. -/
def mergeInto (entries : List (String × Json)) : Json → Json
  | .object fields => .ofFields (fields ++ entries)
  | document => document

end Configuration

namespace Directory

open RelDirectory.Configuration

variable {σ : Type} [Store σ]

/-- The authentication server's document. -/
def authDocument : Step (Directory σ) Json := do
  let row ← entry authDn
  match row.get? documentColumn with
  | some (.text text) =>
    match Json.parse? text with
    | some document => pure document
    | none => Step.fail .json
  | some (.json document) => pure document
  | _ => Step.fail (.noColumn row.table documentColumn)

def updateAuthDocument (entries : List (String × Json)) : Step (Directory σ) Unit := do
  let document ← authDocument
  let text := (mergeInto entries document).pretty
  Step.report (.info .configuration ("Updating " ++ documentColumn ++ " on " ++ authDn))
  setAttribute authDn documentColumn (.text text)

def enableScript (inum : String) : Step (Directory σ) Unit := do
  Step.report (.info .configuration ("Enabling script " ++ inum))
  setAttribute (scriptDn inum) enabledColumn (.int 1)

def setConfiguration (component : String) (value : Value) : Step (Directory σ) Unit :=
  setAttribute globalDn component value

def enableService (service : String) : Step (Directory σ) Unit := do
  Step.report (.info .configuration ("Enabling service " ++ service))
  setConfiguration service (.int 1)

/-- Lets a client use a script; the client that may already use it changes nothing. -/
def addClientToScript (inum client : String) : Step (Directory σ) Unit := do
  let dn := scriptDn inum
  let row ← entry dn
  let properties := ((row.get? propertyColumn).bind Value.items?).getD []
  Step.report (.info .configuration ("Adding client " ++ client ++ " to script " ++ inum))
  setAttribute dn propertyColumn (.container (allowClient client properties))

end Directory

end RelDirectory
