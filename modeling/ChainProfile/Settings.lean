import ChainProfile.Json.Form
import ChainProfile.Switches
import ChainProfile.Toml.Reader

/-!
# Settings

A node may be given a settings file.  Every setting has a default, settings that
are not known are passed over, and a file that does not exist counts as empty.
-/

namespace ChainProfile

/-- What a settings file can say. -/
structure Settings where
  testnet : Bool
  regtest : Bool
  logLevel : String
deriving DecidableEq

/-- What is found at the place of a file. -/
inductive FileState where
  | missing
  /-- Something is there that cannot be read. -/
  | unreadable
  /-- A file with the given bytes. -/
  | content (bytes : Bytes)

namespace Settings

/-- The settings that hold where a file says nothing. -/
def default : Settings where
  testnet := false
  regtest := false
  logLevel := "info"

instance : Inhabited Settings := ⟨default⟩

/-- The truth value of a name, or a default if the name is missing; nothing if it has a value of
another type. -/
def boolean? (entries : Toml.Entries) (name : String) (default : Bool) : Option Bool :=
  match entries.lookup name with
  | none => some default
  | some (.boolean value) => some value
  | some _ => none

/-- The text of a name, or a default if the name is missing; nothing if it has a value of another
type. -/
def text? (entries : Toml.Entries) (name : String) (default : String) : Option String :=
  match entries.lookup name with
  | none => some default
  | some (.string value) => some value
  | some _ => none

/-- The settings in the entries of a document, unless one has the wrong type. -/
def ofEntries? (entries : Toml.Entries) : Option Settings := do
  return {
    testnet := ← boolean? entries "testnet" default.testnet
    regtest := ← boolean? entries "regtest" default.regtest
    logLevel := ← text? entries "log_level" default.logLevel }

/-- The settings that the text of a file states. -/
def ofToml (text : String) : Except ChainError Settings :=
  match Toml.ofText? text >>= ofEntries? with
  | some settings => .ok settings
  | none => .error (.settings .malformed)

/-- The settings that are found at the place of a file. -/
def load : FileState → Except ChainError Settings
  | .missing => .ok default
  | .unreadable => .error (.settings .unreadable)
  | .content bytes =>
      match String.fromUTF8? ⟨bytes.toArray⟩ with
      | some text => ofToml text
      | none => .error (.settings .unreadable)

/-- Settings can be asked for their two switches. -/
instance : SwitchSource Settings where
  isOn settings name default :=
    if name = testnetSwitch then settings.testnet
    else if name = regtestSwitch then settings.regtest
    else default

/-- Settings that are missing from a record have their defaults. -/
instance : JsonForm Settings where
  toJson settings :=
    .record [("testnet", JsonForm.toJson settings.testnet),
      ("regtest", JsonForm.toJson settings.regtest),
      ("log_level", JsonForm.toJson settings.logLevel)]
  ofJson? json := do
    let [testnet, regtest, logLevel] ← json.fields? ["testnet", "regtest", "log_level"] | none
    return {
      testnet := ← (testnet.map JsonForm.ofJson?).getD (some default.testnet)
      regtest := ← (regtest.map JsonForm.ofJson?).getD (some default.regtest)
      logLevel := ← (logLevel.map JsonForm.ofJson?).getD (some default.logLevel) }

end Settings

end ChainProfile
