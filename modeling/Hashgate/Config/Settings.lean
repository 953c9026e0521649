/-! # Settings by name

Programs take their settings from a table of names and texts, such as the environment. A name that
has no text leaves its setting at the default. -/

namespace Hashgate

/-- The texts of some names. -/
abbrev Lookup := String → Option String

inductive SettingsFault where
  | unreadable (name text : String)
  | senseless (why : String)
  deriving DecidableEq, Repr

def SettingsFault.message : SettingsFault → String
  | .unreadable name text => "Invalid environment variable " ++ name ++ ": " ++ text
  | .senseless why => "Configuration validation failed: " ++ why

/-- The text of a name, or else the default. -/
def Lookup.text (lookup : Lookup) (name default : String) : String := (lookup name).getD default

/-- What a reader makes of the text of a name, or else the default. -/
def Lookup.read (lookup : Lookup) (name : String) (reader : List Char → Except ε α) (default : α) :
    Except SettingsFault α :=
  match lookup name with
  | none => .ok default
  | some text =>
    match reader text.toList with
    | .ok value => .ok value
    | .error _ => .error (.unreadable name text)

end Hashgate
