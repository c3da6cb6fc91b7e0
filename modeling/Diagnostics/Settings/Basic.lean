import Diagnostics.Check.Field
import Diagnostics.Error
import Diagnostics.Files
import Diagnostics.Paint.Painter

/-!
Settings: whether to use colours and pictures, which files are reports, and the styles that differ
from the standard ones.
-/
namespace Diagnostics

/-- What a user may set. -/
structure Settings where
  /-- Whether to use colours; on terminals only, unless it is set. -/
  color : Option Bool
  emoji : Bool
  /-- The endings of the names of reports, in lower case and with a dot in front. -/
  extensions : List Text
  styles : List (Role × Text)
  deriving DecidableEq

namespace Settings

/-- What holds unless it is set otherwise. -/
def standard : Settings where
  color := none
  emoji := true
  extensions := [".sarif".toList]
  styles := []

/-- An ending of names as it is compared: without blanks around it, in lower case and with a dot in
front. Blanks alone are none. -/
def extension? (written : Text) : Option Text :=
  match Text.lower (Text.trim Text.isBlank written) with
  | [] => none
  | '.' :: rest => some ('.' :: rest)
  | letters => some ('.' :: letters)

/-- Endings of names. -/
def checkExtensions (value : Value) : Checked (List Text) :=
  (Check.list Check.text value).bind fun written =>
    match written.mapM extension? with
    | some extensions => .ok extensions
    | none => Check.fail (.rejected "SARIF extensions cannot be empty".toList)

/-- The names among some that no role has, in order. -/
def unknownRoles (names : List Text) : List Text :=
  (names.filter fun name => (Role.ofName? name).isNone).mergeSort fun a b => !b.lex a

def checkStyles (value : Value) : Checked (List (Role × Text)) :=
  (Check.mapping Check.text value).bind fun styles =>
    match unknownRoles (styles.map Prod.fst) with
    | [] => .ok (styles.filterMap fun entry => (Role.ofName? entry.1).map fun role => (role, entry.2))
    | unknown => Check.fail
        (.rejected ("unknown style roles: ".toList ++ Text.joinWith ", ".toList unknown))

def memberNames : List String := ["color", "emoji", "sarif_extensions", "styles"]

/-- Settings out of some members, of which none may be unknown. -/
def ofMembers (members : Members) : Checked Settings :=
  (Check.both (Check.defaulted members "color" none (Check.optional Check.flag))
    (Check.both (Check.defaulted members "emoji" true Check.flag)
      (Check.both
        (Check.defaulted members "sarif_extensions" standard.extensions checkExtensions)
        (Check.both (Check.defaulted members "styles" [] checkStyles)
          (Check.noOthers memberNames members))))).map
    fun (color, emoji, extensions, styles, _) => ⟨color, emoji, extensions, styles⟩

def colorValue (color : Option Bool) : Value := Value.ofOption .flag color

def extensionsValue (extensions : List Text) : Value := .list (extensions.map .text)

/-- Styles as a value, under the names of their roles. -/
def stylesValue (styles : List (Role × Text)) : Value :=
  .object (styles.map fun entry => (entry.1.name, .text entry.2))

/-- A value for a member, as it is kept. -/
def checkMember (name : Text) (value : Value) : Checked Value :=
  Check.inside (.member name)
    (if name = "color".toList then (Check.optional Check.flag value).map colorValue
    else if name = "emoji".toList then (Check.flag value).map .flag
    else if name = "sarif_extensions".toList then (checkExtensions value).map extensionsValue
    else if name = "styles".toList then (checkStyles value).map stylesValue
    else Check.fail (.unknownMember name))

/-- Whether to use colours, on a terminal or elsewhere. -/
def useColor (s : Settings) (terminal : Bool) : Bool := s.color.getD terminal

/-- A file is a report by the ending of its name, in any case. -/
def isReport (s : Settings) (path : Text) : Bool :=
  s.extensions.any fun extension => Text.endsIn (Text.lower (Path.ofText path).lastName) extension

def painting (s : Settings) : Styles := Styles.override s.styles

def toMembers (s : Settings) : Members :=
  [("color".toList, colorValue s.color), ("emoji".toList, .flag s.emoji),
   ("sarif_extensions".toList, extensionsValue s.extensions),
   ("styles".toList, stylesValue s.styles)]

end Settings
end Diagnostics
