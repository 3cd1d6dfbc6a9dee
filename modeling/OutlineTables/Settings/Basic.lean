import OutlineTables.Disk.Path
import OutlineTables.Options.Basic
import OutlineTables.Sql.Literal

/-!
Settings of an installation: where its files are, and where its rows go.
-/
namespace OutlineTables

structure Settings where
  home : Path
  /-- What a sync works on if it is given no paths. -/
  outlines : List Path := []
  dialect : Dialect := .sqlite
  databaseUrl : Option Text := none
  logLevel : Text := "WARNING".toList
  options : Options := .default
deriving DecidableEq, Repr

/-- Where settings come from. -/
inductive SettingsOrigin where
  | environment
  | file
deriving DecidableEq, Repr

/-- Why there are no settings, or no database to them. -/
inductive SettingsFault where
  | notJson (field : String) (origin : SettingsOrigin)
  | mistakes (count : Nat)
  | noUrl
deriving DecidableEq, Repr

def SettingsOrigin.name : SettingsOrigin → String
  | environment => "EnvSettingsSource"
  | file => "DotEnvSettingsSource"

def SettingsFault.message : SettingsFault → Text
  | notJson field origin =>
    ("error parsing value for field \"" ++ field ++ "\" from source \"" ++ origin.name ++
      "\"").toList
  | mistakes n =>
    Text.ofNat n ++ (if n = 1 then " validation error" else " validation errors").toList ++
      " for OrgSqlConfig".toList
  | noUrl => "database_url is required for the postgres backend".toList

namespace Settings

def dataFolder (s : Settings) : Path := s.home ++ ["data".toList]

/-- The file of the database, unless a URL names another. -/
def databasePath (s : Settings) : Path := s.dataFolder ++ ["org-sql.db".toList]

def urlStart : Text := "sqlite+aiosqlite:///".toList

/-- The URL of the database; an empty one counts as none. -/
def url (s : Settings) : Except SettingsFault Text :=
  match s.databaseUrl, s.dialect with
  | some (c :: cs), _ => .ok (c :: cs)
  | _, .sqlite => .ok (urlStart ++ s.databasePath.toText)
  | _, .postgres => .error .noUrl

end Settings

end OutlineTables
