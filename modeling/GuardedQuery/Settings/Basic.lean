import GuardedQuery.Allowlist.Basic
import GuardedQuery.Batch.Limits
import GuardedQuery.Batch.Recipe
import GuardedQuery.Database.PoolOptions
import GuardedQuery.Settings.Layer

/-!
# Settings

The settings of a server: where it listens, its database, what it logs, the allowlist, the batch
recipes and the page limits. They are read from a file and from environment variables, and checked
before the server starts (`Settings.check`).
-/

namespace GuardedQuery

open Decode

/-- How the server listens and answers. -/
structure ServerSettings where
  address : String
  /-- Responses show the SQL text. -/
  exposesSql : Bool
  deriving DecidableEq, Repr

namespace ServerSettings

def standard : ServerSettings := ⟨"127.0.0.1:8087", true⟩

def shape : Shape (String × Bool × Unit) (Option String × Option Bool × Unit) :=
  .field (defaulted "bind_addr" string standard.address) <|
    .field (defaulted "expose_sql" bool standard.exposesSql) .done

def decoder : Decoder ServerSettings :=
  convert (fun (address, exposesSql, ()) => ⟨address, exposesSql⟩) (record "ServerConfig" shape)

def toJson (s : ServerSettings) : Json :=
  .ofMembers [("bind_addr", .string s.address), ("expose_sql", .bool s.exposesSql)]

end ServerSettings

/-- The database and its pool of connections. -/
structure DatabaseSettings where
  url : String
  pool : PoolOptions
  deriving DecidableEq, Repr

namespace DatabaseSettings

def shape : Shape (String × PoolOptions × Unit) (Option String × Option PoolOptions × Unit) :=
  .field (required "dsn" string) <| .field (defaulted "pool" PoolOptions.decoder .none) .done

def decoder : Decoder DatabaseSettings :=
  convert (fun (url, pool, ()) => ⟨url, pool⟩) (record "DatabaseConfig" shape)

def toJson (s : DatabaseSettings) : Json :=
  .ofMembers [("dsn", .string s.url), ("pool", s.pool.toJson)]

end DatabaseSettings

/-- What is logged, and how. -/
structure LoggingSettings where
  level : String
  json : Bool
  deriving DecidableEq, Repr

namespace LoggingSettings

def standard : LoggingSettings := ⟨"info", false⟩

def shape : Shape (String × Bool × Unit) (Option String × Option Bool × Unit) :=
  .field (defaulted "level" string standard.level) <|
    .field (defaulted "json" bool standard.json) .done

def decoder : Decoder LoggingSettings :=
  convert (fun (level, json, ()) => ⟨level, json⟩) (record "LoggingConfig" shape)

def toJson (s : LoggingSettings) : Json :=
  .ofMembers [("level", .string s.level), ("json", .bool s.json)]

end LoggingSettings

/-- The settings of a server. -/
structure Settings where
  server : ServerSettings
  database : DatabaseSettings
  logging : LoggingSettings
  allowlist : Allowlist
  recipes : Keyed Recipe
  limits : PageLimits

/-- Why settings are refused. -/
inductive SettingsError where
  | missingFile (path : String)
  | invalid (e : DecodeError)
  | zeroLimit
  | limitTooLarge
  | unknownView (recipe view : String)
  | unknownChildTable (recipe table : String)
  deriving DecidableEq, Repr

def SettingsError.message : SettingsError → String
  | .missingFile path => "config file " ++ path ++ " not found"
  | .invalid e => e.cause.settingsText
  | .zeroLimit => "limits.default must be positive"
  | .limitTooLarge => "limits.default exceeds limits.max"
  | .unknownView recipe view =>
    "batch recipe " ++ tick recipe ++ " uses view " ++ tick view ++ " which is not allowlisted"
  | .unknownChildTable recipe table =>
    "batch recipe " ++ tick recipe ++ " uses child table " ++ tick table ++
      " which is not allowlisted"

namespace Settings

/-! ## JSON form -/

def shape :
    Shape
      (ServerSettings × DatabaseSettings × LoggingSettings × Allowlist × Keyed Recipe × PageLimits ×
        Unit)
      (Option ServerSettings × Option DatabaseSettings × Option LoggingSettings × Option Allowlist ×
        Option (Keyed Recipe) × Option PageLimits × Unit) :=
  .field (defaulted "server" ServerSettings.decoder .standard) <|
    .field (required "database" DatabaseSettings.decoder) <|
      .field (defaulted "logging" LoggingSettings.decoder .standard) <|
        .field (required "query" Allowlist.decoder) <|
          .field (defaulted "batch" (keyed Recipe.decoder) .empty) <|
            .field (defaulted "limits" PageLimits.decoder .standard) .done

def decoder : Decoder Settings :=
  convert (fun (server, database, logging, allowlist, recipes, limits, ()) =>
      ⟨server, database, logging, allowlist, recipes, limits⟩)
    (record "AppConfig" shape)

def toJson (s : Settings) : Json :=
  .ofMembers
    [("server", s.server.toJson), ("database", s.database.toJson), ("logging", s.logging.toJson),
     ("query", s.allowlist.toJson), ("batch", .ofKeyed (s.recipes.map fun _ r => r.toJson)),
     ("limits", s.limits.toJson)]

/-! ## Checks -/

/-- The tables of every recipe are allowlisted. -/
def checkRecipes (a : Allowlist) : List (String × Recipe) → Except SettingsError Unit
  | [] => .ok ()
  | (name, r) :: rest =>
    if (a.columns? r.view).isNone then .error (.unknownView name r.view)
    else if (a.columns? r.children.table).isNone then
      .error (.unknownChildTable name r.children.table)
    else checkRecipes a rest

/-- The limits are sound, and then the recipes in order of their names. -/
def check (s : Settings) : Except SettingsError Unit :=
  if s.limits.usual = 0 then .error .zeroLimit
  else if s.limits.greatest < s.limits.usual then .error .limitTooLarge
  else checkRecipes s.allowlist s.recipes.pairs

/-- A file holds a table; no file is the same as an empty one. -/
def tableOf : Option Document → Except DecodeError Document
  | none => .ok (.object [])
  | some (.object members) => .ok (.object members)
  | some d => mismatch d "a map"

/-- Decodes the settings of a file, with environment variables on top. -/
def decodeLayers (file : Option Document) (environment : List (String × String)) :
    Except DecodeError Settings :=
  match tableOf file with
  | .error e => .error e
  | .ok d => decoder .settings (d.layered environment)

/-- Reads and checks the settings of a file, if there is one, with environment variables on top. -/
def load (file : Option Document) (environment : List (String × String)) :
    Except SettingsError Settings :=
  match decodeLayers file environment with
  | .error e => .error (.invalid e)
  | .ok s => s.check.map fun () => s

end Settings

end GuardedQuery
