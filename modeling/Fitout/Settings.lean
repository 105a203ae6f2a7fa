import Fitout.Pricing.Coefficient
import Fitout.Schema.Scalar

/-!
The settings of a running service, read from the variables of its environment.
-/

namespace Fitout

structure Settings where
  serverUrl : String := "https://dev.api.inspireforge.ru/api"
  serverToken : Option String := none
  serverTimeout : Float := 10
  failureThreshold : Int := 5
  recoveryTimeout : Float := 30
  /-- The address of the cache, or nothing for no cache. -/
  cacheUrl : String := ""
  cacheTtl : Int := 300
  primaryName : String := "Первичный рынок"
  secondaryName : String := "Вторичный рынок"
  sessionTtl : Int := 3600
  logLevel : String := "INFO"
  logFormat : String := "json"
  host : String := "0.0.0.0"
  listenPort : Int := 8000
  /-- Addresses, separated by commas, that may call the service from a browser. -/
  allowedOrigins : String := "*"

namespace Settings

open Schema

/-- The settings that an object gives, the others being the usual ones. -/
def ofMembers (ms : List (String × Json)) : Reading Settings :=
  let usual : Settings := {}
  Settings.mk <$> fieldOr ms "catalog_api_url" usual.serverUrl text
    <*> fieldOr ms "catalog_api_token" usual.serverToken (nullable text)
    <*> fieldOr ms "catalog_api_timeout_seconds" usual.serverTimeout real
    <*> fieldOr ms "circuit_failure_threshold" usual.failureThreshold whole
    <*> fieldOr ms "circuit_recovery_timeout_seconds" usual.recoveryTimeout real
    <*> fieldOr ms "redis_url" usual.cacheUrl text
    <*> fieldOr ms "catalog_cache_ttl_seconds" usual.cacheTtl whole
    <*> fieldOr ms "primary_market_coefficient_name" usual.primaryName text
    <*> fieldOr ms "secondary_market_coefficient_name" usual.secondaryName text
    <*> fieldOr ms "session_ttl_seconds" usual.sessionTtl whole
    <*> fieldOr ms "log_level" usual.logLevel text
    <*> fieldOr ms "log_format" usual.logFormat text
    <*> fieldOr ms "host" usual.host text
    <*> fieldOr ms "port" usual.listenPort whole
    <*> fieldOr ms "cors_origins" usual.allowedOrigins text

/-- The Kelvin sign, the only character besides the letters of ASCII whose lower case is one. -/
def kelvinSign : Char :=
  Char.ofNat 0x212A

/-- The name of a variable in lower case, in so far as it can name a setting. -/
def lowerName (name : String) : String :=
  String.ofList (name.toList.map fun c => if c == kelvinSign then 'k' else c.toLower)

/-- Read variables, whose names count in any case; of several with one name the last counts. -/
def ofEnvironment (pairs : List (String × String)) : Reading Settings :=
  ofMembers (pairs.reverse.map fun (name, value) => (lowerName name, .text value))

def marketNames (s : Settings) : Pricing.MarketNames :=
  ⟨some s.primaryName, some s.secondaryName⟩

/-- The addresses listed, without those that are blank. -/
def origins (s : Settings) : List String :=
  ((s.allowedOrigins.splitOn ",").map Text.trimGaps).filter (!·.isEmpty)

def toJson (s : Settings) : Json :=
  .object [("catalog_api_url", .text s.serverUrl),
    ("catalog_api_token", .ofOption .text s.serverToken),
    ("catalog_api_timeout_seconds", .real s.serverTimeout),
    ("circuit_failure_threshold", .whole s.failureThreshold),
    ("circuit_recovery_timeout_seconds", .real s.recoveryTimeout),
    ("redis_url", .text s.cacheUrl),
    ("catalog_cache_ttl_seconds", .whole s.cacheTtl),
    ("primary_market_coefficient_name", .text s.primaryName),
    ("secondary_market_coefficient_name", .text s.secondaryName),
    ("session_ttl_seconds", .whole s.sessionTtl),
    ("log_level", .text s.logLevel),
    ("log_format", .text s.logFormat),
    ("host", .text s.host),
    ("port", .whole s.listenPort),
    ("cors_origins", .text s.allowedOrigins)]

def names : List String :=
  match ({} : Settings).toJson with
  | .object ms => ms.map fun (name, _) => name
  | _ => []

/-- Settings given as members, whose names count in any case. Of several with one name the last
counts, where the name itself comes before its other spellings. -/
def ofOverrides (ms : List (String × Json)) : Reading Settings :=
  let (plain, others) := ms.partition fun (name, _) => names.contains name
  ofMembers ((plain ++ others).reverse.map fun (name, value) => (lowerName name, value))

end Settings

end Fitout
