import CatalogSearch.Number.Literal
import CatalogSearch.Text.LowerCase

/-!
# Settings

Every setting has a default and may be given as the text of a variable.
-/

namespace CatalogSearch

structure Settings where
  catalogPath : String := "data/products.json"
  catalogSourceUrl : String := ""
  pageSize : Int := 20
  maxPageSize : Int := 100
  fuzzyThreshold : Binary64 := .ofQuotient false 4 10
  applySortIntent : Bool := true
  redisHost : String := "localhost"
  redisPort : Int := 6379
  redisTimeout : Binary64 := .ofQuotient false 1 2
  cacheTtl : Int := 300
  cacheMaxEntries : Int := 1024
  cacheEnabled : Bool := true
  loadOnStartup : Bool := true
  logLevel : String := "INFO"
  deriving DecidableEq, Repr, Inhabited

namespace Settings

def redisAddress (settings : Settings) : String :=
  s!"{settings.redisHost}:{settings.redisPort}"

abbrev Variables := List (String × String)

def names : List String := [
  "CATALOG_PATH", "CATALOG_SOURCE_URL", "PAGE_SIZE", "MAX_PAGE_SIZE", "FUZZY_THRESHOLD",
  "APPLY_SORT_INTENT", "REDIS_HOST", "REDIS_PORT", "REDIS_TIMEOUT_SECONDS", "CACHE_TTL_SECONDS",
  "CACHE_MAX_ENTRIES", "CACHE_ENABLED", "LOAD_ON_STARTUP", "LOG_LEVEL"]

def textOf (given : Variables) (name default : String) : String :=
  (given.lookup name).getD default

def integerOf (given : Variables) (name : String) (default : Int) : Except NumberError Int :=
  match given.lookup name with
  | some text => readInteger text
  | none => .ok default

def numberOf (given : Variables) (name : String) (default : Binary64) :
    Except NumberError Binary64 :=
  match given.lookup name with
  | some text => readNumber text
  | none => .ok default

def isYes (text : String) : Bool :=
  ["1", "true", "yes"].contains (String.ofList (Text.lower text.toList))

def flagOf (given : Variables) (name : String) (default : Bool) : Bool :=
  match given.lookup name with
  | some text => isYes text
  | none => default

/-- The settings that variables give; the first one at fault is reported. -/
def ofVariables (given : Variables) : Except NumberError Settings := do
  let pageSize ← integerOf given "PAGE_SIZE" 20
  let maxPageSize ← integerOf given "MAX_PAGE_SIZE" 100
  let fuzzyThreshold ← numberOf given "FUZZY_THRESHOLD" (.ofQuotient false 4 10)
  let redisPort ← integerOf given "REDIS_PORT" 6379
  let redisTimeout ← numberOf given "REDIS_TIMEOUT_SECONDS" (.ofQuotient false 1 2)
  let cacheTtl ← integerOf given "CACHE_TTL_SECONDS" 300
  let cacheMaxEntries ← integerOf given "CACHE_MAX_ENTRIES" 1024
  pure {
    catalogPath := textOf given "CATALOG_PATH" "data/products.json"
    catalogSourceUrl := textOf given "CATALOG_SOURCE_URL" ""
    pageSize := pageSize
    maxPageSize := maxPageSize
    fuzzyThreshold := fuzzyThreshold
    applySortIntent := flagOf given "APPLY_SORT_INTENT" true
    redisHost := textOf given "REDIS_HOST" "localhost"
    redisPort := redisPort
    redisTimeout := redisTimeout
    cacheTtl := cacheTtl
    cacheMaxEntries := cacheMaxEntries
    cacheEnabled := flagOf given "CACHE_ENABLED" true
    loadOnStartup := flagOf given "LOAD_ON_STARTUP" true
    logLevel := textOf given "LOG_LEVEL" "INFO"
  }

end Settings

end CatalogSearch
