import Octoscript.Lib.Debug
import Octoscript.Ui.Card

namespace Octoscript.Ui

/-- Where a value came from, with the source's own arguments resolved. The field is the path
within the source's result. -/
structure SourceBinding where
  helper : String
  args : List (String × String)
  field : Path
  deriving DecidableEq

/-- `str::parse::<u32>`. -/
def parseU32 (segment : String) : Option ℕ := (parseUsize segment).filter (· < 2 ^ 32)

namespace SourceBinding

def arg (binding : SourceBinding) (name : String) : Option String :=
  (binding.args.find? fun arg => arg.1 = name).map Prod.snd

/-- The row and the field of `<row>.<field>`. -/
def row (binding : SourceBinding) : Option (String × String) :=
  match binding.field with
  | index :: segment :: rest =>
    if (parseU32 index).isSome then some (index, Path.text (segment :: rest)) else none
  | _ => none

/-- A field without a row is one of row 0. -/
def rowOrFirst (binding : SourceBinding) : String × String :=
  binding.row.getD ("0", binding.field.text)

end SourceBinding

/-- The name a helper has for a field. -/
def keyOf (renamed : List (String × String)) (same : List String) (field : String) :
    Option String :=
  match renamed.find? fun entry => entry.1 = field with
  | some (_, key) => some key
  | none => if field ∈ same then some field else none

/-- `sys.<name>(<args>)`. -/
def sysCall (name : String) (args : List String) : String :=
  "sys." ++ name ++ "(" ++ ", ".intercalate args ++ ")"

/-- `via_string`: the coordinates of a list argument, concatenated by the call. -/
def viaString (joined : String) : Option String :=
  let parts := ((joined.toList.splitOn '\x01').filter (· ≠ [])).map String.ofList
  let rec pairs : List String → List String
    | lat :: lon :: rest => (" + " ++ lat ++ " + \",\" + " ++ lon) :: pairs rest
    | _ => []
  if parts.length < 2 ∨ parts.length % 2 ≠ 0 then none
  else some ("\"\"" ++ (" + \";\"").intercalate (pairs parts))

section
variable [F64Ops] [Unicode]

/-- An argument for a numeric position: a call that the lowering made, or a literal number. -/
def SourceBinding.num (binding : SourceBinding) (name : String) : Option String :=
  (binding.arg name).filter fun text =>
    decide ("sys.".toList <+: text.toList) || F64Ops.parses (Unicode.trim text)

open Debug (quoted)
open SourceBinding (row rowOrFirst)

def quoteFields : List (String × String) := [("last", "price"), ("pct", "changepct"),
  ("volume", "vol")]

def quoteSame : List String := ["name", "change", "changemoney", "high", "low", "open"]

def moverFields : List (String × String) :=
  ("ticker", "symbol") :: quoteFields ++ [("mktcap", "marketcap")]

def storyFields : List String := ["id", "title", "author", "points", "comments", "url"]

/-- The forecast: current readings, and daily ones by row. -/
def weatherCall (binding : SourceBinding) : Option String := do
  let lat ← binding.num "lat"
  let lon ← binding.num "lon"
  let (row, field) := binding.rowOrFirst
  let reading (path : String) := some (sysCall "weather" [lat, lon, quoted path])
  match field with
  | "temp" => reading "current.temperature_2m"
  | "feels" => reading "current.apparent_temperature"
  | "humidity" => reading "current.relative_humidity_2m"
  | "wind" => reading "current.wind_speed_10m"
  | "pressure" => reading "current.surface_pressure"
  | "hi" => reading ("daily.temperature_2m_max." ++ row)
  | "lo" => reading ("daily.temperature_2m_min." ++ row)
  | "uv" => reading ("daily.uv_index_max." ++ row)
  | "precip" => reading ("daily.precipitation_probability_max." ++ row)
  | "cond" => some (sysCall "weatherword" [lat, lon, quoted ("daily.weather_code." ++ row)])
  | "dayname" => some (sysCall "dayname" [lat, lon, row, "\"en\""])
  | "min_lo" => some (sysCall "weekmin" [lat, lon])
  | "max_hi" => some (sysCall "weekmax" [lat, lon])
  | _ => none

def daylightCall (binding : SourceBinding) : Option String := do
  let lat ← binding.num "lat"
  let lon ← binding.num "lon"
  match binding.field.text with
  | "rise" => some (sysCall "weather" [lat, lon, "\"daily.sunrise.0\""])
  | "set" => some (sysCall "weather" [lat, lon, "\"daily.sunset.0\""])
  | "now" => some (sysCall "daylight" [lat, lon])
  | _ => none

/-- The key of a trip's fact; the mode decides about the duration. -/
def routeKey (binding : SourceBinding) : Option String :=
  match binding.field.text with
  | "duration" =>
    let mode := Unicode.trim ((binding.arg "mode").getD "")
    some (if mode = "walk" then "walk" else if mode = "bike" then "bike" else "min")
  | "distance" => some "km"
  | _ => none

def routeCall (binding : SourceBinding) : Option String := do
  let key ← routeKey binding
  let fromLat ← binding.num "from_lat"
  let fromLon ← binding.num "from_lon"
  let toLat ← binding.num "to_lat"
  let toLon ← binding.num "to_lon"
  let via := (viaString ((binding.arg "via").getD "")).toList
  return sysCall "navroute" ([fromLat, fromLon, toLat, toLon, quoted key] ++ via)

def stepCall (binding : SourceBinding) : Option String := do
  let key ← keyOf [("instruction", "instr"), ("remaining", "rem"), ("eta", "remmin")] ["progress"]
    binding.field.text
  let fromLat ← binding.num "from_lat"
  let fromLon ← binding.num "from_lon"
  let toLat ← binding.num "to_lat"
  let toLon ← binding.num "to_lon"
  let atLat ← binding.num "at_lat"
  let atLon ← binding.num "at_lon"
  let along := sysCall "navprog" [fromLat, fromLon, toLat, toLon, atLat, atLon]
  return if key = "progress" then along
    else sysCall "navstep" [fromLat, fromLon, toLat, toLon, along, quoted key]

/-- A word or a number of a place, by name or by a search and a row. -/
def placeCall (words numbers : String) (wordFields : List String) (field : String)
    (args : List String) : Option String :=
  if field = "lat" ∨ field = "lon" then some (sysCall numbers (args ++ [quoted field]))
  else if field ∈ wordFields then some (sysCall words (args ++ [quoted field]))
  else none

def placesCall (binding : SourceBinding) : Option String := do
  let (index, field) ← binding.row
  let lat ← binding.num "lat"
  let lon ← binding.num "lon"
  let key ← keyOf [("distance", "dist")] ["name", "lat", "lon", "category"] field
  return sysCall "places"
    [lat, lon, quoted ((binding.arg "category").getD ""), index, quoted key]

/-- The rows of the feed below the lead. -/
def newsCall (binding : SourceBinding) : Option String := do
  let (index, field) ← binding.row
  let row ← parseU32 index
  let offset := ((binding.arg "offset").bind parseU32).getD 0
  let key ← keyOf [] ["comments", "title", "url", "author", "points", "id"] field
  return sysCall "news" [toString ((row + offset) % 2 ^ 32), quoted key]

/-- A row of a collection whose fields are named by a table. -/
def rowCall (name : String) (renamed : List (String × String)) (same : List String)
    (binding : SourceBinding) : Option String := do
  let (index, field) ← binding.row
  let key ← keyOf renamed same field
  return sysCall name [index, quoted key]

/-- A row of the results of a query. -/
def queryRowCall (name : String) (renamed : List (String × String)) (same : List String)
    (binding : SourceBinding) : Option String := do
  let (index, field) ← binding.row
  let key ← keyOf renamed same field
  let query ← binding.arg "query"
  return sysCall name [quoted query, index, quoted key]

/-- One country's reading; a field without a row is one of row 0. -/
def indicatorCall (binding : SourceBinding) : Option String := do
  let (index, field) := match binding.field with
    | index :: segment :: rest => (index, Path.text (segment :: rest))
    | field => ("0", Path.text field)
  let _ ← parseU32 index
  let key ← keyOf [] ["name", "latest", "first", "change", "min", "max", "year", "title"] field
  let countries ← binding.arg "countries"
  let indicator ← binding.arg "indicator"
  let years := (binding.arg "years").getD "30"
  return sysCall "indicator" [quoted countries, quoted indicator, years, index, quoted key]

/-- `vm_call`. -/
def vmCall (binding : SourceBinding) : Option String :=
  let field := binding.field.text
  match binding.helper with
  | "sys.locale" => (keyOf [] ["lang", "temp_unit"] field).map fun key =>
      sysCall "locale" [quoted key]
  | "sys.news_item" => do
    let id ← binding.arg "id"
    let key ← keyOf [] storyFields field
    return sysCall "newsitem" [id, quoted key]
  | "sys.prefs" => (keyOf [] ["units", "range", "home", "work", "mode"] field).map fun key =>
      sysCall "prefs" [quoted key]
  | "sys.series" => do
    let ticker ← binding.arg "ticker"
    let range := (binding.arg "range").getD "\"d1\""
    let key ← keyOf [("min", "low"), ("max", "high")] [] field
    return sysCall "stockrange" [ticker, range, quoted key]
  | "sys.quote" => do
    let symbol ← binding.arg "ticker"
    let key ← keyOf quoteFields quoteSame field
    return sysCall "stock" [quoted symbol, quoted key]
  | "sys.geocode" => do
    let name ← binding.arg "name"
    placeCall "geocode" "geocodenum" ["name", "country", "admin1", "timezone"] field [quoted name]
  | "sys.weather" => weatherCall binding
  | "sys.daylight" => daylightCall binding
  | "sys.moonphase" => (keyOf [("illumination", "illum")] ["name", "phase"] field).map fun key =>
      sysCall "moonphase" [quoted key]
  | "sys.airquality" => do
    let lat ← binding.num "lat"
    let lon ← binding.num "lon"
    let path ← keyOf [("aqi", "current.us_aqi"), ("pm25", "current.pm2_5"),
      ("pm10", "current.pm10"), ("ozone", "current.ozone")] [] field
    return sysCall "airquality" [lat, lon, quoted path]
  | "sys.news" => newsCall binding
  | "sys.photo" => (binding.arg "query").map fun query => sysCall "photo" [quoted query]
  | "sys.route" => routeCall binding
  | "sys.step" => stepCall binding
  | "sys.gps" => (keyOf [("accuracy", "acc")] ["lat", "lon", "ok"] field).map fun key =>
      sysCall "gps" [quoted key]
  | "sys.search" => do
    let (index, field) := binding.rowOrFirst
    let query ← binding.arg "query"
    placeCall "search" "searchnum" ["name", "label", "query"] field [quoted query, index]
  | "sys.places" => placesCall binding
  | "sys.movers" => do
    let (index, field) ← binding.row
    let key ← keyOf moverFields quoteSame field
    return sysCall "movers" [index, quoted key, quoted ((binding.arg "symbols").getD "")]
  | "sys.watchlist" =>
    if field = "has" then (binding.arg "ticker").map fun ticker => sysCall "watchlist_has" [ticker]
    else rowCall "watchlist" moverFields quoteSame binding
  | "sys.reading" => rowCall "reading" [] storyFields binding
  | "sys.video" => queryRowCall "video" []
      ["id", "title", "channel", "length", "views", "age", "thumb", "embed"] binding
  | "sys.indicator" => indicatorCall binding
  | "sys.link" => (keyOf [] ["url"] field).map fun key => sysCall "link" [quoted key]
  | "sys.topics" => rowCall "topics" [] ["name", "top_title", "top_points", "top_id"] binding
  | "sys.cities" => rowCall "cities" [] ["name", "lat", "lon", "temp", "feels", "hi", "lo", "cond",
      "humidity", "wind"] binding
  | "sys.symbol_search" => queryRowCall "symbol_search" [("ticker", "symbol")]
      ["name", "exchange", "kind"] binding
  | _ => none

end

end Octoscript.Ui
