import Octoscript.Ui.Card

namespace Octoscript.Ui.Catalog

inductive ArgKind
  | token (set : List String)
  | tokenOrPath (set : List String)
  | path
  | any
  | event
  | number
  | data
  | text
  | bool
  deriving DecidableEq

def unit : List String := ["c", "f", "pct", "speed", "pressure", "distance", "money", "duration"]

def format : List String := ["money", "signed_money", "signed_pct", "compact", "ratio", "time",
  "date"]

def width : List String := ["fill", "fit", "day", "rank", "temp", "label"]

def mapMode : List String := ["plan", "drive", "flat"]

def mapView : List String := ["flat", "tilted"]

def dock : List String := ["top", "bottom", "right"]

def controls : List String := ["none", "zoom", "all"]

def tone : List String := ["normal", "primary", "danger"]

def align : List String := ["start", "center", "end", "baseline"]

def pad : List String := ["page", "tight", "none"]

def iconSize : List String := ["hero", "row", "tile"]

abbrev Args := List (String × ArgKind)

def constructors : List (String × Args) := [
  ("Surface", [("pad", .token pad)]),
  ("Photo", [("src", .path), ("pad", .token pad)]),
  ("Thumb", [("src", .path)]),
  ("Map", [("mode", .token mapMode), ("from", .path), ("to", .path), ("via", .path),
      ("via2", .path), ("at", .path), ("view", .tokenOrPath mapView), ("zoom", .number),
      ("controls", .token controls), ("summary", .path), ("from_lat", .data), ("from_lon", .data)]),
  ("Field", [("text", .path), ("placeholder", .data), ("on_commit", .event),
      ("on_change", .event), ("width", .tokenOrPath width)]),
  ("Panel", [("dock", .token dock)]),
  ("Reveal", []),
  ("Card", [("on_tap", .event), ("value", .any)]),
  ("Col", [("align", .token align), ("gap", .number), ("width", .tokenOrPath width)]),
  ("Row", [("width", .tokenOrPath width), ("align", .token align), ("gap", .number),
      ("on_tap", .event), ("value", .any)]),
  ("Grid", [("cols", .number)]),
  ("Rule", []),
  ("TextHero", [("text", .text), ("value", .data), ("unit", .tokenOrPath unit),
      ("format", .token format), ("on_tap", .event)]),
  ("TextTitle", [("text", .text), ("width", .tokenOrPath width)]),
  ("TextBody", [("text", .text), ("width", .tokenOrPath width)]),
  ("TextStat", [("value", .data), ("format", .token format), ("tint", .path)]),
  ("TextRow", [("text", .text), ("width", .tokenOrPath width)]),
  ("TextCaption", [("text", .text), ("value", .data), ("glyph", .text), ("suffix", .text),
      ("unit", .tokenOrPath unit), ("width", .tokenOrPath width)]),
  ("TextValue", [("value", .data), ("unit", .tokenOrPath unit), ("format", .token format),
      ("tint", .path)]),
  ("Tile", [("label", .text), ("value", .data), ("unit", .tokenOrPath unit),
      ("format", .token format)]),
  ("Chip", [("text", .text), ("on_tap", .event), ("value", .any), ("active", .bool),
      ("tone", .token tone), ("width", .token width)]),
  ("WeatherIcon", [("cond", .path), ("size", .token iconSize)]),
  ("TempBar", [("lo", .path), ("hi", .path), ("min", .path), ("max", .path)]),
  ("SunArc", [("rise", .path), ("set", .path), ("now", .path)]),
  ("MoonPhase", [("phase", .path), ("illum", .path)]),
  ("AqiContour", [("lat", .path), ("lon", .path), ("span", .number)]),
  ("Satellite", [("lat", .path), ("lon", .path)]),
  ("StockPlot", [("symbol", .path), ("range", .tokenOrPath unit)]),
  ("IndicatorPlot", [("countries", .path), ("indicator", .path), ("years", .path)])]

def sources : List (String × List String) := [
  ("sys.geocode", ["name"]),
  ("sys.weather", ["lat", "lon", "days", "fields", "aggregate"]),
  ("sys.daylight", ["lat", "lon"]),
  ("sys.airquality", ["lat", "lon"]),
  ("sys.moonphase", ["lat", "lon"]),
  ("sys.photo", ["query"]),
  ("sys.locale", []),
  ("sys.gps", []),
  ("sys.search", ["query", "count", "fields"]),
  ("sys.route", ["from_lat", "from_lon", "to_lat", "to_lon", "via", "mode", "fields"]),
  ("sys.step", ["from_lat", "from_lon", "to_lat", "to_lon", "at_lat", "at_lon", "fields"]),
  ("sys.places", ["lat", "lon", "category", "count", "fields"]),
  ("sys.news", ["count", "offset", "fields"]),
  ("sys.news_item", ["id", "fields"]),
  ("sys.movers", ["count", "fields", "symbols"]),
  ("sys.quote", ["ticker", "fields"]),
  ("sys.series", ["ticker", "range", "points", "fields", "aggregate"]),
  ("sys.watchlist", ["ticker", "fields"]),
  ("sys.indicator", ["countries", "indicator", "years", "fields"]),
  ("sys.video", ["query", "count", "fields"]),
  ("sys.prefs", ["fields"]),
  ("sys.reading", ["fields"]),
  ("sys.topics", ["fields"]),
  ("sys.link", ["fields"]),
  ("sys.symbol_search", ["query", "count", "fields"]),
  ("sys.cities", ["fields"])]

def answerTable : List (String × List String) := [
  ("sys.geocode", ["lat", "lon", "name", "country", "admin1", "timezone", "population"]),
  ("sys.weather", ["temp", "feels", "hi", "lo", "cond", "humidity", "wind", "pressure", "uv",
      "visibility", "precip", "dayname", "days"]),
  ("sys.daylight", ["rise", "set", "now"]),
  ("sys.airquality", ["aqi", "pm25", "pm10", "ozone"]),
  ("sys.moonphase", ["phase", "illumination", "name"]),
  ("sys.photo", []),
  ("sys.locale", ["lang", "temp_unit"]),
  ("sys.gps", ["lat", "lon", "accuracy", "ok"]),
  ("sys.search", ["id", "name", "label", "query", "lat", "lon", "distance"]),
  ("sys.route", ["duration", "distance", "steps"]),
  ("sys.step", ["instruction", "remaining", "progress", "eta"]),
  ("sys.places", ["id", "name", "distance", "lat", "lon", "category"]),
  ("sys.news", ["id", "title", "author", "points", "comments", "url"]),
  ("sys.news_item", ["id", "title", "author", "points", "comments", "url"]),
  ("sys.movers", ["ticker", "name", "last", "change", "pct", "open", "high", "low", "prev",
      "volume", "mktcap", "pe", "currency", "exchange"]),
  ("sys.quote", ["ticker", "name", "last", "change", "pct", "open", "high", "low", "prev",
      "volume", "mktcap", "pe", "currency", "exchange"]),
  ("sys.series", ["min", "max"]),
  ("sys.watchlist", ["ticker", "name", "last", "change", "pct", "open", "high", "low", "prev",
      "volume", "mktcap", "pe", "currency", "exchange", "has"]),
  ("sys.indicator", ["name", "latest", "first", "change", "min", "max", "year", "title"]),
  ("sys.video", ["id", "title", "channel", "length", "views", "age", "thumb", "embed"]),
  ("sys.prefs", ["units", "range", "home", "work", "mode"]),
  ("sys.reading", ["id", "title", "author", "points", "comments", "url"]),
  ("sys.topics", ["name", "top_title", "top_points", "top_id"]),
  ("sys.link", ["url"]),
  ("sys.symbol_search", ["ticker", "name", "exchange", "kind"]),
  ("sys.cities", ["name", "lat", "lon", "temp", "feels", "hi", "lo", "cond", "humidity", "wind"])]

def aggregateTable : List (String × List String) := [
  ("sys.weather", ["min_lo", "max_hi"]),
  ("sys.series", ["min", "max"])]

def mutableTable : List (String × List String) := [
  ("sys.watchlist", ["append", "remove"]),
  ("sys.cities", ["append", "remove"]),
  ("sys.prefs", ["set", "clear"]),
  ("sys.reading", ["append", "remove"]),
  ("sys.topics", ["append", "remove"]),
  ("sys.link", ["set", "clear"])]

def lookup (name : String) : Option Args :=
  (constructors.find? fun entry => entry.1 = name).map Prod.snd

/-- What a constructor's argument admits. -/
def argKind (constructor arg : String) : Option ArgKind :=
  (lookup constructor).bind fun args => (args.find? fun entry => entry.1 = arg).map Prod.snd

def source (name : String) : Option (List String) :=
  (sources.find? fun entry => entry.1 = name).map Prod.snd

def answers (name : String) : Option (List String) :=
  (answerTable.find? fun entry => entry.1 = name).map Prod.snd

def aggregates (name : String) : List String :=
  ((aggregateTable.find? fun entry => entry.1 = name).map Prod.snd).getD []

def mutable (name : String) : Option (List String) :=
  (mutableTable.find? fun entry => entry.1 = name).map Prod.snd

end Octoscript.Ui.Catalog
