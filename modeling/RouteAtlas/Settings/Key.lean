import RouteAtlas.Text.Basic

namespace RouteAtlas

inductive SettingKey where
  | format
  | quiet
  | includeTests
  | wanted
  | unwanted
  | frameworks
  | debounce
deriving DecidableEq, Repr

namespace SettingKey

def all : List SettingKey :=
  [.format, .quiet, .includeTests, .wanted, .unwanted, .frameworks, .debounce]

def name : SettingKey → Text
  | .format => "defaults.format"
  | .quiet => "defaults.quiet"
  | .includeTests => "defaults.include_tests"
  | .wanted => "targeting.include"
  | .unwanted => "targeting.exclude"
  | .frameworks => "frameworks.enabled"
  | .debounce => "watch.debounce_ms"

def environmentName : SettingKey → Text
  | .format => "ROUTESCAN_FORMAT"
  | .quiet => "ROUTESCAN_QUIET"
  | .includeTests => "ROUTESCAN_INCLUDE_TESTS"
  | .wanted => "ROUTESCAN_INCLUDE"
  | .unwanted => "ROUTESCAN_EXCLUDE"
  | .frameworks => "ROUTESCAN_FRAMEWORKS"
  | .debounce => "ROUTESCAN_DEBOUNCE_MS"

def flag : SettingKey → Text
  | .format => "--format"
  | .quiet => "--quiet"
  | .includeTests => "--include-tests"
  | .wanted => "--include"
  | .unwanted => "--exclude"
  | .frameworks => "--framework"
  | .debounce => "--debounce-ms"

def ofName? (name : Text) : Option SettingKey := all.find? (·.name == name)

end SettingKey

end RouteAtlas
