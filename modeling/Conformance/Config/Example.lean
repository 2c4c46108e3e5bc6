/-!
The configuration file that is written for a start. It holds the defaults.
-/

namespace Conformance.Config

def exampleLines : List String := [
  "# gatecheck configuration",
  "#",
  "# Every value can be overridden with GATECHECK_* environment variables",
  "# or command-line flags.",
  "",
  "[target]",
  "# Gateway under test",
  "scheme = \"http\"",
  "host = \"localhost\"",
  "port = 11435",
  "# Key issued by the gateway; sent as bearer token, x-api-key or ?key=",
  "api_key = \"\"",
  "# Per-request timeout in seconds",
  "timeout_seconds = 30",
  "",
  "[models]",
  "# These aliases must be configured in the gateway",
  "default = \"code-small\"",
  "switch = \"claude-haiku-4.5\"",
  "group_name = \"glm\"",
  "group = \"claude-haiku-4.5\"",
  "embed = \"embed\"",
  "",
  "[matrix]",
  "# When true, text requests on compat routes must also return a tool call",
  "strict_compat = false",
  "",
  "[logging]",
  "level = \"warn\"",
  "format = \"pretty\"",
  "# Response characters attached to the debug log of a failed case",
  "failure_body_chars = 200",
  "",
  "# [logging.component_levels]",
  "# transport = \"debug\"",
  "# matrix = \"info\""]

def exampleText : String :=
  String.join (exampleLines.map (· ++ "\n"))

end Conformance.Config
