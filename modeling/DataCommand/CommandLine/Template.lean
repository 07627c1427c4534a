import DataCommand.Text.Join

/-!
The template of a command file: each field with its choices, and an example of each kind of entry.
-/

namespace DataCommand.CommandLine

/-- The lines of the template. -/
def templateLines : List String := [
  "# Dialect to render for; \x60--dialect\x60 on the command line wins.",
  "# standard | mysql | postgres | oracle | mongo | elastic6 | elastic7",
  "dialect = \x22postgres\x22",
  "",
  "# Quote every identifier, not just reserved words.",
  "quote = false",
  "",
  "# select | insert | update | delete",
  "operation = \x22select\x22",
  "",
  "# UPDATE/DELETE refuse to run without a [[where]] unless this is true.",
  "allow_empty_filter = false",
  "",
  "# Insert conflict handling: into | ignore | update.",
  "# Falls back to a plain insert when the dialect cannot express it.",
  "conflict = \x22into\x22",
  "primary_key = [\x22id\x22]",
  "",
  "# Wrap the SELECT into a row count.",
  "count = false",
  "",
  "[target]",
  "table = \x22users\x22",
  "# schema = \x22$\x7bAPP_SCHEMA\x7d\x22",
  "# catalog = \x22app\x22",
  "",
  "# [page]",
  "# start = 0",
  "# limit = 20",
  "",
  "[[select]]",
  "column = \x22id\x22",
  "",
  "[[select]]",
  "column = \x22name\x22",
  "",
  "# [[select]]",
  "# expr = \x22count(*) cnt\x22",
  "",
  "[[where]]",
  "op = \x22eq\x22        # eq ne gt ge lt le like not_like is_null is_not_null",
  "                 # in not_in between not_between raw group",
  "column = \x22state\x22",
  "value = \x22active\x22",
  "",
  "[[where]]",
  "logic = \x22or\x22     # and | or | and_not | or_not",
  "op = \x22group\x22",
  "",
  "[[where.conditions]]",
  "op = \x22gt\x22",
  "column = \x22age\x22",
  "value = 18",
  "",
  "[[where.conditions]]",
  "op = \x22in\x22",
  "column = \x22role\x22",
  "values = [\x22admin\x22, \x22owner\x22]",
  "",
  "[[order_by]]",
  "column = \x22created_at\x22",
  "order = \x22desc\x22   # default | asc | desc",
  "# nulls = \x22last\x22 # default | first | last",
  "",
  "# [[set]]",
  "# column = \x22name\x22",
  "# value = \x22new name\x22",
  "# term = \x22upper(?)\x22",
  "",
  "# [[values]]",
  "# column = \x22name\x22",
  "# value = \x22a\x22"]

/-- The template; every line ends in a line break. -/
def template : String := String.join (templateLines.map (· ++ "\n"))

end DataCommand.CommandLine
