/-!
# Help

The texts that explain the command line.
-/

namespace Metrology.CommandLine

def programName : String := "physunits"

def version : String := "1.4.0"

/-- The lines that show how the program is called. -/
def usageLines : List String := [
  "usage: physunits [-h] [-d] [-e c] [-x] [--debug] [--version] [--config CONFIG]",
  "                 [--digits DIGITS]",
  "                 [expression ...]"]

/-- The lines of the help after the usage. -/
def helpLines : List String := [
  "",
  "Parse the unit expressions given on the command line or read from standard",
  "input and present each resulting quantity in engineering notation and as",
  "unit expressed in the seven SI base units.",
  "",
  "positional arguments:",
  "  expression            unit expression, or '-' to read from standard input",
  "",
  "options:",
  "  -h, --help            show this help message and exit",
  "  -d, --dimless, --dimensionless",
  "                        accept dimensionless quantities",
  "  -e c, --escape c      escape character for extended units [!]",
  "  -x, --extend          define units when first encountered",
  "  --debug               report debug info",
  "  --version             show program's version number and exit",
  "  --config CONFIG       JSON file with parser options",
  "  --digits DIGITS       significant digits in engineering notation",
  "",
  "Option --escape implies option --extend.",
  "",
  "Examples",
  "  physunits \"42 km\" \"1 dm3\" \"2 (3.14 mm)2\"",
  "  physunits \"330 m/s\" \"9.8 m/s2\" \"9.8 m.s-2\" \"9.8 m s-2\"",
  "  physunits \"3 kHz\" \"3 1/s\" \"3 kV.A\" \"2.2 kOhm\"",
  "  physunits --extend \"3 Foo\" \"4 !foo\" \"ffoo\" \"f!foo\" \"J2/ffoo\"",
  "",
  "Syntax (EBNF)",
  "     expression = [magnitude] factor \x7b (\" \"|\".\"|\"/\") factor \x7d .",
  "         factor = prefixed-unit [power]",
  "                | \"(\" expression \")\" .",
  "  prefixed-unit = [prefix] unit",
  "      magnitude = floating-point-number",
  "          power = signed-integral-number",
  "         prefix = \"y\"..\"Y\"",
  "           unit = [\"!\"] (\"m\"|\"kg\"|\"s\"|\"A\"|\"K\"|\"mol\"|\"cd\"...)",
  "                |  \"1\"",
  "",
  "Note 1: \"!\" is the default escape character for newly defined units.",
  "Note 2: \"1\" is used for reciprocal units; it must be followed by \"/\".",
  "",
  "For more information on SI units, see NIST Special Publication 811,",
  "Guide for the Use of the International System of Units (SI)."]

/-- Lines, each with a line feed at its end. -/
def unlines (lines : List String) : String := String.join (lines.map fun line => line ++ "\n")

def usage : String := unlines usageLines

def help : String := unlines (usageLines ++ helpLines)

end Metrology.CommandLine
