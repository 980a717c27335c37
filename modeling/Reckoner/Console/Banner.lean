import Reckoner.Console.Transcript

/-!
# Banner, help and version

The fixed texts that the command line shows.
-/

namespace Reckoner.Banner

/-- Joins lines, each with its end. -/
def ofLines (lines : List String) : Text :=
  lines.flatMap fun line => line.toList ++ ['\n']

/-- The name in large letters. -/
def logo : Text :=
  ofLines [
    "             _                    _   _     ",
    "  _ __  __ _| |_ _ __ ___   __ _| |_| |__  ",
    " | '_ \\/ _` | __| '_ ` _ \\ / _` | __| '_ \\ ",
    " | | | (_| | |_| | | | | | (_| | |_| | | |",
    " |_| |_\\__,_|\\__|_| |_| |_|\\__,_|\\__|_| |_|"
  ]

/-- Turns on the colour of the logo. -/
def colour : Text :=
  "\x1b[96m".toList

/-- Turns colours off. -/
def plain : Text :=
  "\x1b[0m".toList

/-- The logo and a line below it. -/
def text (coloured : Bool) (subtitle : Text) : Text :=
  '\n' :: (if coloured then colour ++ logo ++ plain else logo) ++ "∑ ".toList ++ subtitle ++ ['\n']

/-- The line below the logo of the command line. -/
def commandLineTitle : Text :=
  "natmath – type math or ask in words".toList

/-- The line below the logo of the server. -/
def serverTitle : Text :=
  "natmath API – POST /api/eval".toList

/-- The version. -/
def version : Text :=
  "natmath version 0.1.0".toList

/-- What the program is. -/
def about : Text :=
  "natmath CLI – strict math evaluation with natural-language fallback.".toList

/-- How the program is used. -/
def help : Text :=
  ofLines [
    "",
    "natmath help",
    "",
    "Expressions:",
    "────────────────────────────────",
    "2 + 3 * 4                      → Operators + - * / ^ (2^3^2 = 2^(3^2))",
    "sqrt(16), exp(1)               → Functions sin cos tan log log10 ln exp sqrt",
    "log(100)                       → Base 10 with one argument",
    "log(100, 2)                    → Explicit base",
    "ln(e), 2pi                     → Constants pi and e, implicit multiplication",
    "sin(30 deg), cos(pi / 3 rad)   → Explicit angle units",
    "",
    "Words:",
    "────────────────────────────────",
    "what is 2 + 2?                 → Filler words are stripped locally",
    "five plus five                 → Sent to the remote normalizer (when configured)",
    "",
    "Interactive commands:",
    "────────────────────────────────",
    "deg / rad                      → Switch angle mode for bare trig arguments",
    "history                        → Show the last 20 results, newest first",
    "history clear                  → Forget them",
    "help, version, about, exit",
    "",
    "Run:",
    "────────────────────────────────",
    "natmath [--deg] [--local]            → Interactive mode",
    "natmath [--deg] [--local] calc.txt   → One expression per line (# and // comments)",
    "natmath-server                       → REST API: POST /api/eval",
    "",
    "Environment:",
    "────────────────────────────────",
    "NATMATH_AI_KEY / OPENAI_API_KEY → Enables the remote normalizer",
    "NATMATH_AI_MODEL, NATMATH_AI_ENDPOINT, NATMATH_AI_TIMEOUT_SECS",
    "RUST_LOG=debug                  → Pipeline tracing on stderr",
    ""
  ]

end Reckoner.Banner
