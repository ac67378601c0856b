/-
Formulary.Cli.Help — help pages.

A page holds the usage, an optional description, and titled sections of entries. An entry is a head
and an explanation; the explanations of a page stand in one column, which is as narrow as the heads
allow and never beyond a fixed limit. An explanation whose head is too wide for the column stands on
the next line.
-/
import Formulary.Settings

namespace Formulary.Cli

/-- An entry of a help page. -/
structure Entry where
  indent : Nat := 2
  head : Text
  explanation : Text := []

/-- A titled section of a help page. -/
structure Section where
  title : Text
  entries : List Entry

/-- A help page. -/
structure HelpPage where
  usage : Text
  description : Text := []
  sections : List Section

namespace HelpPage

/-- The column that explanations never go beyond. -/
def widestColumn : Nat := 24

/-- The width of an entry's head with its indentation. -/
def Entry.width (e : Entry) : Nat :=
  e.indent + e.head.length

/-- The column of the explanations. -/
def column (page : HelpPage) : Nat :=
  let widths := page.sections.flatMap fun s => s.entries.map Entry.width
  min widestColumn (widths.foldl max 0 + 2)

/-- Blanks. -/
def blanks (n : Nat) : Text :=
  List.replicate n ' '

/-- An entry laid out, with its line ends. -/
def entryText (column : Nat) (e : Entry) : Text :=
  let head := blanks e.indent ++ e.head
  if e.explanation.isEmpty then head ++ ['\n']
  else if Entry.width e + 2 ≤ column then
    head ++ blanks (column - Entry.width e) ++ e.explanation ++ ['\n']
  else head ++ '\n' :: blanks column ++ e.explanation ++ ['\n']

/-- A section laid out, behind an empty line. -/
def sectionText (column : Nat) (s : Section) : Text :=
  '\n' :: s.title ++ ":\n".toList ++ s.entries.flatMap (entryText column)

/-- The usage of a page, with its line end. -/
def usageText (page : HelpPage) : Text :=
  "usage: ".toList ++ page.usage ++ ['\n']

/-- A page laid out. -/
def text (page : HelpPage) : Text :=
  page.usageText
    ++ (if page.description.isEmpty then [] else '\n' :: page.description ++ ['\n'])
    ++ page.sections.flatMap (sectionText page.column)

end HelpPage

/-! ## The pages -/

/-- The entry of the help flag. -/
def helpEntry : Entry where
  head := "-h, --help".toList
  explanation := "show this help message and exit".toList

/-- An explanation that ends in the default. -/
def withDefault (explanation : String) (standard : Text) : Text :=
  explanation.toList ++ " (default: ".toList ++ standard ++ [')']

/-- The help page of the program. -/
def programPage (settings : Settings) : HelpPage where
  usage := "statformula [-h] [--log-level LOG_LEVEL] \x7bserve,eval\x7d ...".toList
  description :=
    "StatFormula - placeholder substitution and evaluation for game-stat formulas".toList
  sections :=
    [ { title := "positional arguments".toList
        entries :=
          [ { head := "\x7bserve,eval\x7d".toList, explanation := "Available commands".toList },
            { indent := 4, head := "serve".toList
              explanation := "Start the web server".toList },
            { indent := 4, head := "eval".toList
              explanation := "Substitute placeholders and evaluate a formula".toList } ] },
      { title := "options".toList
        entries :=
          [ helpEntry,
            { head := "--log-level LOG_LEVEL".toList
              explanation := withDefault "Logging level" settings.logLevel } ] } ]

/-- The help page of the command that serves. -/
def servePage (settings : Settings) : HelpPage where
  usage := "statformula serve [-h] [--host HOST] [--port PORT] [--reload]".toList
  sections :=
    [ { title := "options".toList
        entries :=
          [ helpEntry,
            { head := "--host HOST".toList
              explanation := withDefault "Host to bind to" settings.host },
            { head := "--port PORT".toList
              explanation := withDefault "Port to bind to" (Number.intText settings.port) },
            { head := "--reload".toList
              explanation := "Enable auto-reload for development".toList } ] } ]

/-- The help page of the command that evaluates. -/
def evaluatePage : HelpPage where
  usage :=
    ("statformula eval [-h] [--set TOKEN=VALUE] [--stage TOKEN=VALUE]\n"
      ++ "                        [--key TOKEN:KEY=VALUE]\n"
      ++ "                        formula").toList
  sections :=
    [ { title := "positional arguments".toList
        entries :=
          [ { head := "formula".toList
              explanation := "Formula, e.g. \"\x7bbase\x7d * 2 + \x7battribute:str\x7d\"".toList } ] },
      { title := "options".toList
        entries :=
          [ helpEntry,
            { head := "--set TOKEN=VALUE".toList
              explanation := "Replace TOKEN with VALUE (repeatable)".toList },
            { head := "--stage TOKEN=VALUE".toList
              explanation := "One-shot replacement for TOKEN (repeatable)".toList },
            { head := "--key TOKEN:KEY=VALUE".toList
              explanation := "Replace \x7bTOKEN:KEY\x7d with VALUE (repeatable)".toList } ] } ]

end Formulary.Cli
